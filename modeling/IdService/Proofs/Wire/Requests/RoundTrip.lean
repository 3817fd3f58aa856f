import IdService.Proofs.Wire.Encoding
import IdService.Proofs.Wire.Frames

/-! # Requests survive the wire

The encoding of a request is a frame of the grammar that carries it. While such a frame arrives, no
line of it is refused for its length, because the lines of an encoder are short; so a decoder waits
for the rest of the frame wherever it has been cut.
-/

namespace IdService.Wire

variable {limits : Limits}

/-! ## The frame of a request -/

/-- A request that a peer with these limits accepts. -/
structure Request.Fits (limits : Limits) (r : Request) : Prop where
  few : r.length ≤ limits.elements
  small : ∀ part ∈ r.parts, part.length ≤ limits.bulkBytes

/-- The sizes of a request are numbers of 64 bits, like all sizes of what is held in memory. -/
structure Request.Sized (r : Request) : Prop where
  count : Numeral.Range.int64.Contains r.length
  bytes : ∀ part ∈ r.parts, Numeral.Range.int64.Contains part.length

instance (limits : Limits) (r : Request) : Decidable (r.Fits limits) :=
  decidable_of_iff (r.length ≤ limits.elements ∧ ∀ part ∈ r.parts, part.length ≤ limits.bulkBytes)
    ⟨fun ⟨few, small⟩ => ⟨few, small⟩, fun fits => ⟨fits.few, fits.small⟩⟩

instance (r : Request) : Decidable r.Sized :=
  decidable_of_iff (Numeral.Range.int64.Contains r.length ∧
      ∀ part ∈ r.parts, Numeral.Range.int64.Contains part.length)
    ⟨fun ⟨count, bytes⟩ => ⟨count, bytes⟩, fun sized => ⟨sized.count, sized.bytes⟩⟩

theorem elements_bulks {parts : List Bytes} (small : ∀ part ∈ parts, part.length ≤ limits.bulkBytes)
    (sized : ∀ part ∈ parts, Numeral.Range.int64.Contains part.length) :
    Elements limits parts (parts.flatMap bulk) := by
  induction parts with
  | nil => exact .nil
  | cons part parts ih =>
      obtain ⟨first, others⟩ := List.forall_mem_cons.mp small
      obtain ⟨firstSized, othersSized⟩ := List.forall_mem_cons.mp sized
      exact .cons (header_announces '$' firstSized) first (ih others othersSized)

theorem Request.Fits.frame {r : Request} (fits : r.Fits limits) (sized : r.Sized) :
    CommandFrame limits r.parts r.encode :=
  .array (header_announces '*' sized.count) (Nat.succ_pos _) fits.few
    (elements_bulks fits.small sized.bytes)

/-! ## A frame that is arriving -/

private theorem header_not_overlong {mark : Char} {n : Int}
    (within : Numeral.Range.int64.Contains n) {line later rest : Bytes}
    (form : line ++ later = header mark n ++ rest) :
    ¬ Overlong mark line := by
  intro overlong
  have short : (header mark n).length ≤ lengthLineBytes + 1 := by
    have := header_length_le mark within
    simp only [lengthLineBytes]
    omega
  exact (header_announces mark within).not_tooLong short form overlong.lengthLine

theorem Announces.unique {mark mark' : Char} {n n' : Int} {line line' rest rest' : Bytes}
    (announced : Announces mark n line) (announced' : Announces mark' n' line')
    (form : line ++ rest = line' ++ rest') : n = n' ∧ line = line' ∧ rest = rest' := by
  obtain ⟨found, read, value, size⟩ := announced.lengthLine rest
  obtain ⟨found', read', value', size'⟩ := announced'.lengthLine rest'
  rw [form, read'] at read
  obtain rfl : found' = found := Option.some.inj (Except.ok.inj read)
  obtain ⟨same, behind⟩ := List.append_inj form (size.symm.trans size')
  exact ⟨value.symm.trans value', same, behind⟩

/-- Behind whole elements, the length line of the next one is not too long while it arrives. -/
private theorem Elements.not_overlong {payloads parts : List Bytes} {elements line later : Bytes}
    (bulks : Elements limits payloads elements)
    (sized : ∀ part ∈ parts, Numeral.Range.int64.Contains part.length)
    (form : elements ++ (line ++ later) = parts.flatMap bulk) : ¬ Overlong '$' line := by
  induction bulks generalizing parts with
  | nil =>
      cases parts with
      | nil =>
          intro overlong
          obtain ⟨rfl, -⟩ := List.append_eq_nil_iff.mp (List.append_eq_nil_iff.mp form).2
          exact absurd overlong.long (by simp)
      | cons part parts =>
          simp only [List.nil_append, List.flatMap_cons, bulk, List.append_assoc] at form
          exact header_not_overlong (List.forall_mem_cons.mp sized).1 form
  | @cons first payload more payloads announced small others ih =>
      cases parts with
      | nil =>
          obtain ⟨text, -, rfl⟩ := announced
          cases form
      | cons part parts =>
          obtain ⟨partSized, partsSized⟩ := List.forall_mem_cons.mp sized
          simp only [List.flatMap_cons, bulk, List.append_assoc] at form
          obtain ⟨length, -, behind⟩ := announced.unique (header_announces '$' partSized) form
          obtain ⟨-, terminated⟩ := List.append_inj behind (Int.ofNat_inj.mp length)
          exact ih partsSized (List.append_cancel_left terminated)

theorem Request.encode_in_time {r : Request} (fits : r.Fits limits) (sized : r.Sized)
    {early : Bytes} (part : early <+: r.encode) :
    ({ limits, buffer := early } : RequestDecoder).next.1 ≠ .failed .lengthLineTooLong := by
  obtain ⟨later, form⟩ := part
  obtain ⟨skipped, behind, rfl, all, comes⟩ := next_comes limits early
  intro refused
  generalize ({ limits, buffer := skipped.flatten ++ behind } : RequestDecoder).next = outcome
    at comes refused
  cases skipped with
  | cons frame skipped =>
      -- a frame without a command would be found in front of the whole encoding, too
      have skippable := all frame (List.mem_cons_self ..)
      obtain ⟨spans, command, -⟩ := (fits.frame sized).scan []
      rw [List.append_nil, ← form, List.flatten_cons, List.append_assoc, List.append_assoc,
        skippable.scan] at command
      cases command
  | nil =>
      cases comes with
      | waits | takes => cases refused
      | fails ended => exact ended (Outcome.failed.inj refused)
      | tooLong split place overlong =>
          subst split
          simp only [List.flatten_nil, List.nil_append, encode, List.append_assoc] at form
          cases place with
          | array =>
              rw [List.nil_append] at form
              exact header_not_overlong sized.count form overlong
          | element announced few bulks lacks =>
              rw [List.append_assoc] at form
              obtain ⟨-, -, behind⟩ := announced.unique (header_announces '*' sized.count) form
              exact bulks.not_overlong sized.bytes behind overlong

/-! ## Requests one behind the other -/

theorem requests_survive (limits : Limits) (requests : List Request)
    (fits : ∀ r ∈ requests, r.Fits limits) (sized : ∀ r ∈ requests, r.Sized) (chunks : List Bytes)
    (form : chunks.flatten = requests.flatMap Request.encode) :
    feedAll RequestDecoder.feed { limits } chunks = ⟨requests, none, { limits }⟩ := by
  have whole : ∀ r ∈ requests, ∀ rest,
      (RequestDecoder.append { limits } (r.encode ++ rest)).next =
        (.item (id r), RequestDecoder.append { limits } rest) := fun r member rest =>
    ((fits r member).frame (sized r member)).next rest
  have fresh : ∀ (d : RequestDecoder) more, d.append more = { limits } → more = [] := by
    intro d more same
    exact (List.append_eq_nil_iff.mp (congrArg RequestDecoder.buffer same)).2
  have inTime : ∀ r ∈ requests, ∀ early, early <+: r.encode →
      (RequestDecoder.append { limits } early).next.1 ≠ .failed .lengthLineTooLong :=
    fun r member early part => Request.encode_in_time (fits r member) (sized r member) part
  have decoded := RequestDecoder.resumes.feedAll_encoded whole
    (RequestDecoder.valid_fresh limits) fresh inTime (RequestDecoder.next_fresh limits)
    RequestDecoder.feed_eq_drain form
  rwa [List.map_id] at decoded

/-- Cuts inside terminators, a part that is a terminator itself, and parts without a byte. -/
theorem terminatorParts_survive :
    feedAll RequestDecoder.feed {}
        [Bytes.ofAscii "*2\r", Bytes.ofAscii "\n$3\r\nGET\r\n$1\r\na\r\n*3\r\n$0\r\n\r\n$2\r\n\r",
          Bytes.ofAscii "\n\r\n$0\r\n\r\n"] =
      ⟨[⟨Bytes.ofAscii "GET", [Bytes.ofAscii "a"]⟩, ⟨[], [Bytes.crlf, []]⟩], none, {}⟩ :=
  requests_survive {} [⟨Bytes.ofAscii "GET", [Bytes.ofAscii "a"]⟩, ⟨[], [Bytes.crlf, []]⟩]
    (by decide) (by decide) _ (by decide +kernel)

end IdService.Wire
