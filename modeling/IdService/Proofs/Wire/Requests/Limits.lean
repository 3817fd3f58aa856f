import IdService.Proofs.Wire.Faults
import IdService.Proofs.Wire.Requests.Accepted
import IdService.Proofs.Wire.Requests.Cuts
import IdService.Proofs.Wire.Requests.Progress
import IdService.Proofs.Wire.Requests.RoundTrip

/-! # Limits hold while requests arrive

A length line is judged when it is whole, and a line of words when it has gone on for too long, so a
frame beyond a limit is refused before its bytes have arrived. Where a decoder stands is told by the
bytes it has been given and the requests it has returned: what is left in its buffer starts where a
frame starts, however the bytes were cut into chunks and however often it was asked.
-/

namespace IdService.Wire

variable {limits : Limits}

/-! ## Frames beyond a limit -/

/-- The front of a frame that is beyond a limit, and the fault that says so. What stands behind is
left open: it may be nothing yet. -/
inductive Breach (limits : Limits) : Bytes → Fault → Prop where
  | elements {line : Bytes} {n : Int} (announced : Announces '*' n line) (many : limits.elements < n)
      (rest : Bytes) : Breach limits (line ++ rest) (.arrayLength n)
  | bulk {before line : Bytes} {n : Int} (place : BeforeLine limits before '$')
      (announced : Announces '$' n line) (beyond : n < 0 ∨ limits.bulkBytes < n) (rest : Bytes) :
      Breach limits (before ++ (line ++ rest)) (.bulkLength n)
  /-- A length line with a number of more than 64 bits. -/
  | wide {before text : Bytes} {mark : Char} {n : Int} (place : BeforeLine limits before mark)
      (writes : Writes text n) (beyond : ¬ Numeral.Range.int64.Contains n) (rest : Bytes) :
      Breach limits (before ++ Byte.ofAscii mark :: (text ++ Bytes.crlf ++ rest)) .invalidLength
  | line {bytes : Bytes} (mark : bytes.head? ≠ some (Byte.ofAscii '*'))
      (long : limits.lineBytes < bytes.length)
      (unended : Byte.lf ∉ bytes.take (limits.lineBytes + 1)) :
      Breach limits bytes .inlineTooLong

theorem lengthLine_wide {text : Bytes} {n : Int} (writes : Writes text n)
    (beyond : ¬ Numeral.Range.int64.Contains n) (mark : UInt8) (rest : Bytes) :
    lengthLine (mark :: (text ++ Bytes.crlf ++ rest)) = .error .invalidLength := by
  have unread : integer? text = none := by
    cases read : integer? text with
    | none => rfl
    | some m =>
        obtain ⟨also, within⟩ := integer?_eq_some_iff.mp read
        exact absurd (writes.unique also ▸ within) beyond
  have ended := crlfIndex?_text (crlfIndex?_of_plain writes.cr_not_mem) rest
  simp only [lengthLine, List.tail_cons, ended]
  rw [List.append_assoc, List.take_left, unread]

theorem scanPayload_beyond {n : Int} (beyond : n < 0 ∨ limits.bulkBytes < n) (header : Nat)
    (rest : Bytes) : scanPayload limits header n rest = .error (.bulkLength n) := by
  have refused : bulkSize limits n = .error (.bulkLength n) := by
    rw [bulkSize, if_neg (by omega)]
  simp only [scanPayload, refused]

/-- A line of words that has gone on for too long is refused, whether it has ended by now or not. -/
theorem scanLine_long {bytes : Bytes} (long : limits.lineBytes < bytes.length)
    (unended : Byte.lf ∉ bytes.take (limits.lineBytes + 1)) :
    scanLine limits bytes = .refused .inlineTooLong := by
  rcases line_cases bytes with nowhere | ⟨line, rest, rfl, ends⟩
  · rw [scanLine_open nowhere, if_pos long]
  · have late : limits.lineBytes < line.length := by
      apply Nat.lt_of_not_le
      intro early
      apply unended
      have whole : line ++ [Byte.lf] <+: (line ++ Byte.lf :: rest).take (limits.lineBytes + 1) :=
        List.prefix_of_prefix_length_le ⟨rest, by simp⟩ (List.take_prefix _ _)
          (by simp only [List.length_take, List.length_append, List.length_cons,
            List.length_nil]; omega)
      exact whole.subset (by simp)
    rw [scanLine_of_line ends, if_pos late]

theorem Breach.scan {bytes : Bytes} {fault : Fault} (breach : Breach limits bytes fault) :
    ({ limits, buffer := bytes } : RequestDecoder).scan = .refused fault := by
  cases breach with
  | @elements line n announced many rest =>
      obtain ⟨found, read, rfl, -⟩ := announced.lengthLine rest
      rw [announced.scan]
      simp only [scanArray, read, if_neg (by omega : ¬ found.value ≤ 0),
        if_neg (by omega : ¬ found.value ≤ limits.elements)]
  | bulk place announced beyond rest =>
      apply place.scan_element
      rw [scanElement_of_line announced, scanPayload_beyond beyond]
  | wide place writes beyond rest => exact place.scan_line (lengthLine_wide writes beyond _ rest)
  | line mark long unended =>
      obtain ⟨first, tail, rfl⟩ := List.exists_cons_of_length_pos (Nat.zero_lt_of_lt long)
      rw [RequestDecoder.scan_line (by simpa using mark), scanLine_long long unended]

/-- A frame beyond a limit is refused, whatever has arrived behind its front. -/
theorem Breach.next {bytes : Bytes} {fault : Fault} (breach : Breach limits bytes fault) :
    ({ limits, buffer := bytes } : RequestDecoder).next =
      (.failed fault, { limits, buffer := bytes }) :=
  RequestDecoder.next_of_refused breach.scan

/-! ## Requests within the limits -/

theorem Elements.small {payloads : List Bytes} {elements : Bytes}
    (bulks : Elements limits payloads elements) :
    ∀ payload ∈ payloads, payload.length ≤ limits.bulkBytes := by
  induction bulks with
  | nil => simp
  | cons _ small _ ih => exact List.forall_mem_cons.mpr ⟨small, ih⟩

theorem CommandFrame.of_array {parts : List Bytes} {frame : Bytes}
    (command : CommandFrame limits parts frame) (mark : frame.head? = some (Byte.ofAscii '*')) :
    parts.length ≤ limits.elements ∧ ∀ part ∈ parts, part.length ≤ limits.bulkBytes := by
  cases command with
  | array _ _ few bulks => exact ⟨few, bulks.small⟩
  | @line line other _ _ _ =>
      cases line with
      | nil => exact absurd mark (by decide)
      | cons first line => exact absurd mark other

theorem CommandFrame.of_line {parts : List Bytes} {frame : Bytes}
    (command : CommandFrame limits parts frame) (mark : frame.head? ≠ some (Byte.ofAscii '*')) :
    ∃ line, frame = line ++ [Byte.lf] ∧ Byte.lf ∉ line ∧ line.length ≤ limits.lineBytes := by
  cases command with
  | array announced =>
      obtain ⟨text, -, rfl⟩ := announced
      exact absurd rfl mark
  | line _ ends short _ => exact ⟨_, rfl, ends, short⟩

/-! ## Where a decoder stands -/

/-- The items that a call returns: one or none. -/
def Outcome.items {α : Type} : Outcome α → List α
  | .item a => [a]
  | _ => []

/-- A decoder that has been given these bytes, in chunks and with calls in between, and has returned
these requests. -/
inductive Decodes (limits : Limits) : Bytes → List Request → RequestDecoder → Prop where
  | start : Decodes limits [] [] { limits }
  | receive {stream : Bytes} {requests : List Request} {d : RequestDecoder}
      (before : Decodes limits stream requests d) (chunk : Bytes) :
      Decodes limits (stream ++ chunk) requests (d.append chunk)
  | call {stream : Bytes} {requests : List Request} {d : RequestDecoder}
      (before : Decodes limits stream requests d) :
      Decodes limits stream (requests ++ d.next.1.items) d.next.2

/-- A decoder that stands where a frame starts: the bytes in front are frames with the requests it
has returned. -/
structure AtFrame (limits : Limits) (stream : Bytes) (requests : List Request)
    (d : RequestDecoder) : Prop where
  limits_eq : d.limits = limits
  unmarked : d.Unmarked
  split : ∃ frames, stream = frames ++ d.buffer ∧ Frames limits requests frames

namespace AtFrame

variable {stream : Bytes} {requests : List Request} {d : RequestDecoder}

theorem start (limits : Limits) : AtFrame limits [] [] { limits } :=
  ⟨rfl, .fresh limits [], [], rfl, .nil⟩

theorem receive (stands : AtFrame limits stream requests d) (chunk : Bytes) :
    AtFrame limits (stream ++ chunk) requests (d.append chunk) := by
  obtain ⟨rfl, unmarked, frames, rfl, carries⟩ := stands
  exact ⟨rfl, unmarked.append chunk, frames, List.append_assoc .., carries⟩

theorem next_eq (stands : AtFrame limits stream requests d) :
    d.next = ({ limits, buffer := d.buffer } : RequestDecoder).next := by
  rw [← stands.limits_eq]
  exact stands.unmarked.next_eq

theorem call (stands : AtFrame limits stream requests d) :
    AtFrame limits stream (requests ++ d.next.1.items) d.next.2 := by
  obtain ⟨frames, split, carries⟩ := stands.split
  obtain ⟨skipped, rest, form, all, comes⟩ := next_comes limits d.buffer
  have passed : stream = frames ++ skipped.flatten ++ rest := by
    rw [split, form, List.append_assoc]
  have carries' := carries.append (Frames.of_skipped all)
  rw [← stands.next_eq] at comes
  generalize found : d.next = result at comes
  cases comes with
  | waits progress =>
      exact ⟨rfl, (stands.unmarked.waiting found).2, _, passed, carries'⟩
  | @takes r frame behind form command =>
      refine ⟨rfl, .fresh limits behind, frames ++ skipped.flatten ++ frame, ?_, ?_⟩
      · rw [passed, form, List.append_assoc _ frame]
      · have one := carries'.append (.command command .nil)
        rwa [List.append_nil, List.append_nil] at one
  | fails => exact ⟨rfl, .fresh limits rest, _, passed, carries'⟩
  | tooLong => exact ⟨rfl, .fresh limits rest, _, passed, carries'⟩

theorem refuses (stands : AtFrame limits stream requests d) {frames rest : Bytes} {fault : Fault}
    (form : stream = frames ++ rest) (carries : Frames limits requests frames)
    (breach : Breach limits rest fault) : d.next.1 = .failed fault := by
  obtain ⟨taken, split, carries'⟩ := stands.split
  -- the same bytes decoded behind the one split and behind the other
  have whole : (({ limits } : RequestDecoder).feed d.buffer).prepend requests =
      (({ limits } : RequestDecoder).feed rest).prepend requests := by
    rw [← carries'.feed, ← carries.feed, ← split, form]
  have failed : ({ limits } : RequestDecoder).feed rest = ⟨[], some fault, _⟩ :=
    drain_failed breach.next
  rw [failed] at whole
  have items : (({ limits } : RequestDecoder).feed d.buffer).items = [] :=
    List.append_cancel_left (congrArg Drained.items whole)
  have fault_eq : (({ limits } : RequestDecoder).feed d.buffer).fault = some fault :=
    congrArg Drained.fault whole
  obtain ⟨last, yields, stop⟩ := @drain_cases _ _ RequestDecoder.next (·.buffer.length)
    (fun _ _ _ => RequestDecoder.length_next_lt) { limits, buffer := d.buffer }
  change Yields _ _ (({ limits } : RequestDecoder).feed d.buffer).items last at yields
  rw [items] at yields
  cases yields with
  | done =>
      rcases stop with ⟨-, waits⟩ | ⟨found, next, same⟩
      · exact absurd (waits.symm.trans fault_eq) (by simp)
      · obtain rfl : found = fault := Option.some.inj (same.symm.trans fault_eq)
        rw [stands.next_eq, next]

end AtFrame

theorem Decodes.stands {stream : Bytes} {requests : List Request} {d : RequestDecoder}
    (decodes : Decodes limits stream requests d) : AtFrame limits stream requests d := by
  induction decodes with
  | start => exact .start limits
  | receive _ chunk ih => exact ih.receive chunk
  | call _ ih => exact ih.call

/-! ## Limits hold -/

/-- However the bytes of a stream have been cut, a request that is returned is within the limits of
its form, and a frame beyond a limit is refused by the first call that comes to it. -/
theorem limits_hold {stream : Bytes} {requests : List Request} {d : RequestDecoder}
    (decodes : Decodes limits stream requests d) :
    (∀ r d', d.next = (.item r, d') → ∃ before frame, stream = before ++ frame ++ d'.buffer ∧
      Frames limits requests before ∧ CommandFrame limits r.parts frame ∧
      (frame.head? = some (Byte.ofAscii '*') → r.Fits limits) ∧
      (frame.head? ≠ some (Byte.ofAscii '*') →
        ∃ line, frame = line ++ [Byte.lf] ∧ Byte.lf ∉ line ∧ line.length ≤ limits.lineBytes)) ∧
    (∀ frames rest fault, stream = frames ++ rest → Frames limits requests frames →
      Breach limits rest fault → d.next.1 = .failed fault ∧ fault.isProtocol) := by
  have stands := decodes.stands
  constructor
  · intro r d' found
    obtain ⟨taken, split, carries⟩ := stands.split
    rw [stands.next_eq] at found
    obtain ⟨skipped, frame, rest, form, all, command, rfl⟩ :=
      RequestDecoder.next_eq_item_iff.mp found
    refine ⟨taken ++ skipped.flatten, frame, ?_, ?_, command, ?_, command.of_line⟩
    · rw [split, form]
      simp only [List.append_assoc]
    · have before := carries.append (Frames.of_skipped all)
      rwa [List.append_nil] at before
    · intro mark
      obtain ⟨few, small⟩ := command.of_array mark
      exact ⟨few, small⟩
  · intro frames rest fault form carries breach
    have refused := stands.refuses form carries breach
    exact ⟨refused, RequestDecoder.next_protocol (Prod.ext refused rfl)⟩

/-- A request as large as allowed, cut inside a length line, and behind it the length line of a
payload that is one byte too long and has not arrived. -/
theorem tooLongPayload_refused :
    let limits : Limits := { elements := 1, bulkBytes := 2, lineBytes := 3 }
    let r : Request := ⟨Bytes.ofAscii "ok", []⟩
    let early := Bytes.ofAscii "*1\r\n$2\r"
    let later := Bytes.ofAscii "\nok\r\n*1\r\n$3\r\n"
    ∃ d d' : RequestDecoder, Decodes limits (early ++ later) [] d ∧ d.next = (.item r, d') ∧
      Decodes limits (early ++ later) [r] d' ∧ d'.next.1 = .failed (.bulkLength 3) := by
  intro limits r early later
  let d : RequestDecoder :=
    { limits, buffer := early ++ later, progress := some { count := 1, pos := 4, spans := #[] } }
  have waits :
      (RequestDecoder.append { limits } early).next = (.waiting, { d with buffer := early }) :=
    RequestDecoder.next_of_incomplete (by decide +kernel)
  have begun := ((Decodes.start : Decodes limits [] [] _).receive early).call.receive later
  rw [waits] at begun
  have scan : d.scan = .command 12 #[⟨8, 10⟩] := by decide +kernel
  have parts : Request.ofParts? (cut d.buffer #[⟨8, 10⟩]) = some r := by decide +kernel
  have given : d.next = (.item r, d.take 12) := RequestDecoder.next_of_command scan parts
  have onward : Decodes limits (early ++ later) ([] ++ d.next.1.items) d.next.2 := begun.call
  rw [given] at onward
  have form : early ++ later = (r.encode ++ []) ++ (header '*' 1 ++ [] ++ (header '$' 3 ++ [])) := by
    decide +kernel
  have fits : r.Fits limits := by decide
  have frames : Frames limits [r] (r.encode ++ []) := .command (fits.frame (by decide)) .nil
  have place : BeforeLine limits (header '*' 1 ++ []) '$' :=
    .element (header_announces '*' (by decide)) (Nat.le_refl 1) .nil Nat.one_pos
  have long : (3 : Int) < 0 ∨ (limits.bulkBytes : Int) < 3 := by decide
  have breach := Breach.bulk place (header_announces '$' (by decide)) long []
  have refused := (limits_hold onward).2 _ _ _ form frames breach
  exact ⟨d, d.take 12, begun, given, onward, refused.1⟩

end IdService.Wire
