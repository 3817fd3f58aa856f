import IdService.Proofs.Wire.Requests

/-! # Frames at the front of a buffer

A scan finds a frame of the grammar if there is one, whatever stands behind it, and what it finds is
one. So a decoder passes over the frames without a command and takes the first one that has one. It
refuses a length line for its size where such a line has gone on for too long, and only there.
-/

namespace IdService.Wire

variable {limits : Limits}

/-! ## A frame is found -/

theorem Announces.scan {n : Int} {line : Bytes} (announced : Announces '*' n line) (rest : Bytes) :
    ({ limits, buffer := line ++ rest } : RequestDecoder).scan =
      scanArray limits (line ++ rest) none := by
  obtain ⟨text, -, rfl⟩ := announced
  exact RequestDecoder.scan_array _

theorem scan_text {line : Bytes} (mark : line.head? ≠ some (Byte.ofAscii '*')) (rest : Bytes) :
    ({ limits, buffer := line ++ Byte.lf :: rest } : RequestDecoder).scan =
      scanLine limits (line ++ Byte.lf :: rest) := by
  cases line with
  | nil => exact RequestDecoder.scan_line (by decide) rest
  | cons first line => exact RequestDecoder.scan_line (by simpa using mark) _

theorem Announces.scan_elements {count : Nat} {line : Bytes} (announced : Announces '*' count line)
    (positive : 1 ≤ count) (few : count ≤ limits.elements) (rest : Bytes) :
    ∃ p : Progress, p.pos = line.length ∧ p.spans = #[] ∧
      ({ limits, buffer := line ++ rest } : RequestDecoder).scan =
        scanElements limits count p rest := by
  obtain ⟨found, read, value, size⟩ := announced.lengthLine rest
  refine ⟨found.progress, size, rfl, ?_⟩
  rw [announced.scan, scanArray_of_line read (by omega) (by omega)]
  simp only [scanArray, LengthLine.progress, value, size, List.drop_left]
  rfl

theorem Skippable.scan {frame : Bytes} (skippable : Skippable limits frame) (rest : Bytes) :
    ({ limits, buffer := frame ++ rest } : RequestDecoder).scan = .skip frame.length := by
  cases skippable with
  | array announced empty =>
      obtain ⟨line, found, rfl, size⟩ := announced.lengthLine rest
      rw [announced.scan, ← size]
      simp only [scanArray, found, if_pos empty]
  | @line line ends short blank =>
      have mark : line.head? ≠ some (Byte.ofAscii '*') := by
        intro star
        have space := blank _ (List.mem_of_head? star)
        exact absurd space (by decide)
      rw [List.append_assoc, List.singleton_append, scan_text mark, scanLine_of_line ends,
        if_neg (by omega), if_pos (words_eq_nil_iff.mpr blank)]
      simp

theorem CommandFrame.scan {frame : Bytes} {parts : List Bytes}
    (command : CommandFrame limits parts frame) (rest : Bytes) :
    ∃ spans, ({ limits, buffer := frame ++ rest } : RequestDecoder).scan =
        .command frame.length spans ∧ cut (frame ++ rest) spans = parts := by
  cases command with
  | @array bytes elements parts announced positive few bulks =>
      obtain ⟨p, pos, spans, scan⟩ := announced.scan_elements positive few (elements ++ rest)
      obtain ⟨p', advances⟩ := Advances.of_elements bulks p rest
      obtain ⟨elements', -, form, pos'⟩ := advances.elements
      obtain rfl := List.append_cancel_right form
      have whole : scanElements limits parts.length p (elements ++ rest) =
          .command p'.pos p'.spans := advances.scanElements 0
      refine ⟨p'.spans, ?_, ?_⟩
      · rw [List.append_assoc, scan, whole, pos', pos, List.length_append]
      · rw [List.append_assoc, advances.cut pos spans]
  | @line line mark ends short word =>
      have worded : words line ≠ [] := words_ne_nil_iff.mpr word
      refine ⟨wordSpans 0 none #[] line, ?_, ?_⟩
      · rw [List.append_assoc, List.singleton_append, scan_text mark, scanLine_of_line ends,
          if_neg (by omega), if_neg worded]
        simp
      · rw [List.append_assoc]
        exact (wordSpans_spec line _).2

theorem Overlong.lengthLine {mark : Char} {line : Bytes} (overlong : Overlong mark line) :
    lengthLine line = .error .lengthLineTooLong := by
  simp only [Wire.lengthLine, overlong.unended, if_pos overlong.long]

theorem BeforeLine.scan_element {before input : Bytes} {fault : Fault}
    (place : BeforeLine limits before '$') (refused : scanElement limits input = .error fault) :
    ({ limits, buffer := before ++ input } : RequestDecoder).scan = .refused fault := by
  cases place with
  | @element count bytes elements payloads announced few bulks lacks =>
      have positive : 1 ≤ count := Nat.lt_of_le_of_lt (Nat.zero_le _) lacks
      obtain ⟨p, -, -, scan⟩ := announced.scan_elements positive few (elements ++ input)
      obtain ⟨p', advances⟩ := Advances.of_elements bulks p input
      obtain ⟨missing, total⟩ := Nat.exists_eq_add_of_lt lacks
      -- the scan passes the elements that are whole and is refused at the one behind them
      have onward := advances.scanElements (missing + 1)
      rw [← Nat.add_assoc, ← total] at onward
      rw [List.append_assoc, scan, onward, scanElements, refused]

theorem BeforeLine.scan_line {before tail : Bytes} {mark : Char} {fault : Fault}
    (place : BeforeLine limits before mark)
    (refused : lengthLine (Byte.ofAscii mark :: tail) = .error fault) :
    ({ limits, buffer := before ++ Byte.ofAscii mark :: tail } : RequestDecoder).scan =
      .refused fault := by
  cases place with
  | array =>
      rw [List.nil_append, RequestDecoder.scan_array]
      simp only [scanArray, refused]
  | element announced few bulks lacks =>
      have element : scanElement limits (Byte.ofAscii '$' :: tail) = .error fault := by
        simp only [scanElement, if_true, refused]
        rfl
      exact (BeforeLine.element announced few bulks lacks).scan_element element

theorem BeforeLine.scan {before line : Bytes} {mark : Char} (place : BeforeLine limits before mark)
    (overlong : Overlong mark line) :
    ({ limits, buffer := before ++ line } : RequestDecoder).scan = .refused .lengthLineTooLong := by
  have refused := overlong.lengthLine
  obtain ⟨tail, rfl⟩ := List.head?_eq_some_iff.mp overlong.mark
  exact place.scan_line refused

/-! ## What is found is a frame -/

/-- All that a scan can find at the front of a buffer. -/
inductive Finds (limits : Limits) (buffer : Bytes) : Scan → Prop where
  | waits (progress : Option Progress) : Finds limits buffer (.incomplete progress)
  | skips {frame rest : Bytes} (form : buffer = frame ++ rest)
      (skippable : Skippable limits frame) : Finds limits buffer (.skip frame.length)
  | takes {frame rest : Bytes} {spans : Array Span} (form : buffer = frame ++ rest)
      (command : CommandFrame limits (cut buffer spans) frame) :
      Finds limits buffer (.command frame.length spans)
  | refuses {fault : Fault} (ended : fault ≠ .lengthLineTooLong) :
      Finds limits buffer (.refused fault)
  | tooLong {before line : Bytes} {mark : Char} (form : buffer = before ++ line)
      (place : BeforeLine limits before mark) (overlong : Overlong mark line) :
      Finds limits buffer (.refused .lengthLineTooLong)

private theorem finds_line (first : UInt8) (other : first ≠ Byte.ofAscii '*') (tail : Bytes) :
    Finds limits (first :: tail) (scanLine limits (first :: tail)) := by
  rcases line_cases (first :: tail) with unended | ⟨line, rest, form, ends⟩
  · rw [scanLine_open unended]
    split
    · exact .refuses (by decide)
    · exact .waits none
  · have frame : first :: tail = line ++ [Byte.lf] ++ rest := by simp [form]
    have size : line.length + 1 = (line ++ [Byte.lf]).length := by simp
    rw [form, scanLine_of_line ends, ← form, size]
    split
    · exact .refuses (by decide)
    · rename_i short
      split
      · rename_i blank
        exact .skips frame (.line ends (by omega) (words_eq_nil_iff.mp blank))
      · rename_i worded
        have parts : cut (first :: tail) (wordSpans 0 none #[] line) = words line := by
          rw [form]
          exact (wordSpans_spec line _).2
        refine .takes frame (parts ▸ .line ?_ ends (by omega) ?_)
        · cases line with
          | nil => simp
          | cons b line =>
              rw [← (List.cons.inj form).1]
              simpa using other
        · exact words_ne_nil_iff.mp worded

private theorem scanPayload_ne_tooLong {header : Nat} {n : Int} {rest : Bytes} :
    scanPayload limits header n rest ≠ .error .lengthLineTooLong := by
  unfold scanPayload
  cases sized : bulkSize limits n with
  | error fault => simp [bulkSize_error sized]
  | ok size =>
      dsimp only
      split
      · split <;> simp
      · simp

theorem scanElement_tooLong {input : Bytes}
    (refused : scanElement limits input = .error .lengthLineTooLong) : Overlong '$' input := by
  rcases scanElement_cases limits input with ⟨-, scan⟩ | ⟨mark, tail, -, -, scan⟩ |
    ⟨-, scan⟩ | ⟨tail, cause, rfl, line, scan⟩ | ⟨line, n, rest, -, -, scan⟩
  all_goals rw [scan] at refused
  · cases refused
  · cases refused
  · cases refused
  · cases refused
    obtain ⟨unended, long⟩ := lengthLine_tooLong line
    exact ⟨rfl, unended, long⟩
  · exact absurd refused scanPayload_ne_tooLong

private theorem finds_elements {count : Nat} {line rest : Bytes} {p : Progress}
    (announced : Announces '*' count line) (positive : 1 ≤ count) (few : count ≤ limits.elements)
    (pos : p.pos = line.length) (spans : p.spans = #[]) :
    Finds limits (line ++ rest) (scanElements limits count p rest) := by
  obtain ⟨payloads, p', rest', advances, stop⟩ := scanElements_cases limits count p rest
  have parts := advances.cut pos spans
  obtain ⟨elements, bulks, rfl, pos'⟩ := advances.elements
  rcases stop with ⟨all, scan⟩ | ⟨-, -, scan⟩ | ⟨lacks, fault, refused, scan⟩
  · subst all
    have form : line ++ (elements ++ rest') = line ++ elements ++ rest' := by simp
    rw [scan, pos', pos, ← List.length_append]
    exact .takes form (parts.symm ▸ .array announced positive few bulks)
  · rw [scan]
    exact .waits _
  · rw [scan]
    by_cases late : fault = .lengthLineTooLong
    · subst late
      exact .tooLong (List.append_assoc ..).symm (.element announced few bulks lacks)
        (scanElement_tooLong refused)
    · exact .refuses late

private theorem finds_array (tail : Bytes) :
    Finds limits (Byte.ofAscii '*' :: tail) (scanArray limits (Byte.ofAscii '*' :: tail) none) := by
  rcases scanArray_cases limits (Byte.ofAscii '*' :: tail) with ⟨-, scan⟩ | ⟨fault, refused, scan⟩ |
    ⟨line, read, empty, scan⟩ | ⟨line, -, -, scan⟩ | ⟨line, read, positive, few, -⟩
  · rw [scan]
    exact .waits _
  · rw [scan]
    by_cases late : fault = .lengthLineTooLong
    · subst late
      obtain ⟨unended, long⟩ := lengthLine_tooLong refused
      exact .tooLong rfl .array ⟨rfl, unended, long⟩
    · exact .refuses late
  · obtain ⟨frame, rest, form, announced, size⟩ := announces_of_lengthLine read
    rw [scan, ← size]
    exact .skips form (.array announced empty)
  · rw [scan]
    exact .refuses (by simp)
  · obtain ⟨bytes, rest, form, announced, -⟩ := announces_of_lengthLine read
    obtain ⟨count, value⟩ := Int.eq_ofNat_of_zero_le (Int.le_of_lt positive)
    rw [value] at announced positive few
    have present : 1 ≤ count := by omega
    have fewer : count ≤ limits.elements := by omega
    obtain ⟨p, pos, spans, scan⟩ := announced.scan_elements present fewer rest
    rw [form, ← announced.scan, scan]
    exact finds_elements announced present fewer pos spans

theorem scan_finds (buffer : Bytes) :
    Finds limits buffer ({ limits, buffer } : RequestDecoder).scan := by
  cases buffer with
  | nil => exact .waits none
  | cons first tail =>
      by_cases star : first = Byte.ofAscii '*'
      · subst star
        rw [RequestDecoder.scan_array]
        exact finds_array tail
      · rw [RequestDecoder.scan_line star]
        exact finds_line first star tail

/-! ## Decoding frames -/

theorem CommandFrame.request {parts : List Bytes} {frame : Bytes}
    (command : CommandFrame limits parts frame) :
    ∃ request : Request, request.parts = parts := by
  have nonempty : parts ≠ [] := by
    cases command with
    | array _ positive _ _ => exact List.ne_nil_of_length_pos positive
    | line _ _ _ word => exact words_ne_nil_iff.mpr word
  obtain ⟨name, args, rfl⟩ := List.exists_cons_of_ne_nil nonempty
  exact ⟨⟨name, args⟩, rfl⟩

theorem Skippable.next {frame : Bytes} (skippable : Skippable limits frame) (rest : Bytes) :
    ({ limits, buffer := frame ++ rest } : RequestDecoder).next =
      ({ limits, buffer := rest } : RequestDecoder).next := by
  rw [RequestDecoder.next_of_skip (skippable.scan rest), RequestDecoder.take, List.drop_left]

theorem next_skipped {skipped : List Bytes}
    (all : ∀ frame ∈ skipped, Skippable limits frame) (rest : Bytes) :
    ({ limits, buffer := skipped.flatten ++ rest } : RequestDecoder).next =
      ({ limits, buffer := rest } : RequestDecoder).next := by
  induction skipped with
  | nil => rfl
  | cons frame skipped ih =>
      obtain ⟨first, others⟩ := List.forall_mem_cons.mp all
      rw [List.flatten_cons, List.append_assoc, first.next, ih others]

theorem CommandFrame.next {request : Request} {frame : Bytes}
    (command : CommandFrame limits request.parts frame) (rest : Bytes) :
    ({ limits, buffer := frame ++ rest } : RequestDecoder).next =
      (.item request, { limits, buffer := rest }) := by
  obtain ⟨spans, scan, parts⟩ := command.scan rest
  have whole : Request.ofParts? (cut (frame ++ rest) spans) = some request := by
    rw [parts]
    rfl
  rw [RequestDecoder.next_of_command scan whole, RequestDecoder.take, List.drop_left]

theorem BeforeLine.next {before line : Bytes} {mark : Char} (place : BeforeLine limits before mark)
    (overlong : Overlong mark line) :
    ({ limits, buffer := before ++ line } : RequestDecoder).next =
      (.failed .lengthLineTooLong, { limits, buffer := before ++ line }) :=
  RequestDecoder.next_of_refused (place.scan overlong)

/-- What a decoder comes to once it has passed over the frames without a command. -/
inductive Comes (limits : Limits) (buffer : Bytes) : Outcome Request × RequestDecoder → Prop where
  | waits (progress : Option Progress) :
      Comes limits buffer (.waiting, { limits, buffer, progress })
  | takes {request : Request} {frame rest : Bytes} (form : buffer = frame ++ rest)
      (command : CommandFrame limits request.parts frame) :
      Comes limits buffer (.item request, { limits, buffer := rest })
  | fails {fault : Fault} (ended : fault ≠ .lengthLineTooLong) :
      Comes limits buffer (.failed fault, { limits, buffer })
  | tooLong {before line : Bytes} {mark : Char} (form : buffer = before ++ line)
      (place : BeforeLine limits before mark) (overlong : Overlong mark line) :
      Comes limits buffer (.failed .lengthLineTooLong, { limits, buffer })

theorem next_comes (limits : Limits) (buffer : Bytes) :
    ∃ (skipped : List Bytes) (rest : Bytes), buffer = skipped.flatten ++ rest ∧
      (∀ frame ∈ skipped, Skippable limits frame) ∧
      Comes limits rest ({ limits, buffer } : RequestDecoder).next := by
  induction size : buffer.length using Nat.strongRecOn generalizing buffer with
  | ind n ih =>
      have finds := @scan_finds limits buffer
      generalize found : ({ limits, buffer } : RequestDecoder).scan = scan at finds
      cases finds with
      | waits progress =>
          rw [RequestDecoder.next_of_incomplete found]
          exact ⟨[], buffer, rfl, by simp, .waits progress⟩
      | @skips frame rest form skippable =>
          have shorter := RequestDecoder.length_take_lt (by rw [found]; rfl)
          subst form
          simp only [RequestDecoder.take, List.drop_left] at shorter
          obtain ⟨skipped, rest', form, all, comes⟩ := ih rest.length (size ▸ shorter) rest rfl
          rw [skippable.next rest]
          refine ⟨frame :: skipped, rest', ?_, List.forall_mem_cons.mpr ⟨skippable, all⟩, comes⟩
          rw [form, List.flatten_cons, List.append_assoc]
      | @takes frame rest spans form command =>
          obtain ⟨request, parts⟩ := command.request
          rw [← parts] at command
          refine ⟨[], buffer, rfl, by simp, ?_⟩
          rw [form, command.next rest]
          exact .takes rfl command
      | refuses ended =>
          rw [RequestDecoder.next_of_refused found]
          exact ⟨[], buffer, rfl, by simp, .fails ended⟩
      | tooLong form place overlong =>
          rw [RequestDecoder.next_of_refused found]
          exact ⟨[], buffer, rfl, by simp, .tooLong form place overlong⟩

end IdService.Wire
