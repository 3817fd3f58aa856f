import IdService.Proofs.Wire.Requests.Limits

/-! # What a call does to the buffer

A call scans the front of the buffer again and again, until it waits, fails or has a request. The
places that a scan reports are trusted by the cuts that follow it, and those that are kept as
progress by the calls that follow. They can be: a decoder that has been fed in any way scans what a
new one would that holds the same bytes, and what a new one finds is a frame at the front. So every
cut is inside the buffer, every turn makes it shorter, and no byte goes but those of frames.
-/

namespace IdService.Wire

variable {limits : Limits}

/-! ## Places -/

/-- What a scan has found lies in the buffer that has been scanned. -/
inductive Scan.Inside (buffer : Bytes) : Scan → Prop where
  | incomplete {progress : Option Progress} (fits : ∀ p, progress = some p → p.Fits buffer) :
      Inside buffer (.incomplete progress)
  | skip {n : Nat} (some : 0 < n) (within : n ≤ buffer.length) : Inside buffer (.skip n)
  | command {n : Nat} {spans : Array Span} (some : 0 < n) (within : n ≤ buffer.length)
      (ordered : Ordered spans n) (parts : 0 < spans.size) : Inside buffer (.command n spans)
  | refused (fault : Fault) : Inside buffer (.refused fault)

theorem Request.ofParts?_eq_some {parts : List Bytes} {r : Request} :
    Request.ofParts? parts = some r ↔ r.parts = parts := by
  cases parts with
  | nil => exact iff_of_false (fun same => nomatch same) (fun same => nomatch same)
  | cons command args =>
      constructor
      · rintro ⟨rfl⟩
        rfl
      · rintro ⟨rfl, rfl⟩
        rfl

namespace RequestDecoder

variable {d d' : RequestDecoder} {n : Nat} {spans : Array Span}

theorem consumed_pos (found : d.scan.consumed? = some n) : 0 < n := by
  have shorter := length_take_lt found
  simp only [RequestDecoder.take, List.length_drop] at shorter
  omega

/-! ## Scans are told by the bytes -/

/-- Only the bytes it holds tell the scans of a decoder from those of a new one, whatever bytes
follow. -/
structure ToldByBytes (d : RequestDecoder) : Prop where
  valid : d.Valid
  alike : ∀ more, (d.append more).scan =
    ({ limits := d.limits, buffer := d.buffer ++ more } : RequestDecoder).scan

namespace ToldByBytes

theorem fresh (limits : Limits) (buffer : Bytes) :
    ({ limits, buffer } : RequestDecoder).ToldByBytes where
  valid := by rintro p ⟨⟩
  alike _ := rfl

theorem take (d : RequestDecoder) (n : Nat) : (d.take n).ToldByBytes :=
  fresh d.limits (d.buffer.drop n)

theorem append (told : d.ToldByBytes) (chunk : Bytes) : (d.append chunk).ToldByBytes where
  valid := told.valid.append chunk
  alike more := by
    rw [resumes.append_append, told.alike]
    simp only [RequestDecoder.append, List.append_assoc]

theorem scan_eq (told : d.ToldByBytes) :
    d.scan = ({ limits := d.limits, buffer := d.buffer } : RequestDecoder).scan := by
  have alike := told.alike []
  rwa [resumes.append_nil, List.append_nil] at alike

/-- Progress that a scan leaves leads to what a scan from the start would find. -/
theorem waiting (told : d.ToldByBytes) {progress : Option Progress}
    (found : d.scan = .incomplete progress) :
    ({ d with progress } : RequestDecoder).ToldByBytes where
  valid := by
    have stands := scan_stands told.valid []
    rw [found] at stands
    exact stands.2
  alike more := by
    have stands := scan_stands told.valid more
    rw [found] at stands
    exact stands.1.trans (told.alike more)

theorem next (told : d.ToldByBytes) : d.next.2.ToldByBytes := by
  fun_induction RequestDecoder.next d with
  | case1 d progress found => exact told.waiting found
  | case2 d fault found => exact fresh d.limits d.buffer
  | case3 d n found ih => exact ih (take d n)
  | case4 d n spans found request parts => exact take d n
  | case5 d n spans found hollow ih => exact ih (take d n)

theorem skips (told : d.ToldByBytes) (found : d.scan = .skip n) :
    n ≤ d.buffer.length ∧ Skippable d.limits (d.buffer.take n) := by
  have finds := @scan_finds d.limits d.buffer
  rw [← told.scan_eq, found] at finds
  cases finds with
  | @skips frame rest form skippable =>
      rw [form, List.take_left, List.length_append]
      exact ⟨Nat.le_add_right .., skippable⟩

theorem takes (told : d.ToldByBytes) (found : d.scan = .command n spans) :
    n ≤ d.buffer.length ∧ Ordered spans n ∧
      ∃ r : Request, r.parts = cut d.buffer spans ∧
        CommandFrame d.limits r.parts (d.buffer.take n) := by
  have stands := scan_stands told.valid []
  have finds := @scan_finds d.limits d.buffer
  rw [found] at stands
  rw [← told.scan_eq, found] at finds
  obtain ⟨within, ordered, -⟩ := stands
  cases finds with
  | @takes frame rest _ form command =>
      obtain ⟨r, parts⟩ := command.request
      have front : d.buffer.take frame.length = frame := by rw [form, List.take_left]
      exact ⟨within, ordered, r, parts, by rwa [front, parts]⟩

theorem inside (told : d.ToldByBytes) : d.scan.Inside d.buffer := by
  have stands := scan_stands told.valid []
  cases found : d.scan with
  | incomplete progress =>
      rw [found] at stands
      exact .incomplete stands.2
  | skip n => exact .skip (consumed_pos (by rw [found]; rfl)) (told.skips found).1
  | command n spans =>
      obtain ⟨within, ordered, r, parts, -⟩ := told.takes found
      refine .command (consumed_pos (by rw [found]; rfl)) within ordered ?_
      have count : r.parts.length = spans.size := by
        rw [parts, cut_eq ordered, List.length_map, Array.length_toList]
      rw [← count]
      exact Nat.succ_pos _
  | refused fault => exact .refused fault

end ToldByBytes

/-! ## Turns -/

/-- The turns of a call that have gone on so far, each by the bytes it has taken. -/
inductive Turns : RequestDecoder → List Bytes → RequestDecoder → Prop where
  | here (d : RequestDecoder) : Turns d [] d
  | skip {d d' : RequestDecoder} {n : Nat} {taken : List Bytes} (found : d.scan = .skip n)
      (others : Turns (d.take n) taken d') : Turns d (d.buffer.take n :: taken) d'
  /-- A command without parts would be passed over, too. -/
  | hollow {d d' : RequestDecoder} {n : Nat} {spans : Array Span} {taken : List Bytes}
      (found : d.scan = .command n spans)
      (hollow : Request.ofParts? (cut d.buffer spans) = none)
      (others : Turns (d.take n) taken d') : Turns d (d.buffer.take n :: taken) d'

/-- The turn that ends a call. -/
inductive Ends (d : RequestDecoder) : Outcome Request → RequestDecoder → Prop where
  | waits {progress : Option Progress} (found : d.scan = .incomplete progress) :
      Ends d .waiting { d with progress }
  | fails {fault : Fault} (found : d.scan = .refused fault) :
      Ends d (.failed fault) { d with progress := none }
  | takes {n : Nat} {spans : Array Span} {r : Request} (found : d.scan = .command n spans)
      (parts : Request.ofParts? (cut d.buffer spans) = some r) : Ends d (.item r) (d.take n)

/-- A call is some turns that go on, and one that ends it. -/
theorem next_turns (d : RequestDecoder) :
    ∃ taken last, Turns d taken last ∧ last.Ends d.next.1 d.next.2 := by
  fun_induction next d with
  | case1 d progress found => exact ⟨[], d, .here d, .waits found⟩
  | case2 d fault found => exact ⟨[], d, .here d, .fails found⟩
  | case3 d n found ih =>
      obtain ⟨taken, last, turns, ends⟩ := ih
      exact ⟨_, last, .skip found turns, ends⟩
  | case4 d n spans found r parts => exact ⟨[], d, .here d, .takes found parts⟩
  | case5 d n spans found hollow ih =>
      obtain ⟨taken, last, turns, ends⟩ := ih
      exact ⟨_, last, .hollow found hollow turns, ends⟩

namespace Turns

variable {taken : List Bytes}

theorem told (turns : Turns d taken d') (told : d.ToldByBytes) : d'.ToldByBytes := by
  induction turns with
  | here d => exact told
  | skip _ _ ih => exact ih (.take _ _)
  | hollow _ _ _ ih => exact ih (.take _ _)

/-- What the turns have taken are frames without a command, each of at least one byte, and nothing
else is gone. -/
theorem passes (turns : Turns d taken d') (told : d.ToldByBytes) :
    d'.limits = d.limits ∧ d.buffer = taken.flatten ++ d'.buffer ∧
      ∀ frame ∈ taken, frame ≠ [] ∧ Skippable d.limits frame := by
  induction turns with
  | here d => exact ⟨rfl, rfl, by simp⟩
  | @skip d d' n taken found others ih =>
      obtain ⟨limits, buffer, all⟩ := ih (.take d n)
      obtain ⟨within, skippable⟩ := told.skips found
      have some : 0 < n := consumed_pos (by rw [found]; rfl)
      have nonempty : d.buffer.take n ≠ [] := by
        apply List.ne_nil_of_length_pos
        rw [List.length_take_of_le within]
        exact some
      refine ⟨limits, ?_, List.forall_mem_cons.mpr ⟨⟨nonempty, skippable⟩, all⟩⟩
      rw [List.flatten_cons, List.append_assoc, ← buffer]
      exact (List.take_append_drop n d.buffer).symm
  | hollow found hollow =>
      obtain ⟨-, -, r, parts, -⟩ := told.takes found
      rw [Request.ofParts?_eq_some.mpr parts] at hollow
      cases hollow

theorem length_le (turns : Turns d taken d') :
    taken.length + d'.buffer.length ≤ d.buffer.length := by
  induction turns with
  | here d => simp
  | skip found _ ih | hollow found _ _ ih =>
      have shorter := length_take_lt (by rw [found]; rfl)
      rw [List.length_cons]
      omega

end Turns

namespace Ends

variable {outcome : Outcome Request}

theorem unskippable (ends : d.Ends outcome d') (told : d.ToldByBytes) {frame rest : Bytes}
    (form : d.buffer = frame ++ rest) : ¬ Skippable d.limits frame := by
  intro skippable
  have scan := skippable.scan rest
  rw [← form, ← told.scan_eq] at scan
  cases ends with
  | waits found => exact absurd (found.symm.trans scan) (by simp)
  | fails found => exact absurd (found.symm.trans scan) (by simp)
  | takes found => exact absurd (found.symm.trans scan) (by simp)

theorem waiting (ends : d.Ends .waiting d') : d'.buffer = d.buffer := by
  cases ends with
  | waits => rfl

/-- What a request takes is its frame, and its parts are cut out of the frame. -/
theorem item {r : Request} (ends : d.Ends (.item r) d') (told : d.ToldByBytes) :
    ∃ frame spans, frame ≠ [] ∧ d.buffer = frame ++ d'.buffer ∧
      CommandFrame d.limits r.parts frame ∧ Ordered spans frame.length ∧
      r.parts = spans.toList.map (·.slice frame) ∧ d'.progress = none := by
  cases ends with
  | @takes n spans _ found parts =>
      obtain ⟨within, ordered, r', parts', command⟩ := told.takes found
      have same := Request.ofParts?_eq_some.mp parts
      have size : (d.buffer.take n).length = n := List.length_take_of_le within
      have whole : d.buffer.take n ++ d.buffer.drop n = d.buffer := List.take_append_drop n d.buffer
      rw [parts', ← same] at command
      refine ⟨d.buffer.take n, spans, ?_, whole.symm, command, by rwa [size], ?_, rfl⟩
      · apply List.ne_nil_of_length_pos
        rw [size]
        exact consumed_pos (by rw [found]; rfl)
      · have inside := cut_append ordered (Nat.le_of_eq size.symm) (d.buffer.drop n)
        rw [whole] at inside
        rw [same, inside, cut_eq ordered]

theorem again {fault : Fault} (ends : d.Ends (.failed fault) d') (told : d.ToldByBytes) :
    d'.buffer = d.buffer ∧ d'.progress = none ∧ d'.next = (.failed fault, d') := by
  cases ends with
  | fails found =>
      rw [told.scan_eq] at found
      exact ⟨rfl, rfl, next_of_refused (d := { limits := d.limits, buffer := d.buffer }) found⟩

end Ends

end RequestDecoder

open RequestDecoder

theorem Decodes.told {stream : Bytes} {requests : List Request} {d : RequestDecoder}
    (decodes : Decodes limits stream requests d) : d.ToldByBytes := by
  induction decodes with
  | start => exact .fresh limits []
  | receive _ chunk ih => exact ih.append chunk
  | call _ ih => exact ih.next

/-! ## The whole -/

/-- However a decoder has been fed: every scan that a call makes reports places inside the buffer
and starts from such ones, and every turn takes at least one byte. When the call ends, the bytes
that are gone are those of the frames without a command that stood in front, all of them, and those
of the request if there is one. A refusal leaves no progress and is repeated by the next call. -/
theorem call_loses_nothing {stream : Bytes} {requests : List Request} {d : RequestDecoder}
    (decodes : Decodes limits stream requests d) :
    (∀ taken d', Turns d taken d' → d'.Valid ∧ d'.scan.Inside d'.buffer ∧
      d.buffer = taken.flatten ++ d'.buffer ∧
      taken.length + d'.buffer.length ≤ d.buffer.length ∧
      ∀ frame ∈ taken, frame ≠ [] ∧ Skippable limits frame) ∧
    ∃ taken last, Turns d taken last ∧ last.Ends d.next.1 d.next.2 ∧
      (∀ frame rest, last.buffer = frame ++ rest → ¬ Skippable limits frame) ∧
      (d.next.1 = .waiting → d.next.2.buffer = last.buffer) ∧
      (∀ r, d.next.1 = .item r → ∃ frame spans, frame ≠ [] ∧
        last.buffer = frame ++ d.next.2.buffer ∧ CommandFrame limits r.parts frame ∧
        Ordered spans frame.length ∧ r.parts = spans.toList.map (·.slice frame) ∧
        d.next.2.progress = none) ∧
      ∀ fault, d.next.1 = .failed fault → d.next.2.buffer = last.buffer ∧
        d.next.2.progress = none ∧ d.next.2.next = d.next := by
  have told := decodes.told
  obtain rfl := decodes.stands.limits_eq
  constructor
  · intro taken d' turns
    obtain ⟨-, buffer, all⟩ := turns.passes told
    exact ⟨(turns.told told).valid, (turns.told told).inside, buffer, turns.length_le, all⟩
  · obtain ⟨taken, last, turns, ends⟩ := d.next_turns
    have told' := turns.told told
    obtain ⟨limits, -, -⟩ := turns.passes told
    rw [← limits]
    refine ⟨taken, last, turns, ends, fun _ _ => ends.unskippable told', ?_, ?_, ?_⟩
    · intro waits
      rw [waits] at ends
      exact ends.waiting
    · intro r found
      rw [found] at ends
      exact ends.item told'
    · intro fault found
      rw [found] at ends
      obtain ⟨buffer, progress, again⟩ := ends.again told'
      exact ⟨buffer, progress, again.trans (Prod.ext found.symm rfl)⟩

/-- A blank line is passed over and an array is kept as progress, with one of its two elements. The
length of the other one is too large; the array stays where it is, and is refused again. -/
theorem secondElement_refused :
    let limits : Limits := { elements := 2, bulkBytes := 4, lineBytes := 8 }
    let array := Bytes.ofAscii "*2\r\n$1\r\na\r\n$"
    let later := Bytes.ofAscii "9\r\n"
    ∃ d : RequestDecoder, Decodes limits (Bytes.crlf ++ array ++ later) [] d ∧
      d.progress = some { count := 2, pos := 11, spans := #[⟨8, 9⟩] } ∧
      d.next.1 = .failed (.bulkLength 9) ∧ d.next.2.buffer = array ++ later ∧
      d.next.2.progress = none ∧ d.next.2.next = d.next := by
  intro limits array later
  let d : RequestDecoder :=
    { limits, buffer := array ++ later
      progress := some { count := 2, pos := 11, spans := #[⟨8, 9⟩] } }
  have skipped : (RequestDecoder.append { limits } (Bytes.crlf ++ array)).scan = .skip 2 := by
    decide +kernel
  have waits : (RequestDecoder.append { limits } (Bytes.crlf ++ array)).next =
      (.waiting, { d with buffer := array }) :=
    (next_of_skip skipped).trans (next_of_incomplete (by decide +kernel))
  have begun : Decodes limits (Bytes.crlf ++ array) [] (RequestDecoder.append { limits } _) :=
    Decodes.start.receive (Bytes.crlf ++ array)
  have fed := begun.call.receive later
  rw [waits] at fed
  have refused : d.scan = .refused (.bulkLength 9) := by decide +kernel
  have next := next_of_refused refused
  obtain ⟨-, _, _, -, -, -, -, -, failed⟩ := call_loses_nothing fed
  obtain ⟨-, progress, again⟩ := failed _ (congrArg Prod.fst next)
  exact ⟨d, fed, rfl, congrArg Prod.fst next, congrArg (·.2.buffer) next, progress, again⟩

end IdService.Wire
