import IdService.Wire.Feed
import IdService.Wire.Line
import IdService.Wire.Request

/-!
# Decoding requests

A request is an array of bulk strings or a line of words. An array that has arrived in part is
kept as progress, so that its elements are not scanned again when more bytes arrive. Arrays without
elements and blank lines are skipped.
-/

namespace IdService.Wire

/-- The bytes from `start` up to `stop` of a buffer. -/
structure Span where
  start : Nat
  stop : Nat
deriving Repr, DecidableEq

/-- Progress through an array request: how many elements it announced, where in the buffer the
next element starts, and the payloads of those before it. -/
structure Progress where
  count : Nat
  pos : Nat
  spans : Array Span
  pos_pos : 0 < pos := by omega
deriving Repr, DecidableEq

/-- What a scan finds at the front of a buffer. -/
inductive Scan where
  /-- Not all of a frame has arrived. -/
  | incomplete (progress : Option Progress)
  /-- A frame without a command, of so many bytes. -/
  | skip (consumed : Nat)
  /-- A request of so many bytes, its parts at these places. -/
  | command (consumed : Nat) (spans : Array Span)
  | refused (fault : Fault)
deriving Repr, DecidableEq

/-- An element at the front of some input: the bytes of its length line, the bytes of its payload,
and what follows its terminator. -/
structure Element where
  header : Nat
  payload : Nat
  rest : Bytes
deriving Repr, DecidableEq

/-- Scans one element: a length line, so many bytes and a terminator. -/
def scanElement (limits : Limits) (input : Bytes) : Except Fault (Option Element) :=
  match input with
  | [] => .ok none
  | mark :: _ =>
    if mark = Byte.ofAscii '$' then do
      match ← lengthLine input with
      | none => return none
      | some line =>
        let payload ← bulkSize limits line.value
        match input.drop (line.size + payload) with
        | a :: b :: rest =>
          if a = Byte.cr ∧ b = Byte.lf then return some ⟨line.size, payload, rest⟩
          else throw .bulkTerminator
        | _ => return none
    else .error (.elementMark mark)

/-- Progress after one more element. -/
def Progress.extend (p : Progress) (e : Element) : Progress :=
  let start := p.pos + e.header
  { count := p.count
    pos := start + e.payload + 2
    spans := p.spans.push ⟨start, start + e.payload⟩ }

/-- Scans the elements that are still missing; `rest` is the buffer from `p.pos` on. -/
def scanElements (limits : Limits) : Nat → Progress → Bytes → Scan
  | 0, p, _ => .command p.pos p.spans
  | missing + 1, p, rest =>
    match scanElement limits rest with
    | .error fault => .refused fault
    | .ok none => .incomplete (some p)
    | .ok (some e) => scanElements limits missing (p.extend e) e.rest

/-- Scans an array request from its start or from earlier progress. An array of no elements, or of
a negative number of them, is skipped. -/
def scanArray (limits : Limits) (buffer : Bytes) : Option Progress → Scan
  | some p => scanElements limits (p.count - p.spans.size) p (buffer.drop p.pos)
  | none =>
    match lengthLine buffer with
    | .error fault => .refused fault
    | .ok none => .incomplete none
    | .ok (some line) =>
      if line.value ≤ 0 then .skip line.size
      else if line.value ≤ limits.elements then
        scanElements limits line.value.toNat
          { count := line.value.toNat, pos := line.size, spans := #[],
            pos_pos := by simp [LengthLine.size] }
          (buffer.drop line.size)
      else .refused (.arrayLength line.value)

/-- Collects the words of a line. `i` is the place of the next byte, and `word` where the word
being read has started. -/
def wordSpans (i : Nat) (word : Option Nat) (found : Array Span) : Bytes → Array Span
  | [] =>
    match word with
    | none => found
    | some start => found.push ⟨start, i⟩
  | b :: rest =>
    match Byte.isSpace b, word with
    | true, none => wordSpans (i + 1) none found rest
    | true, some start => wordSpans (i + 1) none (found.push ⟨start, i⟩) rest
    | false, none => wordSpans (i + 1) (some i) found rest
    | false, some start => wordSpans (i + 1) (some start) found rest

/-- Scans a line of words, ended by LF. A CR in front of the LF is white space like any other. -/
def scanLine (limits : Limits) (buffer : Bytes) : Scan :=
  match buffer.findIdx? (· == Byte.lf) with
  | none =>
    if limits.lineBytes < buffer.length then .refused .inlineTooLong else .incomplete none
  | some newline =>
    if limits.lineBytes < newline then .refused .inlineTooLong
    else
      let spans := wordSpans 0 none #[] (buffer.take newline)
      if spans.isEmpty then .skip (newline + 1) else .command (newline + 1) spans

/-- Cuts the bytes at ascending places out of a buffer in one pass over it. -/
def cut (buffer : Bytes) (spans : Array Span) : List Bytes :=
  let step := fun (acc : Nat × Bytes × Array Bytes) (s : Span) =>
    let rest := acc.2.1.drop (s.start - acc.1)
    (s.start, rest, acc.2.2.push (rest.take (s.stop - s.start)))
  (spans.foldl step (0, buffer, #[])).2.2.toList

/-- A request decoder: its limits, the bytes not taken yet, and the progress through an array at
their front. -/
structure RequestDecoder where
  limits : Limits := {}
  buffer : Bytes := []
  progress : Option Progress := none
deriving Repr, DecidableEq

namespace RequestDecoder

/-- One scan of the front of the buffer. -/
def scan (d : RequestDecoder) : Scan :=
  match d.buffer with
  | [] => .incomplete d.progress
  | first :: _ =>
    if d.progress.isSome ∨ first = Byte.ofAscii '*' then
      scanArray d.limits d.buffer d.progress
    else scanLine d.limits d.buffer

/-- The decoder once a frame of `n` bytes has been taken. -/
def take (d : RequestDecoder) (n : Nat) : RequestDecoder :=
  { d with buffer := d.buffer.drop n, progress := none }

end RequestDecoder

/-! ## Frames take bytes -/

/-- How many bytes the frame takes that a scan has found. -/
def Scan.consumed? : Scan → Option Nat
  | .skip n => some n
  | .command n _ => some n
  | _ => none

/-- An array whose elements have all arrived takes at least one byte. -/
theorem scanElements_consumed {limits : Limits} {missing : Nat} {p : Progress} {rest : Bytes}
    {n : Nat} (h : (scanElements limits missing p rest).consumed? = some n) : 0 < n := by
  induction missing generalizing p rest with
  | zero =>
    simp only [scanElements, Scan.consumed?, Option.some.injEq] at h
    exact h ▸ p.pos_pos
  | succ missing ih =>
    rw [scanElements] at h
    split at h
    · simp [Scan.consumed?] at h
    · simp [Scan.consumed?] at h
    · exact ih h

/-- An array frame takes at least one byte. -/
theorem scanArray_consumed {limits : Limits} {buffer : Bytes} {progress : Option Progress}
    {n : Nat} (h : (scanArray limits buffer progress).consumed? = some n) : 0 < n := by
  unfold scanArray at h
  split at h
  · exact scanElements_consumed h
  · split at h
    · simp [Scan.consumed?] at h
    · simp [Scan.consumed?] at h
    · split at h
      · simp only [Scan.consumed?, LengthLine.size, Option.some.injEq] at h
        omega
      · split at h
        · exact scanElements_consumed h
        · simp [Scan.consumed?] at h

/-- A line frame takes at least one byte. -/
theorem scanLine_consumed {limits : Limits} {buffer : Bytes} {n : Nat}
    (h : (scanLine limits buffer).consumed? = some n) : 0 < n := by
  unfold scanLine at h
  split at h
  · split at h <;> simp [Scan.consumed?] at h
  · split at h
    · simp [Scan.consumed?] at h
    · dsimp only at h
      split at h <;> simp only [Scan.consumed?, Option.some.injEq] at h <;> omega

namespace RequestDecoder

/-- A frame that has been found takes at least one byte of a buffer that has one. -/
theorem length_take_lt {d : RequestDecoder} {n : Nat} (h : d.scan.consumed? = some n) :
    (d.take n).buffer.length < d.buffer.length := by
  have nonempty : d.buffer ≠ [] := by
    intro empty
    simp [scan, empty, Scan.consumed?] at h
  have positive : 0 < n := by
    unfold scan at h
    split at h
    · simp [Scan.consumed?] at h
    · split at h
      · exact scanArray_consumed h
      · exact scanLine_consumed h
  have := List.length_pos_iff.mpr nonempty
  simp only [take, List.length_drop]
  omega

/-- The next request. Frames without a command are taken and passed over; a fault takes nothing,
but forgets the progress through an array. -/
def next (d : RequestDecoder) : Outcome Request × RequestDecoder :=
  match _found : d.scan with
  | .incomplete progress => (.waiting, { d with progress })
  | .refused fault => (.failed fault, { d with progress := none })
  | .skip n => next (d.take n)
  | .command n spans =>
    match Request.ofParts? (cut d.buffer spans) with
    | some request => (.item request, d.take n)
    | none => next (d.take n)
termination_by d.buffer.length
decreasing_by
  · exact length_take_lt (by simp [_found, Scan.consumed?])
  · exact length_take_lt (by simp [_found, Scan.consumed?])

/-- A request takes at least one byte. -/
theorem length_next_lt {d d' : RequestDecoder} {r : Request} (h : d.next = (.item r, d')) :
    d'.buffer.length < d.buffer.length := by
  fun_induction next d with
  | case1 => simp at h
  | case2 => simp at h
  | case3 d n found ih =>
    exact Nat.lt_trans (ih h) (length_take_lt (by simp [found, Scan.consumed?]))
  | case4 d n spans found request _ =>
    simp only [Prod.mk.injEq] at h
    exact h.2 ▸ length_take_lt (by simp [found, Scan.consumed?])
  | case5 d n spans found _ ih =>
    exact Nat.lt_trans (ih h) (length_take_lt (by simp [found, Scan.consumed?]))

/-- The decoder with more bytes received. -/
def append (d : RequestDecoder) (chunk : Bytes) : RequestDecoder :=
  { d with buffer := d.buffer ++ chunk }

/-- All requests that can be read now. -/
def drain (d : RequestDecoder) : Drained RequestDecoder Request :=
  Wire.drain next (·.buffer.length) (fun _ _ _ => length_next_lt) d []

/-- The next request once the stream has ended. -/
def nextAtEnd (d : RequestDecoder) : Outcome Request × RequestDecoder :=
  let (outcome, d') := d.next
  (outcome.atEnd d'.buffer.isEmpty, d')

/-- A request read at the end of the stream shortens the buffer, too. -/
theorem length_nextAtEnd_lt {d d' : RequestDecoder} {r : Request}
    (h : d.nextAtEnd = (.item r, d')) : d'.buffer.length < d.buffer.length := by
  simp only [nextAtEnd, Prod.mk.injEq, Outcome.atEnd_eq_item] at h
  exact length_next_lt (Prod.ext h.1 h.2)

/-- All requests that can be read once the stream has ended. -/
def drainAtEnd (d : RequestDecoder) : Drained RequestDecoder Request :=
  Wire.drain nextAtEnd (·.buffer.length) (fun _ _ _ => length_nextAtEnd_lt) d []

/-- Receives a chunk of bytes and reads what can be read. -/
def feed (d : RequestDecoder) (chunk : Bytes) : Drained RequestDecoder Request :=
  (d.append chunk).drain

end RequestDecoder
end IdService.Wire
