import IdService.Proofs.Wire.Grammar
import IdService.Wire.RequestDecoder

/-! # Elements of an array

A scan goes through the elements of an array one by one and keeps the places of their payloads. Its
progress is a relation on the elements that it has passed; the places ascend, so one pass over the
buffer cuts out the payloads.
-/

namespace IdService.Wire

/-! ## One element -/

theorem bulkSize_eq_ok_iff {limits : Limits} {announced : Int} {size : Nat} :
    bulkSize limits announced = .ok size ↔ announced = size ∧ size ≤ limits.bulkBytes := by
  unfold bulkSize
  split
  · simp only [Except.ok.injEq]
    omega
  · simp only [reduceCtorEq, false_iff]
    omega

theorem bulkSize_error {limits : Limits} {announced : Int} {fault : Fault}
    (refused : bulkSize limits announced = .error fault) : fault = .bulkLength announced := by
  unfold bulkSize at refused
  split at refused <;> cases refused
  rfl

theorem le_length_of_drop {input after : Bytes} {a : UInt8} {n : Nat}
    (found : input.drop n = a :: after) : n ≤ input.length := by
  apply Nat.le_of_lt
  apply Nat.lt_of_not_le
  intro short
  rw [List.drop_eq_nil_of_le short] at found
  cases found

theorem split_of_drop {input rest : Bytes} {n : Nat}
    (found : input.drop n = Byte.cr :: Byte.lf :: rest) :
    ∃ payload, payload.length = n ∧ input = payload ++ Bytes.crlf ++ rest := by
  have long : n ≤ input.length := le_length_of_drop found
  refine ⟨input.take n, List.length_take_of_le long, ?_⟩
  calc input = input.take n ++ input.drop n := (List.take_append_drop n input).symm
    _ = input.take n ++ Bytes.crlf ++ rest := by simp [found, Bytes.crlf]

/-- What is found behind a length line of `header` bytes. -/
def scanPayload (limits : Limits) (header : Nat) (announced : Int) (rest : Bytes) :
    Except Fault (Option Element) :=
  match bulkSize limits announced with
  | .error fault => .error fault
  | .ok size =>
    match rest.drop size with
    | a :: b :: after =>
      if a = Byte.cr ∧ b = Byte.lf then .ok (some ⟨header, size, after⟩)
      else .error .bulkTerminator
    | _ => .ok none

theorem scanElement_of_line {limits : Limits} {bytes : Bytes} {n : Int}
    (announced : Announces '$' n bytes) (rest : Bytes) :
    scanElement limits (bytes ++ rest) = scanPayload limits bytes.length n rest := by
  obtain ⟨line, found, value, size⟩ := announced.lengthLine rest
  have behind : ∀ payload, (bytes ++ rest).drop (bytes.length + payload) = rest.drop payload := by
    intro payload
    rw [← List.drop_drop, List.drop_left]
  obtain ⟨text, numeral, rfl⟩ := announced
  simp only [List.cons_append] at found behind ⊢
  simp only [scanElement, if_true, found, bind, Except.bind, value, scanPayload]
  cases bulkSize limits n with
  | error fault => rfl
  | ok payload =>
    simp only [size, List.cons_append, behind]
    rfl

/-- All that a scan for an element can come to. -/
theorem scanElement_cases (limits : Limits) (input : Bytes) :
    (input = [] ∧ scanElement limits input = .ok none) ∨
    (∃ mark tail, input = mark :: tail ∧ mark ≠ Byte.ofAscii '$' ∧
      scanElement limits input = .error (.elementMark mark)) ∨
    (lengthLine input = .ok none ∧ scanElement limits input = .ok none) ∨
    (∃ tail fault, input = Byte.ofAscii '$' :: tail ∧ lengthLine input = .error fault ∧
      scanElement limits input = .error fault) ∨
    (∃ bytes n rest, input = bytes ++ rest ∧ Announces '$' n bytes ∧
      scanElement limits input = scanPayload limits bytes.length n rest) := by
  cases input with
  | nil => exact .inl ⟨rfl, rfl⟩
  | cons mark tail =>
      right
      by_cases dollar : mark = Byte.ofAscii '$'
      · subst dollar
        right
        cases read : lengthLine (Byte.ofAscii '$' :: tail) with
        | error fault =>
            refine .inr (.inl ⟨tail, fault, rfl, rfl, ?_⟩)
            simp only [scanElement, if_true, read]
            rfl
        | ok line? =>
            cases line? with
            | none =>
                refine .inl ⟨rfl, ?_⟩
                simp only [scanElement, if_true, read]
                rfl
            | some line =>
                obtain ⟨bytes, rest, form, announced, -⟩ := announces_of_lengthLine read
                refine .inr (.inr ⟨bytes, line.value, rest, form, announced, ?_⟩)
                rw [form, scanElement_of_line announced]
      · exact .inl ⟨mark, tail, rfl, dollar, by simp only [scanElement, if_neg dollar]⟩

theorem scanPayload_eq_some_iff {limits : Limits} {header : Nat} {n : Int} {rest : Bytes}
    {e : Element} : scanPayload limits header n rest = .ok (some e) ↔
      ∃ payload : Bytes, n = payload.length ∧ payload.length ≤ limits.bulkBytes ∧
        e.header = header ∧ e.payload = payload.length ∧
        rest = payload ++ Bytes.crlf ++ e.rest := by
  constructor
  · intro found
    unfold scanPayload at found
    split at found
    · cases found
    · rename_i size sized
      split at found
      · rename_i a b after cut
        split at found
        · rename_i terminator
          obtain ⟨rfl, rfl⟩ := terminator
          cases found
          obtain ⟨payload, rfl, form⟩ := split_of_drop cut
          obtain ⟨value, small⟩ := bulkSize_eq_ok_iff.mp sized
          exact ⟨payload, value, small, rfl, rfl, form⟩
        · cases found
      · cases found
  · rintro ⟨payload, rfl, small, rfl, size, form⟩
    have sized : bulkSize limits payload.length = .ok payload.length :=
      bulkSize_eq_ok_iff.mpr ⟨rfl, small⟩
    have cut : rest.drop payload.length = Byte.cr :: Byte.lf :: e.rest := by
      rw [form, List.append_assoc, List.drop_left]
      rfl
    simp only [scanPayload, sized, cut, and_self, if_true]
    rw [← size]

theorem drop_append_of_cons {input after : Bytes} {a : UInt8} {n : Nat}
    (found : input.drop n = a :: after) (more : Bytes) :
    (input ++ more).drop n = a :: (after ++ more) := by
  rw [List.drop_append_of_le_length (le_length_of_drop found), found, List.cons_append]

theorem scanPayload_append_of_error {limits : Limits} {header : Nat} {n : Int} {rest : Bytes}
    {fault : Fault} (refused : scanPayload limits header n rest = .error fault) (more : Bytes) :
    scanPayload limits header n (rest ++ more) = .error fault := by
  unfold scanPayload at refused ⊢
  split at refused
  · rename_i sized
    rw [refused]
  · rename_i size sized
    split at refused
    · rename_i a b after cut
      split at refused
      · cases refused
      · rename_i other
        simp only [drop_append_of_cons cut more, List.cons_append, if_neg other, refused]
    · cases refused

/-- The elements that a scan finds. -/
theorem scanElement_eq_some_iff {limits : Limits} {input : Bytes} {e : Element} :
    scanElement limits input = .ok (some e) ↔
      ∃ line payload, Announces '$' payload.length line ∧ payload.length ≤ limits.bulkBytes ∧
        e.header = line.length ∧ e.payload = payload.length ∧
        input = line ++ payload ++ Bytes.crlf ++ e.rest := by
  constructor
  · intro found
    rcases scanElement_cases limits input with ⟨-, scan⟩ | ⟨_, _, -, -, scan⟩ | ⟨-, scan⟩ |
      ⟨_, _, -, -, scan⟩ | ⟨line, n, rest, rfl, announced, scan⟩
    all_goals rw [scan] at found
    · cases found
    · cases found
    · cases found
    · cases found
    · obtain ⟨payload, rfl, small, header, size, rfl⟩ := scanPayload_eq_some_iff.mp found
      exact ⟨line, payload, announced, small, header, size, by simp⟩
  · rintro ⟨line, payload, announced, small, header, size, rfl⟩
    rw [List.append_assoc, List.append_assoc, scanElement_of_line announced]
    exact scanPayload_eq_some_iff.mpr ⟨payload, rfl, small, header, size, by simp⟩

theorem scanElement_append_of_error {limits : Limits} {input : Bytes} {fault : Fault}
    (refused : scanElement limits input = .error fault) (ended : fault ≠ .lengthLineTooLong)
    (more : Bytes) : scanElement limits (input ++ more) = .error fault := by
  rcases scanElement_cases limits input with ⟨-, scan⟩ | ⟨mark, tail, rfl, other, scan⟩ |
    ⟨-, scan⟩ | ⟨tail, cause, rfl, line, scan⟩ | ⟨line, n, rest, rfl, announced, scan⟩
  all_goals rw [scan] at refused
  · cases refused
  · rw [← refused]
    simp only [List.cons_append, scanElement, if_neg other]
  · cases refused
  · cases refused
    have stays := lengthLine_append_of_error line ended more
    simp only [List.cons_append] at stays ⊢
    simp only [scanElement, if_true, stays]
    rfl
  · rw [List.append_assoc, scanElement_of_line announced]
    exact scanPayload_append_of_error refused more

/-! ## Places in a buffer -/

/-- The bytes at a place of a buffer. -/
def Span.slice (s : Span) (buffer : Bytes) : Bytes :=
  (buffer.drop s.start).take (s.stop - s.start)

/-- Places that follow one another, the last of which ends by `stop`. -/
structure Ordered (spans : Array Span) (stop : Nat) : Prop where
  ascending : spans.toList.Pairwise fun s t => s.stop ≤ t.start
  forward : ∀ s ∈ spans, s.start ≤ s.stop
  within : ∀ s ∈ spans, s.stop ≤ stop

theorem Ordered.empty (stop : Nat) : Ordered #[] stop :=
  ⟨List.Pairwise.nil, by simp, by simp⟩

theorem Ordered.mono {spans : Array Span} {stop stop' : Nat} (ordered : Ordered spans stop)
    (le : stop ≤ stop') : Ordered spans stop' :=
  ⟨ordered.ascending, ordered.forward, fun s member => Nat.le_trans (ordered.within s member) le⟩

theorem Ordered.push {spans : Array Span} {stop stop' : Nat} (ordered : Ordered spans stop)
    {s : Span} (behind : stop ≤ s.start) (forward : s.start ≤ s.stop) (within : s.stop ≤ stop') :
    Ordered (spans.push s) stop' := by
  refine ⟨?_, ?_, ?_⟩
  · rw [Array.toList_push, List.pairwise_append]
    refine ⟨ordered.ascending, List.pairwise_singleton _ s, ?_⟩
    intro t member u last
    obtain rfl := List.mem_singleton.mp last
    exact Nat.le_trans (ordered.within t (Array.mem_toList_iff.mp member)) behind
  · intro t member
    rcases Array.mem_push.mp member with before | rfl
    · exact ordered.forward t before
    · exact forward
  · intro t member
    rcases Array.mem_push.mp member with before | rfl
    · have := ordered.within t before
      omega
    · exact within

private def cutStep (acc : Nat × Bytes × Array Bytes) (s : Span) : Nat × Bytes × Array Bytes :=
  let rest := acc.2.1.drop (s.start - acc.1)
  (s.start, rest, acc.2.2.push (rest.take (s.stop - s.start)))

private theorem foldl_cutStep (buffer : Bytes) (spans : List Span) (i : Nat) (found : Array Bytes)
    (ascending : spans.Pairwise fun s t => s.stop ≤ t.start)
    (forward : ∀ s ∈ spans, s.start ≤ s.stop) (behind : ∀ s ∈ spans, i ≤ s.start) :
    (spans.foldl cutStep (i, buffer.drop i, found)).2.2.toList =
      found.toList ++ spans.map (·.slice buffer) := by
  induction spans generalizing i found with
  | nil => simp
  | cons s spans ih =>
      obtain ⟨first, ascending⟩ := List.pairwise_cons.mp ascending
      obtain ⟨here, forward⟩ := List.forall_mem_cons.mp forward
      have reached : i + (s.start - i) = s.start := by
        have := behind s (List.mem_cons_self ..)
        omega
      have next : cutStep (i, buffer.drop i, found) s =
          (s.start, buffer.drop s.start, found.push (s.slice buffer)) := by
        simp only [cutStep, List.drop_drop, reached, Span.slice]
      rw [List.foldl_cons, next, ih _ _ ascending forward fun t member =>
        Nat.le_trans here (first t member)]
      simp

/-- Cutting at ascending places in one pass gives the bytes at each of them. -/
theorem cut_eq {buffer : Bytes} {spans : Array Span} {stop : Nat} (ordered : Ordered spans stop) :
    cut buffer spans = spans.toList.map (·.slice buffer) := by
  have pass : cut buffer spans =
      (spans.toList.foldl cutStep (0, buffer.drop 0, #[])).2.2.toList := by
    rw [Array.foldl_toList]
    rfl
  rw [pass, foldl_cutStep buffer spans.toList 0 #[] ordered.ascending
    (fun s member => ordered.forward s (Array.mem_toList_iff.mp member)) (fun s _ => Nat.zero_le _)]
  simp

theorem Span.slice_append {s : Span} {buffer : Bytes} (forward : s.start ≤ s.stop)
    (within : s.stop ≤ buffer.length) (more : Bytes) : s.slice (buffer ++ more) = s.slice buffer := by
  unfold Span.slice
  rw [List.drop_append_of_le_length (by omega), List.take_append_of_le_length]
  rw [List.length_drop]
  omega

theorem cut_append {buffer : Bytes} {spans : Array Span} {stop : Nat} (ordered : Ordered spans stop)
    (within : stop ≤ buffer.length) (more : Bytes) :
    cut (buffer ++ more) spans = cut buffer spans := by
  rw [cut_eq ordered, cut_eq ordered]
  apply List.map_congr_left
  intro s member
  have inside := Array.mem_toList_iff.mp member
  exact Span.slice_append (ordered.forward s inside)
    (Nat.le_trans (ordered.within s inside) within) more

theorem slice_middle (before payload after : Bytes) :
    (Span.mk before.length (before.length + payload.length)).slice (before ++ payload ++ after) =
      payload := by
  simp [Span.slice, List.append_assoc]

/-! ## Progress through elements -/

/-- From progress `p` in front of `input`, elements with these payloads lead to progress `p'` in
front of `rest`. -/
inductive Advances (limits : Limits) : Progress → Bytes → List Bytes → Progress → Bytes → Prop where
  | done (p : Progress) (rest : Bytes) : Advances limits p rest [] p rest
  | element {p p' : Progress} {line payload rest rest' : Bytes} {payloads : List Bytes}
      (announced : Announces '$' payload.length line) (small : payload.length ≤ limits.bulkBytes)
      (others : Advances limits (p.extend ⟨line.length, payload.length, rest⟩) rest payloads p'
        rest') :
      Advances limits p (line ++ payload ++ Bytes.crlf ++ rest) (payload :: payloads) p' rest'

namespace Advances

variable {limits : Limits} {p p' : Progress} {input rest : Bytes} {payloads : List Bytes}

theorem append (advances : Advances limits p input payloads p' rest) (more : Bytes) :
    Advances limits p (input ++ more) payloads p' (rest ++ more) := by
  induction advances with
  | done p rest => exact .done p (rest ++ more)
  | element announced small _ ih =>
      rw [List.append_assoc]
      exact .element announced small ih

theorem scanElements (advances : Advances limits p input payloads p' rest) (missing : Nat) :
    scanElements limits (payloads.length + missing) p input =
      scanElements limits missing p' rest := by
  induction advances with
  | done p rest => simp
  | @element p p' line payload rest rest' payloads announced small _ ih =>
      have found : scanElement limits (line ++ payload ++ Bytes.crlf ++ rest) =
          .ok (some ⟨line.length, payload.length, rest⟩) :=
        scanElement_eq_some_iff.mpr ⟨line, payload, announced, small, rfl, rfl, rfl⟩
      rw [List.length_cons, Nat.add_right_comm, Wire.scanElements, found]
      exact ih

theorem counts (advances : Advances limits p input payloads p' rest) :
    p'.count = p.count ∧ p'.spans.size = p.spans.size + payloads.length := by
  induction advances with
  | done p rest => simp
  | element _ _ _ ih =>
      obtain ⟨count, size⟩ := ih
      refine ⟨count, ?_⟩
      rw [size, List.length_cons]
      simp only [Progress.extend, Array.size_push]
      omega

theorem elements (advances : Advances limits p input payloads p' rest) :
    ∃ bytes, Elements limits payloads bytes ∧ input = bytes ++ rest ∧
      p'.pos = p.pos + bytes.length := by
  induction advances with
  | done p rest => exact ⟨[], .nil, rfl, rfl⟩
  | element announced small _ ih =>
      obtain ⟨bytes, others, rfl, pos⟩ := ih
      refine ⟨_, .cons announced small others, by simp, ?_⟩
      rw [pos]
      simp only [Progress.extend, Bytes.crlf, List.length_append, List.length_cons, List.length_nil]
      omega

theorem of_elements {bytes : Bytes} (elements : Elements limits payloads bytes) (p : Progress)
    (rest : Bytes) : ∃ p', Advances limits p (bytes ++ rest) payloads p' rest := by
  induction elements generalizing p with
  | nil => exact ⟨p, .done p rest⟩
  | cons announced small _ ih =>
      obtain ⟨p', advances⟩ := ih (p.extend ⟨_, _, rest⟩)
      rw [List.append_assoc]
      exact ⟨p', .element announced small advances⟩

theorem ordered (advances : Advances limits p input payloads p' rest)
    (ordered : Ordered p.spans p.pos) : Ordered p'.spans p'.pos := by
  induction advances with
  | done p rest => exact ordered
  | element _ _ _ ih =>
      exact ih (ordered.push (Nat.le_add_right ..) (Nat.le_add_right ..) (Nat.le_add_right ..))

theorem slices (advances : Advances limits p input payloads p' rest) {before : Bytes}
    (at_pos : before.length = p.pos) :
    p'.spans.toList.map (·.slice (before ++ input)) =
      p.spans.toList.map (·.slice (before ++ input)) ++ payloads := by
  induction advances generalizing before with
  | done p rest => simp
  | @element p p' line payload rest rest' payloads announced small _ ih =>
      have here := @ih (before ++ line ++ payload ++ Bytes.crlf)
        (by simp [Progress.extend, Bytes.crlf, at_pos]; omega)
      have place := slice_middle (before ++ line) payload (Bytes.crlf ++ rest)
      have pushed : (p.extend ⟨line.length, payload.length, rest⟩).spans =
          p.spans.push ⟨(before ++ line).length, (before ++ line).length + payload.length⟩ := by
        simp only [Progress.extend, List.length_append, at_pos]
      simp only [List.append_assoc] at here place ⊢
      rw [here, pushed, Array.toList_push, List.map_append, List.map_singleton, place]
      simp

theorem cut (advances : Advances limits p input payloads p' rest) {before : Bytes}
    (pos : p.pos = before.length) (spans : p.spans = #[]) :
    Wire.cut (before ++ input) p'.spans = payloads := by
  have ordered := advances.ordered (spans ▸ .empty _)
  rw [cut_eq ordered, advances.slices pos.symm, spans]
  rfl

end Advances

/-- How far a scan for elements comes, and why it stops there. -/
theorem scanElements_cases (limits : Limits) (missing : Nat) (p : Progress) (input : Bytes) :
    ∃ payloads p' rest, Advances limits p input payloads p' rest ∧
      ((payloads.length = missing ∧
          scanElements limits missing p input = .command p'.pos p'.spans) ∨
        (payloads.length < missing ∧ scanElement limits rest = .ok none ∧
          scanElements limits missing p input = .incomplete (some p')) ∨
        (payloads.length < missing ∧ ∃ fault, scanElement limits rest = .error fault ∧
          scanElements limits missing p input = .refused fault)) := by
  induction missing generalizing p input with
  | zero => exact ⟨[], p, input, .done p input, .inl ⟨rfl, rfl⟩⟩
  | succ missing ih =>
      rw [scanElements]
      cases found : scanElement limits input with
      | error fault =>
          exact ⟨[], p, input, .done p input, .inr (.inr ⟨Nat.succ_pos _, fault, found, rfl⟩)⟩
      | ok element? =>
          cases element? with
          | none => exact ⟨[], p, input, .done p input, .inr (.inl ⟨Nat.succ_pos _, found, rfl⟩)⟩
          | some e =>
              obtain ⟨line, payload, announced, small, header, size, form⟩ :=
                scanElement_eq_some_iff.mp found
              obtain ⟨payloads, p', rest, advances, stop⟩ := ih (p.extend e) e.rest
              have same : e = ⟨line.length, payload.length, e.rest⟩ := by
                rw [← header, ← size]
              rw [same] at advances
              refine ⟨payload :: payloads, p', rest, form ▸ .element announced small advances, ?_⟩
              simpa only [List.length_cons, Nat.add_right_cancel_iff, Nat.add_lt_add_iff_right]
                using stop

end IdService.Wire
