import IdService.Proofs.Wire.Feed
import IdService.Proofs.Wire.Scan

/-! # Decoding requests

A decoder of requests resumes: its steps are those of its scans, and frames without a command are
passed over. The only fault that may not stand is that of a length line that has not ended.
-/

namespace IdService.Wire.RequestDecoder

variable {d : RequestDecoder}

/-! ## One step of the decoder -/

theorem next_of_incomplete {progress : Option Progress} (found : d.scan = .incomplete progress) :
    d.next = (.waiting, { d with progress }) := by
  unfold next
  split <;> simp_all

theorem next_of_refused {fault : Fault} (found : d.scan = .refused fault) :
    d.next = (.failed fault, { d with progress := none }) := by
  unfold next
  split <;> simp_all

theorem next_of_skip {n : Nat} (found : d.scan = .skip n) : d.next = (d.take n).next := by
  conv => lhs; unfold next
  split <;> simp_all

theorem next_of_command {n : Nat} {spans : Array Span} {request : Request}
    (found : d.scan = .command n spans)
    (parts : Request.ofParts? (cut d.buffer spans) = some request) :
    d.next = (.item request, d.take n) := by
  unfold next
  split <;> rename_i other <;> rw [found] at other <;> cases other
  rw [parts]

theorem next_of_hollow {n : Nat} {spans : Array Span} (found : d.scan = .command n spans)
    (hollow : Request.ofParts? (cut d.buffer spans) = none) : d.next = (d.take n).next := by
  conv => lhs; unfold next
  split <;> rename_i other <;> rw [found] at other <;> cases other
  rw [hollow]

theorem take_append {n : Nat} (within : n ≤ d.buffer.length) (more : Bytes) :
    (d.append more).take n = (d.take n).append more := by
  simp only [take, append, List.drop_append_of_le_length within]

theorem valid_take (d : RequestDecoder) (n : Nat) : (d.take n).Valid := by
  rintro p ⟨⟩

theorem Valid.append (valid : d.Valid) (more : Bytes) : (d.append more).Valid :=
  fun p found => (valid p found).append more

theorem next_congr {progress : Option Progress}
    (same : ({ d with progress } : RequestDecoder).scan = d.scan) :
    ({ d with progress } : RequestDecoder).next = d.next := by
  cases found : d.scan with
  | incomplete progress' =>
      rw [next_of_incomplete found, next_of_incomplete (same.trans found)]
  | refused fault => rw [next_of_refused found, next_of_refused (same.trans found)]
  | skip n =>
      rw [next_of_skip found, next_of_skip (same.trans found)]
      rfl
  | command n spans =>
      cases parts : Request.ofParts? (cut d.buffer spans) with
      | some request =>
          rw [next_of_command found parts, next_of_command (same.trans found) parts]
          rfl
      | none =>
          rw [next_of_hollow found parts, next_of_hollow (same.trans found) parts]
          rfl

/-- What a decoder gives stands when more bytes follow, and where it waits it goes on. -/
theorem next_append (valid : d.Valid) (more : Bytes) :
    d.next.2.Valid ∧
    match d.next with
    | (.item request, d') => (d.append more).next = (.item request, d'.append more)
    | (.waiting, d') => (d.append more).next = (d'.append more).next
    | (.failed fault, _) => fault ≠ .lengthLineTooLong →
      ∃ d'', (d.append more).next = (.failed fault, d'') := by
  have stands := scan_stands valid more
  fun_induction next d with
  | case1 d progress found =>
      rw [found] at stands
      obtain ⟨same, fits⟩ := stands
      exact ⟨fits, (next_congr same).symm⟩
  | case2 d fault found =>
      rw [found] at stands
      refine ⟨by rintro p ⟨⟩, fun ended => ?_⟩
      exact ⟨_, next_of_refused (stands ended)⟩
  | case3 d n found ih =>
      rw [found] at stands
      obtain ⟨within, same⟩ := stands
      rw [next_of_skip (d := d.append more) same, take_append within]
      exact ih (valid_take d n) (scan_stands (valid_take d n) more)
  | case4 d n spans found request parts =>
      rw [found] at stands
      obtain ⟨within, ordered, same⟩ := stands
      rw [← cut_append ordered within more] at parts
      refine ⟨valid_take d n, ?_⟩
      rw [next_of_command (d := d.append more) same parts, take_append within]
  | case5 d n spans found hollow ih =>
      rw [found] at stands
      obtain ⟨within, ordered, same⟩ := stands
      rw [← cut_append ordered within more] at hollow
      rw [next_of_hollow (d := d.append more) same hollow, take_append within]
      exact ih (valid_take d n) (scan_stands (valid_take d n) more)

theorem resumes : Resumes next append Valid .lengthLineTooLong where
  append_nil d := by simp [append]
  append_append d bs more := by simp [append]
  valid_append valid more := valid.append more
  valid_next valid := (next_append valid []).1
  item valid found more := by simpa only [found] using (next_append valid more).2
  waiting valid found more := by simpa only [found] using (next_append valid more).2
  failed valid found ended more := by
    have stands := (next_append valid more).2
    simp only [found] at stands
    exact stands ended

theorem valid_fresh (limits : Limits) : ({ limits } : RequestDecoder).Valid := by
  rintro p ⟨⟩

theorem next_fresh (limits : Limits) :
    ({ limits } : RequestDecoder).next = (.waiting, { limits }) :=
  next_of_incomplete rfl

theorem feed_eq_drain (d : RequestDecoder) (chunk : Bytes) : d.feed chunk =
    Wire.drain next (·.buffer.length) (fun _ _ _ => length_next_lt) (d.append chunk) [] := rfl

end IdService.Wire.RequestDecoder
