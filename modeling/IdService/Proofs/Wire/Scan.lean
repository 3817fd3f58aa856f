import IdService.Proofs.Wire.Words

/-! # Scanning a buffer

What a scan has found at the front of a buffer, it finds again with more bytes behind. Where it has
found nothing yet, the progress it kept leads to what a scan from the start would find.
-/

namespace IdService.Wire

/-! ## Arrays -/

/-- The progress at the end of the length line of an array. -/
def LengthLine.progress (line : LengthLine) : Progress :=
  { count := line.value.toNat, pos := line.size, spans := #[],
    pos_pos := Nat.succ_pos _ }

/-- How many elements an array still lacks. -/
def Progress.missing (p : Progress) : Nat := p.count - p.spans.size

/-- Progress that speaks of bytes of a buffer. -/
structure Progress.Fits (p : Progress) (buffer : Bytes) : Prop where
  within : p.pos ≤ buffer.length
  ordered : Ordered p.spans p.pos

theorem Progress.Fits.append {p : Progress} {buffer : Bytes} (fits : p.Fits buffer)
    (more : Bytes) : p.Fits (buffer ++ more) := by
  refine ⟨?_, fits.ordered⟩
  rw [List.length_append]
  exact Nat.le_trans fits.within (Nat.le_add_right ..)

/-- All that a scan for an array can come to from its start. -/
theorem scanArray_cases (limits : Limits) (buffer : Bytes) :
    (lengthLine buffer = .ok none ∧ scanArray limits buffer none = .incomplete none) ∨
    (∃ fault, lengthLine buffer = .error fault ∧
      scanArray limits buffer none = .refused fault) ∨
    (∃ line, lengthLine buffer = .ok (some line) ∧ line.value ≤ 0 ∧
      scanArray limits buffer none = .skip line.size) ∨
    (∃ line, lengthLine buffer = .ok (some line) ∧ limits.elements < line.value ∧
      scanArray limits buffer none = .refused (.arrayLength line.value)) ∨
    (∃ line, lengthLine buffer = .ok (some line) ∧ 0 < line.value ∧ line.value ≤ limits.elements ∧
      scanArray limits buffer none = scanArray limits buffer (some line.progress)) := by
  cases read : lengthLine buffer with
  | error fault => exact .inr (.inl ⟨fault, rfl, by simp only [scanArray, read]⟩)
  | ok line? =>
      cases line? with
      | none => exact .inl ⟨rfl, by simp only [scanArray, read]⟩
      | some line =>
          right; right
          by_cases empty : line.value ≤ 0
          · exact .inl ⟨line, rfl, empty, by simp only [scanArray, read, if_pos empty]⟩
          right
          by_cases few : line.value ≤ limits.elements
          · refine .inr ⟨line, rfl, by omega, few, ?_⟩
            simp only [scanArray, read, if_neg empty, if_pos few]
            rfl
          · refine .inl ⟨line, rfl, by omega, ?_⟩
            simp only [scanArray, read, if_neg empty, if_neg few]

/-- What a scan found in a buffer, and what `again` finds there with more bytes behind. -/
def Scan.Stands (found : Scan) (buffer : Bytes) (progress : Option Progress)
    (again : Option Progress → Scan) : Prop :=
  match found with
  | .incomplete progress' =>
    again progress' = again progress ∧ ∀ p, progress' = some p → p.Fits buffer
  | .refused fault => fault ≠ .lengthLineTooLong → again progress = .refused fault
  | .skip n => n ≤ buffer.length ∧ again progress = .skip n
  | .command n spans =>
    n ≤ buffer.length ∧ Ordered spans n ∧ again progress = .command n spans

section Stands

variable {limits : Limits} {buffer : Bytes} {again : Option Progress → Scan}

theorem scanElements_stands {p : Progress} (fits : p.Fits buffer) (more : Bytes)
    (same : ∀ q, again (some q) = scanArray limits (buffer ++ more) (some q)) :
    (scanArray limits buffer (some p)).Stands buffer (some p) again := by
  obtain ⟨within, ordered⟩ := fits
  obtain ⟨payloads, p', rest, advances, stop⟩ :=
    scanElements_cases limits p.missing p (buffer.drop p.pos)
  obtain ⟨bytes, -, form, pos⟩ := advances.elements
  obtain ⟨count, size⟩ := advances.counts
  have length := congrArg List.length form
  rw [List.length_drop, List.length_append] at length
  have within' : p'.pos ≤ buffer.length := by omega
  have ordered' := advances.ordered ordered
  -- behind the elements that are whole, the longer buffer is scanned like the shorter one
  have onward : ∀ k, payloads.length + k = p.missing →
      again (some p) = scanElements limits k p' (rest ++ more) := by
    intro k total
    have onward := (advances.append more).scanElements k
    rw [total, ← List.drop_append_of_le_length within] at onward
    exact (same p).trans onward
  change (scanElements limits p.missing p (buffer.drop p.pos)).Stands _ _ _
  rcases stop with ⟨all, scan⟩ | ⟨lacks, waits, scan⟩ | ⟨lacks, fault, refused, scan⟩
  all_goals rw [scan]
  · exact ⟨within', ordered', onward 0 all⟩
  · refine ⟨?_, ?_⟩
    · have behind : (buffer ++ more).drop p'.pos = rest ++ more := by
        rw [List.drop_append_of_le_length within', pos, ← List.drop_drop, form, List.drop_left]
      rw [onward p'.missing (by unfold Progress.missing at lacks ⊢; omega), same, ← behind]
      rfl
    · rintro q ⟨rfl⟩
      exact ⟨within', ordered'⟩
  · intro ended
    obtain ⟨k, total⟩ := Nat.exists_eq_add_of_lt lacks
    rw [onward (k + 1) (by omega), scanElements, scanElement_append_of_error refused ended]

theorem scanArray_of_line {line : LengthLine} (found : lengthLine buffer = .ok (some line))
    (positive : 0 < line.value) (few : line.value ≤ limits.elements) :
    scanArray limits buffer none = scanArray limits buffer (some line.progress) := by
  simp only [scanArray, found, if_neg (by omega : ¬ line.value ≤ 0), if_pos few]
  rfl

theorem LengthLine.progress_fits {line : LengthLine} (found : lengthLine buffer = .ok (some line)) :
    line.progress.Fits buffer :=
  ⟨size_le_of_lengthLine found, .empty _⟩

theorem scanArray_stands (more : Bytes)
    (same : ∀ q, again q = scanArray limits (buffer ++ more) q) :
    (scanArray limits buffer none).Stands buffer none again := by
  rcases scanArray_cases limits buffer with ⟨-, scan⟩ | ⟨fault, refused, scan⟩ |
    ⟨line, found, empty, scan⟩ | ⟨line, found, many, scan⟩ | ⟨line, found, positive, few, scan⟩
  all_goals rw [scan]
  · exact ⟨rfl, by simp⟩
  · intro ended
    simp only [same, scanArray, lengthLine_append_of_error refused ended]
  · refine ⟨size_le_of_lengthLine found, ?_⟩
    simp only [same, scanArray, lengthLine_append_of_some found, if_pos empty]
  · intro _
    simp only [same, scanArray, lengthLine_append_of_some found,
      if_neg (by omega : ¬ line.value ≤ 0), if_neg (by omega : ¬ line.value ≤ limits.elements)]
  · have begun := scanElements_stands (LengthLine.progress_fits found) more fun q => same (some q)
    have opened : again none = again (some line.progress) := by
      rw [same, same, scanArray_of_line (lengthLine_append_of_some found more) positive few]
    unfold Scan.Stands at begun ⊢
    rw [opened]
    exact begun

theorem length_le_of_line {more line rest : Bytes} (unended : Byte.lf ∉ buffer)
    (form : buffer ++ more = line ++ Byte.lf :: rest) : buffer.length ≤ line.length := by
  apply Nat.le_of_not_lt
  intro short
  have inside : line ++ [Byte.lf] <+: buffer :=
    List.prefix_of_prefix_length_le ⟨rest, by simp [form]⟩ ⟨more, rfl⟩
      (by simpa using Nat.succ_le_of_lt short)
  exact unended (inside.subset (by simp))

theorem scanLine_stands (more : Bytes) (same : again none = scanLine limits (buffer ++ more)) :
    (scanLine limits buffer).Stands buffer none again := by
  rcases line_cases buffer with unended | ⟨line, rest, rfl, ends⟩
  · rw [scanLine_open unended]
    split
    · rename_i long
      intro _
      rw [same]
      rcases line_cases (buffer ++ more) with unended' | ⟨line, rest, form, ends⟩
      · rw [scanLine_open unended', if_pos]
        rw [List.length_append]
        omega
      · have := length_le_of_line unended form
        rw [form, scanLine_of_line ends, if_pos (by omega)]
    · exact ⟨rfl, by simp⟩
  · rw [List.append_assoc, List.cons_append, scanLine_of_line ends] at same
    rw [scanLine_of_line ends]
    split
    · rename_i long
      rw [if_pos long] at same
      exact fun _ => same
    · rename_i short
      rw [if_neg short] at same
      split
      · rename_i blank
        rw [if_pos blank] at same
        exact ⟨by simp, same⟩
      · rename_i worded
        rw [if_neg worded] at same
        exact ⟨by simp, (wordSpans_spec line []).1.mono (Nat.le_succ _), same⟩

end Stands

namespace RequestDecoder

theorem scan_array {limits : Limits} (tail : Bytes) :
    ({ limits, buffer := Byte.ofAscii '*' :: tail } : RequestDecoder).scan =
      scanArray limits (Byte.ofAscii '*' :: tail) none := by
  simp [scan]

theorem scan_line {limits : Limits} {first : UInt8} (other : first ≠ Byte.ofAscii '*')
    (tail : Bytes) : ({ limits, buffer := first :: tail } : RequestDecoder).scan =
      scanLine limits (first :: tail) := by
  simp [scan, other]

/-- Progress speaks of bytes that the decoder holds. -/
def Valid (d : RequestDecoder) : Prop := ∀ p, d.progress = some p → p.Fits d.buffer

theorem scan_stands {d : RequestDecoder} (valid : d.Valid) (more : Bytes) :
    d.scan.Stands d.buffer d.progress fun progress =>
      ({ d with buffer := d.buffer ++ more, progress } : RequestDecoder).scan := by
  obtain ⟨limits, buffer, progress⟩ := d
  cases buffer with
  | nil => exact ⟨rfl, valid⟩
  | cons first tail =>
      cases progress with
      | some p => exact scanElements_stands (valid p rfl) more fun q => by simp [scan]
      | none =>
          by_cases star : first = Byte.ofAscii '*'
          · subst star
            rw [scan_array]
            exact scanArray_stands more fun q => by simp [scan]
          · rw [scan_line star]
            exact scanLine_stands more (by simp [scan, star])

end RequestDecoder

end IdService.Wire
