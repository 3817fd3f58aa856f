import IdService.Proofs.Counter
import IdService.Proofs.Numeral
import IdService.Settings

/-! # The batch size stays positive

A batch size comes from a configuration, from a text saved for it or from one written to it. None
of them lets a number through that is not positive, so neither does what a running server writes.
-/

namespace IdService

theorem Kind.parse_batch [Patterns] {raw : String} {v : Int64}
    (parsed : Kind.parse .batch raw = .ok v) : 0 < v.toInt := by
  simp only [Kind.parse, Kind.numeral] at parsed
  cases read : Numeral.read Numeral.Range.int64 (Text.trimChars raw.toList) with
  | error fault =>
      rw [read] at parsed
      cases parsed
  | ok n =>
      have within := Numeral.contains_of_read (by decide) read
      rw [read] at parsed
      by_cases low : n ≤ 0
      · simp only [bind, Except.bind, if_pos low] at parsed
        cases parsed
      · simp only [bind, Except.bind, if_neg low] at parsed
        cases parsed
        rw [Counter.toInt_ofInt within]
        omega

namespace Configuration

variable [Patterns] {c c' : Configuration}

theorem write_batchSize {s : Setting} {raw : String} (positive : 0 < c.batchSize.toInt)
    (written : c.write s raw = .ok c') : 0 < c'.batchSize.toInt := by
  unfold write at written
  cases parsed : s.kind.parse raw with
  | error reason =>
      rw [parsed] at written
      cases written
  | ok v =>
      rw [parsed] at written
      cases written
      by_cases here : s = .batchSize
      · subst here
        exact Kind.parse_batch parsed
      · have other : Setting.batchSize ≠ s := fun same => here same.symm
        simp only [batchSize, set, dif_neg other]
        exact positive

theorem override_batchSize {s : Setting} {name raw : String} (positive : 0 < c.batchSize.toInt)
    (taken : c.override name raw = .ok (s, c')) : 0 < c'.batchSize.toInt := by
  unfold override at taken
  split at taken
  · cases taken
  · split at taken
    · rename_i written
      cases taken
      exact write_batchSize positive written
    · cases taken

theorem overrideAll_batchSize (positive : 0 < c.batchSize.toInt) (saved : List (String × String)) :
    0 < (c.overrideAll saved).2.batchSize.toInt := by
  induction saved generalizing c with
  | nil => exact positive
  | cons entry rest ih =>
      obtain ⟨name, raw⟩ := entry
      unfold overrideAll
      cases taken : c.override name raw with
      | ok taken' =>
          obtain ⟨s, c'⟩ := taken'
          exact ih (override_batchSize positive taken)
      | error fault => exact ih positive

end Configuration

namespace Registry

theorem make_eq {batchSize : Int64} (positive : 0 < batchSize.toInt) :
    make batchSize = .ok { batchSize } := by
  have notLow : ¬ batchSize ≤ 0 := by
    rw [Int64.le_iff_toInt_le]
    exact Int.not_le.mpr positive
  rw [make, if_neg notLow]

theorem withBatchSize_eq_ok {r r' : Registry} {batchSize : Int64}
    (changed : r.withBatchSize batchSize = .ok r') :
    0 < batchSize.toInt ∧ r' = { r with batchSize } := by
  unfold withBatchSize at changed
  split at changed
  · cases changed
  · rename_i notLow
    rw [Int64.le_iff_toInt_le] at notLow
    cases changed
    exact ⟨Int.not_le.mp notLow, rfl⟩

end Registry

namespace LiveEffect

theorem batchSize_ok {s : Setting} {c : Configuration} {r r' : Registry}
    (passed : batchSize s c r = .ok r') (positive : 0 < r.batchSize.toInt) :
    r'.registered = r.registered ∧ 0 < r'.batchSize.toInt := by
  unfold batchSize at passed
  split at passed
  · obtain ⟨above, rfl⟩ := Registry.withBatchSize_eq_ok passed
    exact ⟨rfl, above⟩
  · cases passed
    exact ⟨rfl, positive⟩

end LiveEffect

namespace Settings

theorem write_frame [Patterns] (s : Settings) (st : Store) (r : Registry) (name raw : String)
    (positive : 0 < r.batchSize.toInt) {result : Except WriteFault Setting} {s' : Settings}
    {st' : Store} {r' : Registry}
    (written : s.write .batchSize st r name raw = (result, s', st', r')) :
    (st' = st ∨ ∃ name', st' = st.keepSetting name' raw) ∧
      r'.registered = r.registered ∧ 0 < r'.batchSize.toInt := by
  unfold write at written
  cases taken : s.config.override name raw with
  | error fault =>
      rw [taken] at written
      cases written
      exact ⟨.inl rfl, rfl, positive⟩
  | ok entry =>
      obtain ⟨setting, c⟩ := entry
      simp only [taken] at written
      cases passed : LiveEffect.batchSize setting c r with
      | error fault =>
          rw [passed] at written
          cases written
          exact ⟨.inr ⟨_, rfl⟩, rfl, positive⟩
      | ok r'' =>
          rw [passed] at written
          cases written
          exact ⟨.inr ⟨_, rfl⟩, LiveEffect.batchSize_ok passed positive⟩

end Settings
end IdService
