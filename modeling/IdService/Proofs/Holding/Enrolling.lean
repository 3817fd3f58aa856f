import IdService.Proofs.Holding

/-! # What registering makes

Whoever registers a key gets an allocator that has issued nothing, or is refused and has changed
nothing. Taking up known keys is a row of registrations, each after the making of a counter.
-/

namespace IdService

namespace Allocator

/-- The allocator has issued nothing since it was made. -/
structure Fresh (a : Allocator) : Prop where
  segment : a.segment = {}
  batchSize : 0 < a.batchSize.toInt

theorem make_ok {key : String} {batchSize : Int64} {a : Allocator}
    (made : make key batchSize = .ok a) : a.key = key ∧ a.Fresh := by
  unfold make at made
  split at made
  · cases made
  · split at made
    · cases made
    · rename_i notLow
      cases made
      rw [Int64.le_iff_toInt_le, Int64.toInt_zero] at notLow
      exact ⟨rfl, rfl, Int.not_le.mp notLow⟩

end Allocator

namespace Issuer

theorem makeAllocator_cases (s : Issuer) (key : String) (batchSize : Int64) :
    (s.makeAllocator key batchSize).2 = s ∨
      ∃ a, a.Fresh ∧
        (s.makeAllocator key batchSize).2 = { s with allocators := s.allocators.push a } := by
  unfold makeAllocator
  cases made : Allocator.make key batchSize with
  | error fault => exact .inl rfl
  | ok a => exact .inr ⟨a, (Allocator.make_ok made).2, rfl⟩

theorem register_cases (s : Issuer) (key : String) (batchSize : Int64) :
    (s.register key batchSize).2 = s ∨
      ∃ a, a.Fresh ∧ (s.register key batchSize).2 = s.enrol a := by
  unfold register makeAllocator
  cases made : Allocator.make key batchSize with
  | error fault => exact .inl rfl
  | ok a =>
      obtain ⟨rfl, fresh⟩ := Allocator.make_ok made
      exact .inr ⟨a, fresh, rfl⟩

theorem obtain_cases (s : Issuer) (key : String) :
    (s.obtain key).2 = s ∨ ∃ a, a.Fresh ∧ (s.obtain key).2 = s.enrol a := by
  unfold obtain
  cases s.find? key with
  | some found => exact .inl rfl
  | none => exact s.register_cases key _

/-- What the making of a counter and a registration lead to, step by step, so does taking up known
keys. -/
theorem restore_leads {R : Issuer → Issuer → Prop} (refl : ∀ s, R s s)
    (trans : ∀ s s' s'', R s s' → R s' s'' → R s s'')
    (ensures : ∀ s key, R s { s with store := s.store.ensureCounter key })
    (enrols : ∀ s a, a.Fresh → R s (s.enrol a)) (batchSize : Int64) (keys : List String)
    (s : Issuer) (count : Nat) : R s (s.restore batchSize count keys).2 := by
  induction keys generalizing s count with
  | nil => exact refl s
  | cons key rest ih =>
      unfold restore
      split
      · exact ih s count
      · let s₁ : Issuer := { s with store := s.store.ensureCounter key }
        have registered : R s₁ (s₁.register key batchSize).2 := by
          rcases s₁.register_cases key batchSize with same | ⟨a, fresh, enrolled⟩
          · rw [same]
            exact refl s₁
          · rw [enrolled]
            exact enrols s₁ a fresh
        have through := trans s s₁ _ (ensures s key) registered
        rcases registering : s₁.register key batchSize with ⟨fault | found, after⟩
        all_goals rw [registering] at through
        · exact through
        · exact trans s after _ through (ih after (count + 1))

end Issuer
end IdService
