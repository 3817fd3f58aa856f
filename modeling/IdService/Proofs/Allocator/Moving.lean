import IdService.Proofs.Store.Calls

/-! # What a move leaves alone

A move, by force or not, is a few calls of the store for the key of the allocator. What each of them
keeps, the move keeps, whether it comes to its end or is refused on the way.
-/

namespace IdService.Allocator

variable {P : Contents → Prop}

theorem overwrite_preserves (a : Allocator) (value : Int64) {st : Store}
    (ensures : ∀ c, P c → P (c.ensure a.key))
    (overwrites : ∀ c, P c → P (c.overwrite a.key value).2) (holds : P st.contents) :
    P (a.overwrite value st).2.2.contents := by
  rw [overwrite_store, Store.contents_overwriteCounter, Store.contents_ensureCounter]
  exact overwrites _ (ensures _ holds)

theorem moveTo_preserves (a : Allocator) (value : Int64) (force : Bool) {st : Store}
    (ensures : ∀ c, P c → P (c.ensure a.key))
    (overwrites : ∀ c, P c → P (c.overwrite a.key value).2)
    (removes : ∀ c, P c → P (c.remove a.key).2) (holds : P st.contents) :
    P (a.moveTo value force st).2.2.contents := by
  cases force with
  | false => exact a.overwrite_preserves value ensures overwrites holds
  | true =>
      have removed : P (st.removeCounter a.key).2.contents := by
        rw [Store.contents_removeCounter]
        exact removes _ holds
      simp only [moveTo, if_pos]
      rcases removing : st.removeCounter a.key with ⟨halt | _, after⟩
      all_goals rw [removing] at removed
      · exact removed
      · exact a.overwrite_preserves value ensures overwrites removed

/-- A move that is refused leaves the allocator as it is; otherwise nothing is at hand behind it. -/
theorem moveTo_allocator (a : Allocator) (value : Int64) (force : Bool) (st : Store) :
    (a.moveTo value force st).2.1 = a ∨
      (a.moveTo value force st).2.1 = { a with segment := ⟨value, value⟩ } := by
  unfold moveTo
  split
  · split
    · exact .inl rfl
    · exact .inr (a.overwrite_allocator value _)
  · exact .inr (a.overwrite_allocator value _)

theorem moveTo_key (a : Allocator) (value : Int64) (force : Bool) (st : Store) :
    (a.moveTo value force st).2.1.key = a.key := by
  rcases a.moveTo_allocator value force st with same | moved
  · rw [same]
  · rw [moved]

theorem moveTo_counter?_other (a : Allocator) (value : Int64) (force : Bool) (st : Store)
    {key : String} (apart : key ≠ a.key) :
    (a.moveTo value force st).2.2.contents.counter? key = st.contents.counter? key := by
  apply a.moveTo_preserves value force (P := fun c => c.counter? key = st.contents.counter? key)
  · intro c same
    rw [Contents.counter?_ensure, if_neg apart, same]
  · intro c same
    rw [Contents.counter?_overwrite_other apart, same]
  · intro c same
    rw [Contents.counter?_remove_other apart, same]
  · rfl

theorem retire_counter?_other (a : Allocator) (st : Store) {key : String} (apart : key ≠ a.key) :
    (a.retire st).2.contents.counter? key = st.contents.counter? key := by
  unfold retire
  rw [Store.contents_removeCounter, Contents.counter?_remove_other apart]

end IdService.Allocator
