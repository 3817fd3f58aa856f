import IdService.Proofs.Holding.Restart

/-! # Calls of a store

Whoever shares a store calls it, and nobody knows what others call in between. Most calls leave the
counter of a key where it is or move it up. Those that do not are the ones that overwrite or remove
it, and an advance by a negative number.
-/

namespace IdService

open Text

namespace Contents

variable {c c' c'' : Contents} {key : String}

/-- The counter of a key, if it has a value, has one that is not less. -/
def KeepsUp (key : String) (c c' : Contents) : Prop :=
  ∀ n, c.counter? key = some (.value n) →
    ∃ n', c'.counter? key = some (.value n') ∧ n.toInt ≤ n'.toInt

namespace KeepsUp

theorem of_same (same : c'.counter? key = c.counter? key) : KeepsUp key c c' := by
  intro n held
  exact ⟨n, same.trans held, Int.le_refl _⟩

theorem refl (key : String) (c : Contents) : KeepsUp key c c := of_same rfl

theorem trans (first : KeepsUp key c c') (second : KeepsUp key c' c'') : KeepsUp key c c'' := by
  intro n held
  obtain ⟨n', held', more⟩ := first n held
  obtain ⟨n'', held'', more'⟩ := second n' held'
  exact ⟨n'', held'', Int.le_trans more more'⟩

theorem ensure (c : Contents) (key k : String) : KeepsUp key c (c.ensure k) := by
  intro n held
  refine ⟨n, ?_, Int.le_refl _⟩
  rw [counter?_ensure]
  split <;> simp [held]

end KeepsUp

/-! ## Other keys -/

theorem counter?_advance_other {k : String} (apart : key ≠ k) (delta : Int64) :
    (c.advance k delta).2.counter? key = c.counter? key := by
  unfold advance
  split
  · rfl
  · split
    · rfl
    · rfl
    · split
      · rfl
      · rw [counter?_write, if_neg apart]

theorem counter?_overwrite_other {k : String} (apart : key ≠ k) (value : Int64) :
    (c.overwrite k value).2.counter? key = c.counter? key := by
  unfold overwrite
  split
  · rw [counter?_write, if_neg apart]
  · rfl

theorem counter?_remove_other {k : String} (apart : key ≠ k) :
    (c.remove k).2.counter? key = c.counter? key := by
  unfold remove
  split
  · rfl
  · exact (counter?_erase c k key).trans (if_neg apart)

theorem KeepsUp.advance {k : String} {delta : Int64} (notDown : k = key → 0 ≤ delta.toInt) :
    KeepsUp key c (c.advance k delta).2 := by
  by_cases here : key = k
  · subst here
    unfold Contents.advance
    split
    · exact .refl key c
    · split
      · exact .refl key c
      · exact .refl key c
      · rename_i n held
        split
        · exact .refl key c
        · rename_i sum total
          intro n' held'
          rw [held] at held'
          cases held'
          have adds := Counter.add?_eq_some.mp total
          have up := notDown rfl
          refine ⟨sum, ?_, by omega⟩
          rw [counter?_write, if_pos rfl]
  · exact .of_same (counter?_advance_other here delta)

end Contents

namespace Store

/-- A call of a store. -/
inductive Call where
  | ensureCounter (key : String)
  | readCounter (key : String)
  | advance (key : String) (delta : Int64)
  | overwriteCounter (key : String) (value : Int64)
  | removeCounter (key : String)
  | addKnown (key : String)
  | removeKnown (key : String)
  | knownKeys
  | keepSetting (name value : String)
  | savedSettings
deriving Repr, DecidableEq

/-- What a call comes back with. -/
inductive Answer where
  | done
  | halted (halt : Halt)
  | value (n : Int64)
  | keys (keys : List String)
  | settings (settings : List (String × String))
deriving Repr, DecidableEq

def Answer.ofUnit : Except Halt Unit → Answer
  | .ok () => .done
  | .error halt => .halted halt

def Answer.ofValue : Except Halt Int64 → Answer
  | .ok n => .value n
  | .error halt => .halted halt

def call (st : Store) : Call → Answer × Store
  | .ensureCounter key => (.done, st.ensureCounter key)
  | .readCounter key =>
    let (result, st) := st.readCounter key
    (.ofValue result, st)
  | .advance key delta =>
    let (result, st) := st.advance key delta
    (.ofUnit result, st)
  | .overwriteCounter key value =>
    let (result, st) := st.overwriteCounter key value
    (.ofUnit result, st)
  | .removeCounter key =>
    let (result, st) := st.removeCounter key
    (.ofUnit result, st)
  | .addKnown key => (.done, st.addKnown key)
  | .removeKnown key => (.done, st.removeKnown key)
  | .knownKeys => (.keys st.knownKeys, st)
  | .keepSetting name value => (.done, st.keepSetting name value)
  | .savedSettings => (.settings st.savedSettings, st)

/-- The call neither takes the counter of a key away nor overwrites it, nor moves it down. -/
def Call.Spares (key : String) : Call → Prop
  | .advance k delta => k = key → 0 ≤ delta.toInt
  | .overwriteCounter k _ | .removeCounter k => k ≠ key
  | _ => True

instance (key : String) : DecidablePred (Call.Spares key)
  | .advance k delta => inferInstanceAs (Decidable (k = key → 0 ≤ delta.toInt))
  | .overwriteCounter k _ | .removeCounter k => inferInstanceAs (Decidable (k ≠ key))
  | .ensureCounter _ | .readCounter _ | .addKnown _ | .removeKnown _ | .knownKeys
  | .keepSetting .. | .savedSettings => inferInstanceAs (Decidable True)

theorem contents_advance (st : Store) (key : String) (delta : Int64) :
    (st.advance key delta).2.contents = (st.contents.advance key delta).2 :=
  congrArg Prod.snd (st.advance_contents key delta)

theorem contents_overwriteCounter (st : Store) (key : String) (value : Int64) :
    (st.overwriteCounter key value).2.contents = (st.contents.overwrite key value).2 :=
  congrArg Prod.snd (st.overwriteCounter_contents key value)

theorem contents_removeCounter (st : Store) (key : String) :
    (st.removeCounter key).2.contents = (st.contents.remove key).2 :=
  congrArg Prod.snd (st.removeCounter_contents key)

theorem keepsUp_call {key : String} (st : Store) {c : Call} (spares : c.Spares key) :
    Contents.KeepsUp key st.contents (st.call c).2.contents := by
  cases c with
  | ensureCounter k =>
      simp only [call, contents_ensureCounter]
      exact .ensure _ key k
  | readCounter k =>
      simp only [call, contents_readCounter]
      exact .refl key _
  | advance k delta =>
      simp only [call, contents_advance]
      exact .advance spares
  | overwriteCounter k value =>
      simp only [call, contents_overwriteCounter]
      exact .of_same (Contents.counter?_overwrite_other (Ne.symm spares) value)
  | removeCounter k =>
      simp only [call, contents_removeCounter]
      exact .of_same (Contents.counter?_remove_other (Ne.symm spares))
  | addKnown k =>
      simp only [call, contents_addKnown]
      exact .of_same rfl
  | removeKnown k =>
      simp only [call, contents_removeKnown]
      exact .of_same rfl
  | knownKeys | savedSettings => exact .refl key _
  | keepSetting name value =>
      simp only [call, contents_keepSetting]
      exact .of_same rfl

end Store
end IdService
