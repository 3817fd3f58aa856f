import IdService.Proofs.Allocator.Retrying
import IdService.Proofs.Service.Refusals
import Mathlib.Data.Finset.Card

/-! # Keys struck out

When nothing fails, deleting a registered key takes its counter, its known key and its registration
together, and deleting another key is nothing. A key that has been struck out is not registered, so
that striking it out again is nothing either. `Issuer.records` leaves aside what does not last: the
calls that are counted and the failures to come.
-/

namespace IdService

namespace Store

theorem records_records (st : Store) : st.records.records = st.records := by
  cases st <;> rfl

theorem records_removeKnown (st : Store) (key : String) :
    (st.removeKnown key).records = st.records.removeKnown key := by
  cases st <;> rfl

end Store

namespace Issuer

variable {s s' : Issuer} {key : String}

/-! ## What lasts of an issuer -/

/-- What an issuer holds: its store has counted no calls, and no failure is to come. -/
def records (s : Issuer) : Issuer := { s with store := s.store.records }

theorem records_records (s : Issuer) : s.records.records = s.records := by
  simp only [records, Store.records_records]

theorem find?_records (s : Issuer) (key : String) : s.records.find? key = s.find? key := rfl

theorem holding_records (s : Issuer) (key : String) : s.records.holding key = s.holding key := by
  have contents : s.records.store.contents = _ := s.store.contents_records
  simp only [holding, find?_records, contents, Contents.counter?, Contents.isKnown]

theorem find?_of_records (same : s'.records = s.records) (key : String) :
    s'.find? key = s.find? key := by
  rw [← find?_records, same, find?_records]

theorem holding_of_records (same : s'.records = s.records) (key : String) :
    s'.holding key = s.holding key := by
  rw [← holding_records, same, holding_records]

theorem sound_records : s.records.Sound ↔ s.Sound := by
  have contents := s.store.contents_records
  constructor
  · rintro ⟨holdings, numbered, named, batchSize⟩
    refine ⟨fun key => holding_records s key ▸ holdings key, numbered, ?_, batchSize⟩
    simp only [records, contents] at named
    exact ⟨named.counters, named.known⟩
  · rintro ⟨holdings, numbered, named, batchSize⟩
    refine ⟨fun key => (holding_records s key).symm ▸ holdings key, numbered, ?_, batchSize⟩
    simp only [records, contents]
    exact ⟨named.counters, named.known⟩

theorem Sound.of_records (sound : s.Sound) (same : s'.records = s.records) : s'.Sound :=
  sound_records.mp (same ▸ sound_records.mpr sound)

/-! ## Striking out -/

/-- What is left when a key has been deleted and nothing has failed. -/
def strike (s : Issuer) (key : String) : Issuer :=
  match s.find? key with
  | none => s.records
  | some (_, a) => ((s.records.retire a).2.forget key).records

/-- What is left when keys have been deleted one after the other. -/
def strikes (s : Issuer) (keys : List String) : Issuer := keys.foldl strike s.records

theorem strike_of_absent (absent : s.find? key = none) : s.strike key = s.records := by
  rw [strike, absent]

theorem strike_of_found {number : Nat} {a : Allocator} (found : s.find? key = some (number, a)) :
    s.strike key = ((s.records.retire a).2.forget key).records := by
  rw [strike, found]

theorem strike_records (s : Issuer) (key : String) : s.records.strike key = s.strike key := by
  simp only [strike, find?_records, records_records]

theorem records_strike (s : Issuer) (key : String) : (s.strike key).records = s.strike key := by
  cases found : s.find? key with
  | none => rw [strike_of_absent found, records_records]
  | some entry => rw [strike_of_found found, records_records]

theorem find?_strike (s : Issuer) (key k : String) :
    (s.strike key).find? k = if k = key then none else s.find? k := by
  cases found : s.find? key with
  | none =>
      rw [strike_of_absent found, find?_records]
      by_cases here : k = key
      · rw [if_pos here, here, found]
      · rw [if_neg here]
  | some entry =>
      rw [strike_of_found found, find?_records]
      exact find?_remove (s.records.retire entry.2).2 _ key k

/-- Striking out a key drops it and leaves the others alone. -/
theorem Sound.strike (sound : s.Sound) (key : String) :
    (s.strike key).Sound ∧ ∀ k, (s.strike key).holding k = if k = key then {} else s.holding k := by
  cases found : s.find? key with
  | none =>
      rw [strike_of_absent found]
      refine ⟨sound_records.mpr sound, fun k => ?_⟩
      rw [holding_records]
      by_cases here : k = key
      · rw [if_pos here, here, holding_of_absent sound found]
      · rw [if_neg here]
  | some entry =>
      obtain ⟨number, a⟩ := entry
      have calm : s.records.store.contents.Faultless := by
        simp only [records, Store.contents_records]
        exact ⟨rfl, rfl, rfl⟩
      rw [strike_of_found found]
      rcases retire_spec (sound_records.mpr sound) (find?_records s key ▸ found) with
        ⟨_, -, -, failing⟩ | ⟨-, takes, gone⟩
      · exact absurd calm failing
      · refine ⟨sound_records.mpr takes.sound, fun k => ?_⟩
        rw [holding_records]
        by_cases here : k = key
        · rw [if_pos here, here, gone]
        · rw [if_neg here, takes.others k here, holding_records]

theorem Sound.of_strike (sound : s.Sound) (struck : s'.records = s.strike key) : s'.Sound :=
  (sound.strike key).1.of_records (by rw [struck, records_strike])

/-! ## Many keys -/

theorem strikes_cons (s : Issuer) (key : String) (rest : List String) :
    s.strikes (key :: rest) = (s.strike key).strikes rest := by
  rw [strikes, List.foldl_cons, strike_records, strikes, records_strike]

theorem records_strikes (s : Issuer) (keys : List String) :
    (s.strikes keys).records = s.strikes keys := by
  induction keys generalizing s with
  | nil => exact records_records s
  | cons key rest ih => rw [strikes_cons, ih]

theorem strikes_append (s : Issuer) (keys more : List String) :
    s.strikes (keys ++ more) = (s.strikes keys).strikes more := by
  induction keys generalizing s with
  | nil => rw [List.nil_append, strikes, strikes, strikes, List.foldl_nil, records_records]
  | cons key rest ih => rw [List.cons_append, strikes_cons, ih, strikes_cons]

theorem strikes_of_records (same : s'.records = s.records) (keys : List String) :
    s'.strikes keys = s.strikes keys := by
  rw [strikes, same, strikes]

theorem find?_strikes (s : Issuer) (keys : List String) (k : String) :
    (s.strikes keys).find? k = if k ∈ keys then none else s.find? k := by
  induction keys generalizing s with
  | nil => simp only [strikes, List.foldl_nil, find?_records, List.not_mem_nil, if_false]
  | cons key rest ih =>
      rw [strikes_cons, ih, find?_strike]
      by_cases here : k = key
      · simp only [here, if_true, ite_self, List.mem_cons, true_or]
      · simp only [here, if_false, List.mem_cons, false_or]

theorem Sound.strikes (sound : s.Sound) (keys : List String) :
    (s.strikes keys).Sound ∧
      ∀ k, (s.strikes keys).holding k = if k ∈ keys then {} else s.holding k := by
  induction keys generalizing s with
  | nil =>
      refine ⟨sound_records.mpr sound, fun k => ?_⟩
      rw [if_neg List.not_mem_nil]
      exact holding_records s k
  | cons key rest ih =>
      obtain ⟨struck, holdings⟩ := sound.strike key
      obtain ⟨all, later⟩ := ih struck
      rw [strikes_cons]
      refine ⟨all, fun k => ?_⟩
      rw [later, holdings]
      by_cases here : k = key
      · simp only [here, if_true, ite_self, List.mem_cons, true_or]
      · simp only [here, if_false, List.mem_cons, false_or]

theorem strikes_of_absent {keys : List String} (absent : ∀ k ∈ keys, s.find? k = none) :
    s.strikes keys = s.records := by
  induction keys generalizing s with
  | nil => rfl
  | cons key rest ih =>
      obtain ⟨first, later⟩ := List.forall_mem_cons.mp absent
      have same : (s.strike key).records = s.records := by
        rw [records_strike, strike_of_absent first]
      rw [strikes_cons, ih fun k member => (find?_of_records same k).trans (later k member), same]

theorem Sound.of_strikes {keys : List String} (sound : s.Sound)
    (struck : s'.records = s.strikes keys) : s'.Sound :=
  (sound.strikes keys).1.of_records (by rw [struck, records_strikes])

theorem strikes_again {keys : List String} (struck : s'.records = s.strikes keys)
    (more : List String) : s'.strikes (keys ++ more) = s.strikes (keys ++ more) := by
  have absent : ∀ k ∈ keys, (s.strikes keys).find? k = none := by
    intro k member
    rw [find?_strikes, if_pos member]
  have same : s'.records = (s.strikes keys).records := by rw [struck, records_strikes]
  rw [strikes_of_records same, strikes_append, strikes_of_absent absent, records_strikes,
    ← strikes_append]

/-! ## How many there were -/

/-- How many of some keys are registered, repeated ones counted once. -/
def countListed (s : Issuer) (keys : List String) : Nat :=
  (keys.toFinset.filter fun key => s.registry.contains key).card

theorem contains_eq_find? (numbered : s.Numbered) (key : String) :
    s.registry.contains key = (s.find? key).isSome := by
  rw [contains_eq numbered, holding, Option.isSome_map]

theorem countListed_eq (numbered : s.Numbered) (keys : List String) :
    s.countListed keys = (keys.toFinset.filter fun key => (s.find? key).isSome).card := by
  simp only [countListed, contains_eq_find? numbered]

theorem countListed_of_records (same : s'.records = s.records) (keys : List String) :
    s'.countListed keys = s.countListed keys := by
  have registry : s'.records.registry = s.records.registry := by rw [same]
  rw [countListed, show s'.registry = s.registry from registry, countListed]

/-- The first key counts if it is registered, and not again when it comes back. -/
theorem countListed_cons (sound : s.Sound) (key : String) (rest : List String) :
    s.countListed (key :: rest) =
      (if (s.find? key).isSome then 1 else 0) + (s.strike key).countListed rest := by
  rw [countListed_eq sound.numbered, countListed_eq (sound.strike key).1.numbered]
  simp only [find?_strike]
  by_cases registered : (s.find? key).isSome
  · have rows : (key :: rest).toFinset.filter (fun k => (s.find? k).isSome) =
        insert key (rest.toFinset.filter fun k => (if k = key then none else s.find? k).isSome) := by
      ext k
      by_cases here : k = key
      · simp [here, registered]
      · simp [here]
    rw [rows, Finset.card_insert_of_notMem (by simp), if_pos registered, Nat.add_comm]
  · have rows : (key :: rest).toFinset.filter (fun k => (s.find? k).isSome) =
        rest.toFinset.filter fun k => (if k = key then none else s.find? k).isSome := by
      ext k
      by_cases here : k = key
      · simp [here, registered]
      · simp [here]
    rw [rows, if_neg registered, Nat.zero_add]

end Issuer
end IdService
