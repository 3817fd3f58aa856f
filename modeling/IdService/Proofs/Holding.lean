import IdService.Proofs.Allocator
import IdService.Service.Command

/-! # What is kept for one key

Registry, allocators and store keep their own records. `Issuer.holding` cuts them to one key: the
allocator it is registered with, its counter, and whether it is known. An operation on one key
changes what is kept for that key and for no other, because the allocators of different keys have
different numbers.
-/

namespace IdService

/-- What is kept for one key. -/
structure Holding where
  allocator? : Option Allocator := none
  counter? : Option Entry := none
  known : Bool := false
deriving Repr, DecidableEq

namespace Issuer

def holding (s : Issuer) (key : String) : Holding where
  allocator? := (s.find? key).map (·.2)
  counter? := s.store.contents.counter? key
  known := s.store.contents.isKnown key

/-- Every registered number is that of an allocator made for the key. -/
def Numbered (s : Issuer) : Prop :=
  ∀ key number, s.registry.get? key = some number →
    ∃ a, s.allocator? number = some a ∧ a.key = key

theorem find?_eq_some {s : Issuer} {key : String} {number : Nat} {a : Allocator} :
    s.find? key = some (number, a) ↔
      s.registry.get? key = some number ∧ s.allocator? number = some a := by
  simp only [find?, bind, pure, Option.bind_eq_some_iff, Option.some.injEq, Prod.mk.injEq]
  constructor
  · rintro ⟨n, registered, b, there, rfl, rfl⟩
    exact ⟨registered, there⟩
  · rintro ⟨registered, there⟩
    exact ⟨number, registered, a, there, rfl, rfl⟩

theorem find?_eq_none {s : Issuer} (numbered : s.Numbered) {key : String} :
    s.find? key = none ↔ s.registry.get? key = none := by
  constructor
  · intro absent
    cases registered : s.registry.get? key with
    | none => rfl
    | some number =>
        obtain ⟨a, there, -⟩ := numbered key number registered
        rw [find?_eq_some.mpr ⟨registered, there⟩] at absent
        cases absent
  · intro unregistered
    simp [find?, unregistered]

theorem contains_eq {s : Issuer} (numbered : s.Numbered) (key : String) :
    s.registry.contains key = (s.holding key).allocator?.isSome := by
  have found : s.find? key = none ↔ s.registry.get? key = none := find?_eq_none numbered
  have contains : s.registry.contains key = (s.registry.get? key).isSome := rfl
  rw [contains, holding, Option.isSome_map]
  cases h : s.find? key <;> cases h' : s.registry.get? key <;> simp_all

theorem mem_registry_keys {s : Issuer} (numbered : s.Numbered) {key : String} :
    key ∈ s.registry.keys ↔ (s.holding key).allocator?.isSome := by
  rw [← contains_eq numbered]
  exact Table.mem_keys

theorem find?_congr {s s' : Issuer} {key : String}
    (registry : s'.registry.get? key = s.registry.get? key)
    (allocators : ∀ number, s.registry.get? key = some number →
      s'.allocator? number = s.allocator? number) :
    s'.find? key = s.find? key := by
  cases registered : s.registry.get? key with
  | none => simp [find?, registry, registered]
  | some number => simp [find?, registry, registered, allocators number registered]

theorem Numbered.key_eq {s : Issuer} (numbered : s.Numbered) {key : String} {number : Nat}
    {a : Allocator} (found : s.find? key = some (number, a)) : a.key = key := by
  obtain ⟨registered, there⟩ := find?_eq_some.mp found
  obtain ⟨b, there', same⟩ := numbered key number registered
  rw [there] at there'
  cases there'
  exact same

theorem Numbered.apart {s : Issuer} (numbered : s.Numbered) {key other : String} {number n : Nat}
    (left : s.registry.get? key = some number) (right : s.registry.get? other = some n)
    (apart : other ≠ key) : n ≠ number := by
  rintro rfl
  obtain ⟨a, there, isKey⟩ := numbered key n left
  obtain ⟨b, there', isOther⟩ := numbered other n right
  rw [there] at there'
  cases there'
  exact apart (isOther.symm.trans isKey)

/-! ## Replacing an allocator -/

section update

variable {s : Issuer} {key : String} {number : Nat} {a : Allocator}

theorem allocator?_update (a' : Allocator) (st : Store) (n : Nat) :
    (s.update number a' st).allocator? n =
      if number = n ∧ n < s.allocators.size then some a' else s.allocator? n := by
  simp only [allocator?, update, Array.getElem?_setIfInBounds]
  by_cases here : number = n
  · subst here
    by_cases inside : number < s.allocators.size
    · simp [inside]
    · simp [inside]
  · simp [here]

theorem lt_size_of_allocator? {n : Nat} (there : s.allocator? n = some a) :
    n < s.allocators.size := by
  obtain ⟨inside, -⟩ := Array.getElem?_eq_some_iff.mp there
  exact inside

theorem find?_update (numbered : s.Numbered) (found : s.find? key = some (number, a))
    (a' : Allocator) (st : Store) (k : String) :
    (s.update number a' st).find? k = if k = key then some (number, a') else s.find? k := by
  obtain ⟨registered, there⟩ := find?_eq_some.mp found
  by_cases here : k = key
  · subst here
    rw [if_pos rfl, find?_eq_some, allocator?_update, if_pos ⟨rfl, lt_size_of_allocator? there⟩]
    exact ⟨registered, rfl⟩
  · rw [if_neg here]
    apply find?_congr
    · rfl
    · intro n other
      rw [allocator?_update, if_neg fun same => numbered.apart registered other here same.1.symm]

theorem Numbered.update (numbered : s.Numbered) (found : s.find? key = some (number, a))
    {a' : Allocator} (same : a'.key = key) (st : Store) : (s.update number a' st).Numbered := by
  intro k n registered
  obtain ⟨registered', -⟩ := find?_eq_some.mp found
  obtain ⟨b, there, isK⟩ := numbered k n registered
  rw [allocator?_update]
  by_cases here : number = n ∧ n < s.allocators.size
  · rw [if_pos here]
    obtain ⟨rfl, -⟩ := here
    have one : k = key := Decidable.byContradiction fun apart =>
      numbered.apart registered' registered apart rfl
    exact ⟨a', rfl, same.trans one.symm⟩
  · rw [if_neg here]
    exact ⟨b, there, isK⟩

end update

/-! ## Registering and removing -/

theorem Numbered.lt_size {s : Issuer} (numbered : s.Numbered) {key : String} {number : Nat}
    (registered : s.registry.get? key = some number) : number < s.allocators.size := by
  obtain ⟨a, there, -⟩ := numbered key number registered
  exact lt_size_of_allocator? there

/-- The issuer with a new allocator registered for its key. -/
def enrol (s : Issuer) (a : Allocator) : Issuer :=
  { s with
    allocators := s.allocators.push a
    registry := { s.registry with
      registered := s.registry.registered.insert a.key s.allocators.size } }

theorem make_eq {key : String} {batchSize : Int64} (notEmpty : key ≠ "")
    (positive : 0 < batchSize.toInt) :
    Allocator.make key batchSize = .ok { key, batchSize } := by
  have filled : ¬ key.isEmpty := by simpa using notEmpty
  have notLow : ¬ batchSize ≤ 0 := by
    rw [Int64.le_iff_toInt_le]
    exact Int.not_le.mpr positive
  rw [Allocator.make, if_neg filled, if_neg notLow]

theorem register_eq (s : Issuer) {key : String} {batchSize : Int64} (notEmpty : key ≠ "")
    (positive : 0 < batchSize.toInt) :
    s.register key batchSize =
      (.ok (s.allocators.size, { key, batchSize }), s.enrol { key, batchSize }) := by
  simp only [register, makeAllocator, make_eq notEmpty positive, enrol]

theorem get?_enrol (s : Issuer) (a : Allocator) (k : String) :
    (s.enrol a).registry.get? k =
      if k = a.key then some s.allocators.size else s.registry.get? k :=
  Table.get?_insert ..

theorem allocator?_enrol (s : Issuer) (a : Allocator) (n : Nat) :
    (s.enrol a).allocator? n = if n = s.allocators.size then some a else s.allocator? n :=
  Array.getElem?_push

theorem find?_enrol {s : Issuer} (numbered : s.Numbered) (a : Allocator) (k : String) :
    (s.enrol a).find? k = if k = a.key then some (s.allocators.size, a) else s.find? k := by
  by_cases here : k = a.key
  · rw [if_pos here, find?_eq_some, get?_enrol, if_pos here, allocator?_enrol, if_pos rfl]
    exact ⟨rfl, rfl⟩
  · rw [if_neg here]
    apply find?_congr
    · rw [get?_enrol, if_neg here]
    · intro number registered
      have inside := numbered.lt_size registered
      rw [allocator?_enrol, if_neg (by omega)]

theorem Numbered.enrol {s : Issuer} (numbered : s.Numbered) (a : Allocator) :
    (s.enrol a).Numbered := by
  intro k n registered
  rw [get?_enrol] at registered
  rw [allocator?_enrol]
  split at registered
  · rename_i here
    cases registered
    exact ⟨a, if_pos rfl, here.symm⟩
  · have inside := numbered.lt_size registered
    rw [if_neg (by omega)]
    exact numbered k n registered

theorem find?_remove (s : Issuer) (st : Store) (key k : String) :
    ({ s with store := st, registry := s.registry.remove key } : Issuer).find? k =
      if k = key then none else s.find? k := by
  have erased : (s.registry.remove key).get? k = if k = key then none else s.registry.get? k :=
    Table.get?_erase ..
  by_cases here : k = key
  · rw [if_pos here] at erased ⊢
    simp [find?, erased]
  · rw [if_neg here] at erased ⊢
    exact find?_congr erased fun _ _ => rfl

theorem Numbered.remove {s : Issuer} (numbered : s.Numbered) (st : Store) (key : String) :
    ({ s with store := st, registry := s.registry.remove key } : Issuer).Numbered := by
  intro k n registered
  have erased : (s.registry.remove key).get? k = if k = key then none else s.registry.get? k :=
    Table.get?_erase ..
  rw [show ({ s with store := st, registry := s.registry.remove key } : Issuer).registry.get? k =
    _ from erased] at registered
  split at registered
  · cases registered
  · exact numbered k n registered

end Issuer
end IdService
