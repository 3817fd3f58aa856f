import IdService.Proofs.Run

/-! # Commands that overlap

Moving a key and deleting it are a few calls each, and between its calls others make theirs. An
errand is such a command, at the call that it has got to. A move writes the records of its key in
one order and a deletion in the other; each call writes one record of this key, at most, and what it
makes of it depends on the command only. The allocator in hand may have left the registry by the
time it is called.
-/

namespace IdService

open Text

/-! ## The records of a key -/

inductive KeyRecord where
  /-- The key is in the registry. -/
  | registration
  /-- The key is among the known keys. -/
  | membership
  /-- The key has an entry for its counter. -/
  | counter
deriving Repr, DecidableEq

namespace Issuer

def has (s : Issuer) (key : String) : KeyRecord → Bool
  | .registration => s.registry.contains key
  | .membership => s.store.contents.isKnown key
  | .counter => (s.store.contents.counter? key).isSome

/-- A key has all of its records or none. -/
def AgreesOn (s : Issuer) (key : String) : Prop := ∀ x y, s.has key x = s.has key y

theorem agreesOn_iff {s : Issuer} {key : String} : s.AgreesOn key ↔
    s.has key .registration = s.has key .membership ∧
      s.has key .membership = s.has key .counter := by
  constructor
  · intro agrees
    exact ⟨agrees _ _, agrees _ _⟩
  · rintro ⟨first, second⟩ x y
    cases x <;> cases y <;> simp [first, second]

instance (s : Issuer) (key : String) : Decidable (s.AgreesOn key) :=
  decidable_of_iff _ agreesOn_iff.symm

theorem Sound.agreesOn {s : Issuer} (sound : s.Sound) (key : String) : s.AgreesOn key := by
  rw [agreesOn_iff, has, has, has, contains_eq sound.numbered]
  have one := sound.holdings key
  have known : s.store.contents.isKnown key = (s.holding key).known := rfl
  have counter : s.store.contents.counter? key = (s.holding key).counter? := rfl
  rw [known, counter]
  generalize s.holding key = h at one
  cases one <;> exact ⟨rfl, rfl⟩

/-- The number is that of an allocator of the key. -/
def Numbers (s : Issuer) (key : String) (number : Nat) : Prop :=
  ∃ a, s.allocator? number = some a ∧ a.key = key

end Issuer

/-! ## Errands -/

inductive Verb where
  | set
  | del
deriving Repr, DecidableEq

/-- Whether the records of a key are there once the command is done. -/
def Verb.puts : Verb → Bool
  | set => true
  | del => false

/-- A command on one key, by the call that it has got to. -/
inductive Errand where
  | set (value : Int64)
  /-- It has an allocator in hand. -/
  | obtained (value : Int64) (number : Nat)
  /-- It has made the key known. -/
  | entered (value : Int64) (number : Nat)
  | moved
  | del
  /-- It is over, as there was no key to delete. -/
  | absent
  /-- It has an allocator in hand. -/
  | found (number : Nat)
  /-- It has dropped the counter. -/
  | retired
  /-- It has made the key unknown. -/
  | forgotten
  | removed
deriving Repr, DecidableEq

namespace Errand

def verb : Errand → Verb
  | set _ | obtained .. | entered .. | moved => .set
  | del | absent | found _ | retired | forgotten | removed => .del

def isNew : Errand → Bool
  | set _ | del => true
  | _ => false

def isOver : Errand → Bool
  | moved | absent | removed => true
  | _ => false

/-- It has begun, and there are calls to come. -/
def isUnderway (e : Errand) : Bool := !e.isNew && !e.isOver

/-- The allocator in hand. -/
def number? : Errand → Option Nat
  | obtained _ number | entered _ number | found number => some number
  | _ => none

/-- The records that have been written. -/
def written : Errand → List KeyRecord
  | set _ | del | absent | found _ => []
  | obtained .. => [.registration]
  | entered .. => [.registration, .membership]
  | retired => [.counter]
  | forgotten => [.counter, .membership]
  | moved => [.registration, .membership, .counter]
  | removed => [.counter, .membership, .registration]

/-- The record that the next call writes. -/
def next? : Errand → Option KeyRecord
  | set _ | forgotten => some .registration
  | obtained .. | retired => some .membership
  | entered .. | found _ => some .counter
  | del | moved | absent | removed => none

/-- Makes the next call, unless that fails. -/
def call (e : Errand) (key : String) (s : Issuer) : Option (Errand × Issuer) :=
  match e with
  | set value =>
    match s.obtain key with
    | (.ok (number, _), s) => some (obtained value number, s)
    | (.error _, _) => none
  | obtained value number =>
    some (entered value number, { s with store := s.store.addKnown key })
  | entered value number => do
    let a ← s.allocator? number
    match s.moveTo number a value false with
    | (.ok (), s) => some (moved, s)
    | (.error _, _) => none
  | del =>
    match s.find? key with
    | none => some (absent, s)
    | some (number, _) => some (found number, s)
  | found number => do
    let a ← s.allocator? number
    match s.retire a with
    | (.ok (), s) => some (retired, s)
    | (.error _, _) => none
  | retired => some (forgotten, { s with store := s.store.removeKnown key })
  | forgotten => some (removed, { s with registry := s.registry.remove key })
  | moved | absent | removed => none

/-- What a call makes of an issuer. -/
structure Makes (e : Errand) (key : String) (s : Issuer) (e' : Errand) (s' : Issuer) : Prop where
  verb : e'.verb = e.verb
  written : e'.written = e.written ++ e.next?.toList
  records : ∀ x, s'.has key x = if e.next? = some x then e.verb.puts else s.has key x
  numbered : s'.Numbered
  numbers : ∀ number, s.Numbers key number → s'.Numbers key number
  inHand : ∀ number, e'.number? = some number → s'.Numbers key number

end Errand

/-! ## What the calls make -/

namespace Issuer

variable {s s' : Issuer} {key : String} {number : Nat} {a : Allocator}

theorem obtain_eq_ok (obtained : s.obtain key = (.ok (number, a), s')) :
    (s.find? key = some (number, a) ∧ s' = s) ∨
      (s' = s.enrol a ∧ number = s.allocators.size ∧ a.key = key) := by
  unfold obtain at obtained
  cases found : s.find? key with
  | some entry =>
      rw [found] at obtained
      cases obtained
      exact .inl ⟨rfl, rfl⟩
  | none =>
      simp only [found, register, makeAllocator] at obtained
      cases made : Allocator.make key s.registry.batchSize with
      | error fault =>
          rw [made] at obtained
          cases obtained
      | ok b =>
          obtain ⟨isKey, -⟩ := Allocator.make_ok made
          rw [made] at obtained
          cases obtained
          exact .inr ⟨by rw [enrol, isKey], rfl, isKey⟩

theorem Numbers.enrol (numbers : s.Numbers key number) (a : Allocator) :
    (s.enrol a).Numbers key number := by
  obtain ⟨b, there, isKey⟩ := numbers
  have inside := lt_size_of_allocator? there
  exact ⟨b, by rw [allocator?_enrol, if_neg (by omega), there], isKey⟩

theorem Numbers.of_find? (numbered : s.Numbered) (found : s.find? key = some (number, a)) :
    s.Numbers key number :=
  ⟨a, (find?_eq_some.mp found).2, numbered.key_eq found⟩

section update

variable {a' : Allocator} (there : s.allocator? number = some a) (same : a'.key = a.key)
  (st : Store)

include there same

theorem Numbers.update {n : Nat} (numbers : s.Numbers key n) :
    (s.update number a' st).Numbers key n := by
  obtain ⟨b, there', isKey⟩ := numbers
  unfold Numbers
  rw [allocator?_update]
  split
  · rename_i here
    rw [← here.1, there] at there'
    cases there'
    exact ⟨a', rfl, same.trans isKey⟩
  · exact ⟨b, there', isKey⟩

theorem Numbered.update_held (numbered : s.Numbered) : (s.update number a' st).Numbered :=
  fun k n registered => Numbers.update there same st (numbered k n registered)

end update

/-! ### Writing records -/

theorem has_enrol (s : Issuer) (a : Allocator) (x : KeyRecord) :
    (s.enrol a).has a.key x = if some .registration = some x then true else s.has a.key x := by
  cases x with
  | registration => exact (congrArg Option.isSome (get?_enrol s a a.key)).trans (by simp)
  | membership | counter => rfl

theorem has_addKnown (s : Issuer) (key : String) (x : KeyRecord) :
    ({ s with store := s.store.addKnown key } : Issuer).has key x =
      if some .membership = some x then true else s.has key x := by
  cases x with
  | registration => rfl
  | membership =>
      simp only [has, Store.contents_addKnown]
      exact (s.store.contents.isKnown_insert key key).trans (by simp)
  | counter =>
      simp only [has, Store.contents_addKnown]
      rfl

theorem has_removeKnown (s : Issuer) (key : String) (x : KeyRecord) :
    ({ s with store := s.store.removeKnown key } : Issuer).has key x =
      if some .membership = some x then false else s.has key x := by
  cases x with
  | registration => rfl
  | membership =>
      simp only [has, Store.contents_removeKnown]
      exact (s.store.contents.isKnown_erase key key).trans (by simp)
  | counter =>
      simp only [has, Store.contents_removeKnown]
      rfl

theorem has_remove (s : Issuer) (key : String) (x : KeyRecord) :
    ({ s with registry := s.registry.remove key } : Issuer).has key x =
      if some .registration = some x then false else s.has key x := by
  cases x with
  | registration => exact (Table.contains_erase ..).trans (by simp)
  | membership | counter => rfl

theorem has_moveTo (s : Issuer) (number : Nat) (a : Allocator) (value : Int64) (x : KeyRecord) :
    (s.moveTo number a value false).2.has a.key x =
      if some .counter = some x then true else s.has a.key x := by
  obtain ⟨-, -, contents⟩ := a.moveTo_unforced value s.store
  cases x with
  | registration => rfl
  | membership =>
      simp only [has, Issuer.moveTo, Issuer.update, contents]
      rfl
  | counter => simp [has, Issuer.moveTo, Issuer.update, contents]

theorem has_retire {s : Issuer} {a : Allocator} (retired : (s.retire a).1 = .ok ())
    (x : KeyRecord) :
    (s.retire a).2.has a.key x = if some .counter = some x then false else s.has a.key x := by
  have retires := a.retire_contents s.store
  have result : (a.retire s.store).1 = .ok () := retired
  cases pending : s.store.contents.failingDrops with
  | succ failing =>
      simp only [Contents.remove, pending, result] at retires
      cases (Prod.mk.inj retires).1
  | zero =>
      rw [Contents.remove_eq pending] at retires
      obtain ⟨-, contents⟩ := Prod.mk.inj retires
      cases x with
      | registration => rfl
      | membership =>
          simp only [has, Issuer.retire, contents]
          rfl
      | counter => simp [has, Issuer.retire, contents, Contents.counter?]

end Issuer

namespace Errand

open Issuer

variable {s s' : Issuer} {key : String} {e e' : Errand}

/-- Every call writes the record that is next, and keeps what is in hand. -/
theorem call_makes (numbered : s.Numbered)
    (inHand : ∀ number, e.number? = some number → s.Numbers key number)
    (called : e.call key s = some (e', s')) : e.Makes key s e' s' := by
  cases e with
  | set value =>
      simp only [call] at called
      rcases obtaining : s.obtain key with ⟨fault | ⟨number, a⟩, after⟩
      · simp [obtaining] at called
      · simp only [obtaining, Option.some.injEq, Prod.mk.injEq] at called
        obtain ⟨rfl, rfl⟩ := called
        rcases obtain_eq_ok obtaining with ⟨found, rfl⟩ | ⟨rfl, rfl, rfl⟩
        · have registered : after.has key .registration = true := by
            simp [has, contains_eq numbered, holding, found]
          refine ⟨rfl, rfl, fun x => ?_, numbered, fun _ => id, ?_⟩
          · cases x <;> simp [next?, verb, Verb.puts, registered]
          · rintro n ⟨⟩
            exact .of_find? numbered found
        · refine ⟨rfl, rfl, has_enrol s a, numbered.enrol a, fun _ numbers => numbers.enrol a, ?_⟩
          rintro n ⟨⟩
          exact ⟨a, by rw [allocator?_enrol, if_pos rfl], rfl⟩
  | obtained value number =>
      cases called
      exact ⟨rfl, rfl, has_addKnown s key, numbered, fun _ => id, inHand⟩
  | entered value number =>
      obtain ⟨a, there, rfl⟩ := inHand number rfl
      obtain ⟨moves, segment, -⟩ := a.moveTo_unforced value s.store
      have moves : (s.moveTo number a value false).1 = .ok () := moves
      have same : (a.moveTo value false s.store).2.1.key = a.key := by rw [segment]
      have records := has_moveTo s number a value
      have numbered' : (s.moveTo number a value false).2.Numbered :=
        numbered.update_held there same _
      have numbers : ∀ n, s.Numbers a.key n → (s.moveTo number a value false).2.Numbers a.key n :=
        fun _ numbers => numbers.update there same _
      rcases moving : s.moveTo number a value false with ⟨result, after⟩
      rw [moving] at moves records numbered' numbers
      obtain rfl := moves
      simp only [call, there, moving, Option.bind_eq_bind, Option.bind_some, Option.some.injEq,
        Prod.mk.injEq] at called
      obtain ⟨rfl, rfl⟩ := called
      exact ⟨rfl, rfl, records, numbered', numbers, by rintro n ⟨⟩⟩
  | del =>
      simp only [call] at called
      cases found : s.find? key with
      | none =>
          rw [found] at called
          cases called
          exact ⟨rfl, rfl, fun _ => rfl, numbered, fun _ => id, by rintro n ⟨⟩⟩
      | some entry =>
          rw [found] at called
          cases called
          refine ⟨rfl, rfl, fun _ => rfl, numbered, fun _ => id, ?_⟩
          rintro n ⟨⟩
          exact .of_find? numbered found
  | found number =>
      obtain ⟨a, there, rfl⟩ := inHand number rfl
      simp only [call, there, Option.bind_eq_bind, Option.bind_some] at called
      have records := has_retire (s := s) (a := a)
      have numbered' : (s.retire a).2.Numbered := numbered
      have numbers : ∀ n, s.Numbers a.key n → (s.retire a).2.Numbers a.key n := fun _ => id
      rcases retiring : s.retire a with ⟨halt | _, after⟩
      all_goals rw [retiring] at records numbered' numbers
      · simp [retiring] at called
      · simp only [retiring, Option.some.injEq, Prod.mk.injEq] at called
        obtain ⟨rfl, rfl⟩ := called
        exact ⟨rfl, rfl, records rfl, numbered', numbers, by rintro n ⟨⟩⟩
  | retired =>
      cases called
      exact ⟨rfl, rfl, has_removeKnown s key, numbered, fun _ => id, by rintro n ⟨⟩⟩
  | forgotten =>
      cases called
      exact ⟨rfl, rfl, has_remove s key, numbered.remove s.store key, fun _ => id, by rintro n ⟨⟩⟩
  | moved | absent | removed => cases called

end Errand

end IdService
