import IdService.Proofs.Holding.Restart
import IdService.Proofs.Store.Bytes
import IdService.Proofs.Store.Settings
import Mathlib.Data.Finset.Card
import Mathlib.Data.Finset.Image

/-! # Taking up known keys

A start takes up the known keys that are not registered. It may find anything: a key may be empty,
several entries may read as one key, a counter may be missing or corrupt, and some keys may be
registered already. `Issuer.Registers` is what taking up a set of keys comes to; one key after the
other, it fills what is missing and touches nothing that is there.
-/

namespace IdService

open Text

namespace Issuer

variable {s s₁ s' : Issuer} {key : String} {batchSize : Int64}

/-- Those of some keys that are not empty and not registered. -/
def unregistered (s : Issuer) (keys : List String) : Finset String :=
  keys.toFinset.filter fun key => key ≠ "" ∧ s.registry.contains key = false

/-- The keys that a start has to take up: what the entries of known keys read as, as far as it is
not empty and not registered. -/
def unrestored (s : Issuer) : Finset String :=
  s.unregistered (s.store.contents.known.keys.map ofUtf8Lossy)

theorem mem_unregistered {keys : List String} :
    key ∈ s.unregistered keys ↔ key ∈ keys ∧ key ≠ "" ∧ s.registry.contains key = false := by
  rw [unregistered, Finset.mem_filter, List.mem_toFinset]

theorem unrestored_eq (s : Issuer) : s.unrestored = s.unregistered s.store.knownKeys := by
  ext key
  rw [unrestored, mem_unregistered, mem_unregistered]
  constructor
  · rintro ⟨listed, notEmpty, absent⟩
    exact ⟨(s.store.mem_knownKeys_iff notEmpty).mpr listed, notEmpty, absent⟩
  · rintro ⟨listed, notEmpty, absent⟩
    exact ⟨(s.store.mem_knownKeys_iff notEmpty).mp listed, notEmpty, absent⟩

/-- Some keys have been registered, each with an allocator of its own that has issued nothing, and
with a counter at zero where there was none. Nothing that was there has changed. -/
structure Registers (s : Issuer) (new : Finset String) (s' : Issuer) : Prop where
  registered : ∀ key, s'.registry.contains key ↔ key ∈ new ∨ s.registry.contains key
  made : ∀ key ∈ new, ∃ number, s'.find? key =
    some (number, { key, batchSize := s.registry.batchSize, segment := ⟨0, 0⟩ })
  counters : ∀ raw, s'.store.counterBytes.get? raw =
    if raw ∈ new.image utf8 then some ((s.store.counterBytes.get? raw).getD (Counter.encode 0))
    else s.store.counterBytes.get? raw
  numbers : ∀ key number, s.registry.get? key = some number → s'.registry.get? key = some number
  allocators : ∀ number a, s.allocator? number = some a → s'.allocator? number = some a
  batchSize : s'.registry.batchSize = s.registry.batchSize
  known : s'.store.contents.known = s.store.contents.known
  settings : s'.store.contents.settings = s.store.contents.settings

namespace Registers

variable {new later : Finset String}

theorem refl (s : Issuer) : s.Registers ∅ s where
  registered _ := by simp
  made := by simp
  counters _ := by simp
  numbers _ _ := id
  allocators _ _ := id
  batchSize := rfl
  known := rfl
  settings := rfl

theorem find? {number : Nat} {a : Allocator} (registers : s.Registers new s')
    (found : s.find? key = some (number, a)) : s'.find? key = some (number, a) := by
  obtain ⟨registered, there⟩ := find?_eq_some.mp found
  exact find?_eq_some.mpr
    ⟨registers.numbers key number registered, registers.allocators number a there⟩

theorem trans (first : s.Registers new s₁) (second : s₁.Registers later s') :
    s.Registers (new ∪ later) s' where
  registered key := by
    rw [second.registered, first.registered, Finset.mem_union, ← or_assoc,
      or_comm (a := key ∈ later)]
  made key listed := by
    rcases Finset.mem_union.mp listed with early | late
    · obtain ⟨number, found⟩ := first.made key early
      exact ⟨number, second.find? found⟩
    · rw [← first.batchSize]
      exact second.made key late
  counters raw := by
    rw [second.counters, first.counters]
    simp only [Finset.image_union, Finset.mem_union]
    by_cases early : raw ∈ new.image utf8 <;> by_cases late : raw ∈ later.image utf8 <;>
      simp [early, late]
  numbers key number registered :=
    second.numbers key number (first.numbers key number registered)
  allocators number a there := second.allocators number a (first.allocators number a there)
  batchSize := second.batchSize.trans first.batchSize
  known := second.known.trans first.known
  settings := second.settings.trans first.settings

theorem enrol (absent : s.registry.contains key = false) :
    s.Registers {key} (({ s with store := s.store.ensureCounter key } : Issuer).enrol
      { key, batchSize := s.registry.batchSize }) where
  registered k := by
    have inserted := Table.contains_insert s.registry.registered key k s.allocators.size
    rw [Finset.mem_singleton, ← decide_eq_true_iff (p := k = key), ← Bool.or_eq_true]
    exact iff_of_eq (congrArg (· = true) inserted)
  made k listed := by
    obtain rfl := Finset.mem_singleton.mp listed
    refine ⟨s.allocators.size, find?_eq_some.mpr ⟨?_, ?_⟩⟩
    · rw [get?_enrol, if_pos rfl]
    · rw [allocator?_enrol, if_pos rfl]
  counters raw := by
    simp only [Finset.image_singleton, Finset.mem_singleton]
    exact s.store.get?_counterBytes_ensureCounter key raw
  numbers k number registered := by
    have apart : k ≠ key := by
      rintro rfl
      rw [Registry.contains, Table.contains] at absent
      rw [Registry.get?] at registered
      rw [registered] at absent
      cases absent
    rw [get?_enrol, if_neg apart]
    exact registered
  allocators number a there := by
    have inside := lt_size_of_allocator? there
    rw [allocator?_enrol, if_neg (Nat.ne_of_lt inside)]
    exact there
  batchSize := rfl
  known := (congrArg Contents.known (s.store.contents_ensureCounter key)).trans
    (s.store.contents.known_ensure key)
  settings := (congrArg Contents.settings (s.store.contents_ensureCounter key)).trans
    (s.store.contents.settings_ensure key)

end Registers

/-! ## One key after the other -/

theorem unregistered_of_skipped (skipped : key = "" ∨ s.registry.contains key = true)
    (rest : List String) : s.unregistered (key :: rest) = s.unregistered rest := by
  ext k
  rw [mem_unregistered, mem_unregistered, List.mem_cons]
  constructor
  · rintro ⟨rfl | later, notEmpty, absent⟩
    · rw [absent] at skipped
      exact absurd skipped (by simp [notEmpty])
    · exact ⟨later, notEmpty, absent⟩
  · rintro ⟨later, wanted⟩
    exact ⟨.inr later, wanted⟩

theorem Registers.unregistered_cons (first : s.Registers {key} s₁) (notEmpty : key ≠ "")
    (absent : s.registry.contains key = false) (rest : List String) :
    key ∉ s₁.unregistered rest ∧
      s.unregistered (key :: rest) = {key} ∪ s₁.unregistered rest := by
  have now : ∀ k, s₁.registry.contains k = false ↔ k ≠ key ∧ s.registry.contains k = false := by
    intro k
    rw [← Bool.not_eq_true, first.registered, Finset.mem_singleton, not_or, Bool.not_eq_true]
  refine ⟨fun member => ((now key).mp (mem_unregistered.mp member).2.2).1 rfl, ?_⟩
  ext k
  rw [Finset.mem_union, Finset.mem_singleton, mem_unregistered, mem_unregistered, List.mem_cons,
    now]
  by_cases here : k = key
  · simp [here, notEmpty, absent]
  · simp [here]

theorem restore_registers (positive : 0 < s.registry.batchSize.toInt) (count : Nat)
    (keys : List String) :
    ∃ s', s.restore s.registry.batchSize count keys =
      (.ok (count + (s.unregistered keys).card), s') ∧ s.Registers (s.unregistered keys) s' := by
  induction keys generalizing s count with
  | nil => exact ⟨s, rfl, .refl s⟩
  | cons key rest ih =>
      unfold restore
      by_cases skipped : key.isEmpty || s.registry.contains key
      · rw [if_pos skipped]
        rw [Bool.or_eq_true, String.isEmpty_iff] at skipped
        rw [unregistered_of_skipped skipped]
        exact ih positive count
      · rw [if_neg skipped]
        rw [Bool.or_eq_true, String.isEmpty_iff, not_or, Bool.not_eq_true] at skipped
        obtain ⟨notEmpty, absent⟩ := skipped
        let s₁ := ({ s with store := s.store.ensureCounter key } : Issuer).enrol
          { key, batchSize := s.registry.batchSize }
        have first : s.Registers {key} s₁ := .enrol absent
        obtain ⟨fresh, listed⟩ := first.unregistered_cons notEmpty absent rest
        obtain ⟨s', restores, later⟩ := ih (s := s₁) positive (count + 1)
        refine ⟨s', ?_, ?_⟩
        · have total : count + (s.unregistered (key :: rest)).card =
              count + 1 + (s₁.unregistered rest).card := by
            rw [listed, Finset.singleton_union, Finset.card_insert_of_notMem fresh]
            omega
          rw [register_eq _ notEmpty positive, total]
          exact restores
        · rw [listed]
          exact first.trans later

theorem restore_of_registered {keys : List String} (count : Nat)
    (registered : ∀ key ∈ keys, key ≠ "" → s.registry.contains key) :
    s.restore batchSize count keys = (.ok count, s) := by
  induction keys with
  | nil => rfl
  | cons key rest ih =>
      obtain ⟨first, later⟩ := List.forall_mem_cons.mp registered
      have skipped : key.isEmpty || s.registry.contains key := by
        rw [Bool.or_eq_true, String.isEmpty_iff]
        exact Decidable.or_iff_not_imp_left.mpr first
      rw [restore, if_pos skipped]
      exact ih later

/-! ## The whole -/

/-- Whatever a store of either engine holds and whatever is registered, taking up the known keys
succeeds. It registers those that are not empty and not registered, as the text that they read as,
and counts them; done again, it does nothing. That the batch size is positive is checked when a
registry is made and when its batch size is changed. -/
theorem restoreKnown_registers (s : Issuer) (positive : 0 < s.registry.batchSize.toInt) :
    ∃ s', s.restoreKnown = (.ok s.unrestored.card, s') ∧ s.Registers s.unrestored s' ∧
      s'.restoreKnown = (.ok 0, s') := by
  obtain ⟨s', restores, registers⟩ := restore_registers positive 0 s.store.knownKeys
  rw [← unrestored_eq, Nat.zero_add] at restores
  rw [← unrestored_eq] at registers
  refine ⟨s', restores, registers, restore_of_registered 0 fun key listed notEmpty => ?_⟩
  rw [Store.mem_knownKeys_iff _ notEmpty, registers.known] at listed
  rw [registers.registered]
  cases there : s.registry.contains key with
  | true => exact .inr rfl
  | false => exact .inl (mem_unregistered.mpr ⟨listed, notEmpty, there⟩)

/-- Five entries are known: two that read alike, one whose counter is corrupt, one without a
counter, and one that is registered. -/
def unevenIssuer : Issuer where
  store := .persistent {
    counters := ((Table.insert {} [0xff] (Counter.encode 7)).insert (utf8 "a") [1]).insert
      (utf8 "r") (Counter.encode 9)
    known := ((((Table.insert {} [0xff] ()).insert [0xfe] ()).insert (utf8 "a") ()).insert
      (utf8 "n") ()).insert (utf8 "r") () }
  allocators := #[{ key := "r", batchSize := 3, segment := ⟨4, 9⟩ }]
  registry := { batchSize := 5, registered := Table.insert {} "r" 0 }

theorem unevenIssuer_restored : 0 < unevenIssuer.registry.batchSize.toInt ∧
    ∃ s', unevenIssuer.restoreKnown = (.ok 3, s') ∧
      s'.find? "r" = some (0, { key := "r", batchSize := 3, segment := ⟨4, 9⟩ }) ∧
      s'.store.counterBytes.get? (utf8 "a") = some [1] ∧
      s'.store.counterBytes.get? (utf8 "n") = some (Counter.encode 0) ∧
      s'.store.counterBytes.get? (utf8 "\uFFFD") = some (Counter.encode 0) ∧
      s'.store.counterBytes.get? [0xff] = some (Counter.encode 7) ∧
      s'.restoreKnown = (.ok 0, s') := by
  have positive : 0 < unevenIssuer.registry.batchSize.toInt := by decide
  have three : unevenIssuer.unrestored.card = 3 := by decide +kernel
  obtain ⟨s', restores, registers, again⟩ := restoreKnown_registers unevenIssuer positive
  rw [three] at restores
  refine ⟨positive, s', restores, registers.find? (by decide +kernel), ?_, ?_, ?_, ?_, again⟩
  all_goals
    rw [registers.counters]
    decide +kernel

end Issuer
end IdService
