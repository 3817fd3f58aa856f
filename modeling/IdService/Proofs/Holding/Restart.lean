import IdService.Boot
import IdService.Proofs.Holding.Effect
import IdService.Proofs.Settings

/-! # Starting over what is kept

A start has nothing but a store. It takes the known keys up again, each with the counter it has, or
with a new one; what a key's allocator had at hand is gone. With a positive batch size a start does
not fail, whatever the store holds.
-/

namespace IdService

open Text

namespace Contents

theorem counter?_ensure (c : Contents) (key k : String) :
    (c.ensure key).counter? k =
      if k = key then some ((c.counter? k).getD (.value 0)) else c.counter? k := by
  unfold ensure
  rw [contains_eq]
  by_cases here : k = key
  · subst here
    cases held : c.counter? k with
    | none => simp
    | some entry => simp [held]
  · rw [if_neg here]
    split
    · rfl
    · rw [counter?_write, if_neg here]

theorem known_ensure (c : Contents) (key : String) : (c.ensure key).known = c.known := by
  unfold ensure
  split <;> rfl

theorem Faultless.ensure {c : Contents} (faultless : c.Faultless) (key : String) :
    (c.ensure key).Faultless := by
  unfold Contents.ensure
  split
  · exact faultless
  · exact ⟨faultless.increments, faultless.drops, faultless.reads⟩

end Contents

/-- The records of a key once it is registered, with a new allocator if it has none. -/
def Holding.restored (h : Holding) (key : String) (batchSize : Int64) : Holding :=
  match h.allocator? with
  | some _ => h
  | none =>
    { h with
      allocator? := some { key, batchSize }
      counter? := some (h.counter?.getD (.value 0)) }

theorem Holding.restored_present {h : Holding} {a : Allocator} (present : h.allocator? = some a)
    (key : String) (batchSize : Int64) : h.restored key batchSize = h := by
  simp only [restored, present]

namespace Issuer

private theorem holding_restored {s : Issuer} (numbered : s.Numbered) {key : String}
    (absent : s.find? key = none) (batchSize : Int64) (k : String) :
    (({ s with store := s.store.ensureCounter key } : Issuer).enrol { key, batchSize }).holding k =
      if k = key then (s.holding k).restored k batchSize else s.holding k := by
  have numbered' : ({ s with store := s.store.ensureCounter key } : Issuer).Numbered := numbered
  have finds := find?_enrol numbered' { key, batchSize } k
  have counters := s.store.contents.counter?_ensure key k
  have known := s.store.contents.known_ensure key
  rw [← Store.contents_ensureCounter] at counters known
  by_cases here : k = key
  · subst here
    rw [if_pos rfl] at finds counters ⊢
    simp only [holding, finds, Holding.restored, absent, Option.map_some, Option.map_none]
    exact congr (congrArg (Holding.mk _) counters) (congrArg (Table.contains · _) known)
  · rw [if_neg here] at finds counters ⊢
    simp only [holding, finds]
    exact congr (congrArg (Holding.mk _) counters) (congrArg (Table.contains · _) known)

private theorem restored_again (h : Holding) (key : String) (batchSize : Int64) :
    (h.restored key batchSize).restored key batchSize = h.restored key batchSize := by
  cases is : h.allocator? with
  | none => simp only [Holding.restored, is]
  | some a => rw [Holding.restored_present is, Holding.restored_present is]

private theorem restored_of_skipped {s : Issuer} (numbered : s.Numbered) {key : String}
    (skipped : key.isEmpty || s.registry.contains key) (notEmpty : key ≠ "") (batchSize : Int64) :
    (s.holding key).restored key batchSize = s.holding key := by
  rw [Bool.or_eq_true, contains_eq numbered, String.isEmpty_iff] at skipped
  rcases skipped with empty | registered
  · exact absurd empty notEmpty
  · obtain ⟨a, present⟩ := Option.isSome_iff_exists.mp registered
    exact Holding.restored_present present key batchSize

theorem restore_spec {batchSize : Int64} (positive : 0 < batchSize.toInt) (keys : List String)
    {s : Issuer} (numbered : s.Numbered) (count : Nat) :
    ∃ total s', s.restore batchSize count keys = (.ok total, s') ∧ s'.Numbered ∧
      (s.store.contents.Named → s'.store.contents.Named) ∧
      (s.store.contents.Faultless → s'.store.contents.Faultless) ∧
      s'.registry.batchSize = s.registry.batchSize ∧
      ∀ k, s'.holding k =
        if k ∈ keys ∧ k ≠ "" then (s.holding k).restored k batchSize else s.holding k := by
  induction keys generalizing s count with
  | nil => exact ⟨count, s, rfl, numbered, id, id, rfl, fun k => by simp⟩
  | cons key rest ih =>
      unfold restore
      by_cases skipped : key.isEmpty || s.registry.contains key
      · rw [if_pos skipped]
        obtain ⟨total, s', restores, numbered', named, faultless, same, holdings⟩ :=
          ih numbered count
        refine ⟨total, s', restores, numbered', named, faultless, same, ?_⟩
        intro k
        rw [holdings k]
        by_cases here : k = key ∧ k ≠ ""
        · obtain ⟨rfl, notEmpty⟩ := here
          simp only [restored_of_skipped numbered skipped notEmpty, ite_self]
        · have other : k ∈ key :: rest ∧ k ≠ "" ↔ k ∈ rest ∧ k ≠ "" := by grind
          simp only [other]
      · rw [if_neg skipped]
        rw [Bool.or_eq_true, String.isEmpty_iff] at skipped
        have notEmpty : key ≠ "" := fun empty => skipped (.inl empty)
        have absent : s.find? key = none := by
          rw [find?_eq_none numbered]
          exact Option.not_isSome_iff_eq_none.mp fun there => skipped (.inr there)
        let s₁ : Issuer := { s with store := s.store.ensureCounter key }
        let s₂ := s₁.enrol { key, batchSize }
        have numbered₁ : s₁.Numbered := numbered
        have numbered₂ : s₂.Numbered := numbered₁.enrol _
        obtain ⟨total, s', restores, numbered', named, faultless, same, holdings⟩ :=
          ih numbered₂ (count + 1)
        have contents : s₂.store.contents = s.store.contents.ensure key :=
          s.store.contents_ensureCounter key
        have named₂ : s.store.contents.Named → s₂.store.contents.Named := fun named =>
          contents ▸ named.ensure key
        have faultless₂ : s.store.contents.Faultless → s₂.store.contents.Faultless :=
          fun faultless => contents ▸ faultless.ensure key
        refine ⟨total, s', ?_, numbered', named ∘ named₂, faultless ∘ faultless₂, same, ?_⟩
        · rw [register_eq s₁ notEmpty positive]
          exact restores
        · intro k
          rw [holdings k, holding_restored numbered absent batchSize k]
          by_cases here : k = key
          · subst here
            have listed : k ∈ k :: rest ∧ k ≠ "" := ⟨List.mem_cons_self .., notEmpty⟩
            simp only [if_pos, if_pos listed, restored_again, ite_self]
          · simp [here]

end Issuer

/-- The records of a key in a store that nobody uses. -/
def Store.holding (st : Store) (key : String) : Holding where
  counter? := st.contents.counter? key
  known := st.contents.isKnown key

namespace Service

variable [Patterns]

/-- With a positive batch size a start succeeds over every store. -/
theorem start_spec {c : Configuration} (runnable : 0 < c.batchSize.toInt) (st : Store) :
    ∃ booted, (start c st #[]).1 = .ok booted ∧ booted.service.issuer.Numbered ∧
      (st.contents.Named → booted.service.issuer.store.contents.Named) ∧
      (st.contents.Faultless → booted.service.issuer.store.contents.Faultless) ∧
      0 < booted.service.issuer.registry.batchSize.toInt ∧
      ∀ key, booted.service.issuer.holding key =
        if key ∈ st.knownKeys ∧ key ≠ "" then
          (st.holding key).restored key booted.service.issuer.registry.batchSize
        else st.holding key := by
  have positive := Configuration.overrideAll_batchSize runnable st.savedSettings
  unfold start
  rcases overlaid : c.overrideAll st.savedSettings with ⟨overrides, config⟩
  rw [overlaid] at positive
  dsimp only at positive ⊢
  rw [Registry.make_eq positive]
  let s : Issuer := { store := st, registry := { batchSize := config.batchSize } }
  have numbered : s.Numbered := by
    intro key number registered
    cases registered
  obtain ⟨total, s', restores, numbered', named, faultless, same, holdings⟩ :=
    Issuer.restore_spec positive st.knownKeys numbered 0
  have restoresKnown : s.restoreKnown = (.ok total, s') := restores
  dsimp only
  rw [show ({ store := st, allocators := #[], registry := { batchSize := config.batchSize } } :
    Issuer) = s from rfl, restoresKnown]
  have batchSize : s'.registry.batchSize = config.batchSize := same
  exact ⟨_, rfl, numbered', named, faultless, batchSize ▸ positive,
    fun key => batchSize ▸ holdings key⟩

/-- A service over a store, nothing else being kept of what ran before. -/
def launch (c : Configuration) (runnable : 0 < c.batchSize.toInt) (st : Store) : Service :=
  match started : (start c st #[]).1 with
  | .ok booted => booted.service
  | .error fault => False.elim (by
      obtain ⟨booted, succeeds, -⟩ := start_spec runnable st
      rw [succeeds] at started
      cases started)

theorem launch_spec {c : Configuration} (runnable : 0 < c.batchSize.toInt) (st : Store) :
    (launch c runnable st).issuer.Numbered ∧
      (st.contents.Named → (launch c runnable st).issuer.store.contents.Named) ∧
      (st.contents.Faultless → (launch c runnable st).issuer.store.contents.Faultless) ∧
      0 < (launch c runnable st).issuer.registry.batchSize.toInt ∧
      ∀ key, (launch c runnable st).issuer.holding key =
        if key ∈ st.knownKeys ∧ key ≠ "" then
          (st.holding key).restored key (launch c runnable st).issuer.registry.batchSize
        else st.holding key := by
  obtain ⟨booted, succeeds, spec⟩ := start_spec runnable st
  have same : launch c runnable st = booted.service := by
    unfold launch
    split
    · rename_i started
      rw [succeeds] at started
      cases started
      rfl
    · rename_i started
      rw [succeeds] at started
      cases started
  rw [same]
  exact spec

/-- A restart is a step of every key: those that are registered get new allocators. -/
theorem launch_restarts {s : Issuer} (sound : s.Sound) {c : Configuration}
    (runnable : 0 < c.batchSize.toInt) :
    (∀ key, Holding.Step key (some .restarted) (s.holding key)
      ((launch c runnable s.store).issuer.holding key)) ∧
      (launch c runnable s.store).issuer.Sound := by
  obtain ⟨numbered, named, -, positive, holdings⟩ := launch_spec runnable s.store
  have steps : ∀ key, Holding.Step key (some .restarted) (s.holding key)
      ((launch c runnable s.store).issuer.holding key) := by
    intro key
    rw [holdings key]
    cases found : s.find? key with
    | none =>
        have bare := Issuer.holding_of_absent sound found
        have unknown : s.store.contents.isKnown key = false := congrArg Holding.known bare
        have none : s.store.contents.counter? key = none := congrArg Holding.counter? bare
        have left : ¬ (key ∈ s.store.knownKeys ∧ key ≠ "") := by
          rintro ⟨member, notEmpty⟩
          rw [Store.mem_knownKeys sound.named notEmpty, unknown] at member
          cases member
        rw [if_neg left, bare, Store.holding, none, unknown]
        exact .restartedAbsent
    | some entry =>
        obtain ⟨number, a⟩ := entry
        obtain ⟨n, is⟩ := Issuer.holding_of_found sound found
        have known : s.store.contents.isKnown key = true := congrArg Holding.known is
        have held : s.store.contents.counter? key = some (.value n) := congrArg Holding.counter? is
        obtain ⟨⟨notEmpty, -⟩, -⟩ := (is ▸ sound.holdings key).cases_present
        have taken : key ∈ s.store.knownKeys ∧ key ≠ "" :=
          ⟨(Store.mem_knownKeys sound.named notEmpty).mpr known, notEmpty⟩
        rw [if_pos taken, is, Store.holding, held, known]
        exact .restarted a n _ positive
  refine ⟨steps, ⟨fun key => (steps key).sound (sound.holdings key), numbered,
    named sound.named, positive⟩⟩

end Service
end IdService
