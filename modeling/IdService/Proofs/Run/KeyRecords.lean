import IdService.Log.Plain
import IdService.Proofs.Run

/-! # The records of keys agree

Counters, known keys and registered keys are kept by three tables and changed by separate calls,
with refusals and crashes between them. They hold the same keys all the same, none of which is
empty or looks like the name of a setting, and a key that has left them stays away until it is
moved again.
-/

namespace IdService

open Text

/-- The three tables hold the same keys, and only keys that counters may have. -/
structure Issuer.Agrees (s : Issuer) : Prop where
  counters : s.store.contents.counters.keys = s.registry.keys.map utf8
  known : s.store.contents.known.keys = s.registry.keys.map utf8
  knownKeys : s.store.knownKeys = s.registry.keys
  admissible : ∀ key ∈ s.registry.keys, key ≠ "" ∧ ¬ ['c', 'f', 'g', '.'] <+: key.toList

theorem Command.settingName?_eq_none {key : String} (counter : settingName? key = none) :
    ¬ ['c', 'f', 'g', '.'] <+: key.toList := by
  rintro ⟨name, form⟩
  unfold settingName? at counter
  rw [← form] at counter
  cases counter

namespace Issuer

variable {s : Issuer} {key : String}

private theorem keys_of_contains {α : Type} {t : Table Bytes α} {registered : Table String Nat}
    (named : ∀ raw ∈ t.keys, ∃ key, utf8 key = raw)
    (same : ∀ key, t.contains (utf8 key) = registered.contains key) :
    t.keys = registered.keys.map utf8 := by
  have listed := Table.keys_raw (fun _ => ()) registered
  rw [show registered.keys.map utf8 = registered.keys.map ByteKey.bytes from rfl, ← listed]
  apply Table.keys_eq
  intro raw
  by_cases text : ∃ key, utf8 key = raw
  · obtain ⟨key, rfl⟩ := text
    rw [same]
    exact (Table.contains_raw (fun _ => ()) registered key).symm
  · have left : ¬ t.contains raw := fun there => text (named raw (Table.mem_keys.mpr there))
    have right : ¬ (registered.raw fun _ => ()).contains raw := by
      intro there
      have member := Table.mem_keys.mpr there
      rw [listed] at member
      obtain ⟨key, -, is⟩ := List.mem_map.mp member
      exact text ⟨key, is⟩
    rw [Bool.not_eq_true] at left right
    rw [left, right]

private theorem knownKeys_of_keys {st : Store} {keys : List String}
    (known : st.contents.known.keys = keys.map utf8) (filled : ∀ key ∈ keys, key ≠ "") :
    st.knownKeys = keys := by
  have named : st.contents.Filled := by
    intro member
    rw [known] at member
    obtain ⟨key, inside, empty⟩ := List.mem_map.mp member
    exact filled key inside (utf8_injective empty)
  rw [Store.knownKeys_eq named, known, List.map_map]
  conv => rhs; rw [← List.map_id keys]
  exact List.map_congr_left fun key _ => ofUtf8Lossy_utf8 key

theorem Sound.agrees (sound : s.Sound) : s.Agrees := by
  have whole : ∀ key, (s.holding key).counter?.isSome = (s.holding key).allocator?.isSome ∧
      (s.holding key).known = (s.holding key).allocator?.isSome := by
    intro key
    have one := sound.holdings key
    generalize s.holding key = h at one
    cases one <;> exact ⟨rfl, rfl⟩
  have counters : s.store.contents.counters.keys = s.registry.keys.map utf8 := by
    apply keys_of_contains sound.named.counters
    intro key
    exact (whole key).1.trans (contains_eq sound.numbered key).symm
  have known : s.store.contents.known.keys = s.registry.keys.map utf8 := by
    apply keys_of_contains sound.named.known
    intro key
    exact (whole key).2.trans (contains_eq sound.numbered key).symm
  have counterKeys : ∀ key ∈ s.registry.keys, Command.IsCounterKey key := by
    intro key registered
    rw [mem_registry_keys sound.numbered] at registered
    have one := sound.holdings key
    generalize s.holding key = h at one registered
    cases one with
    | absent => cases registered
    | fresh _ _ counterKey => exact counterKey
    | settled _ _ counterKey => exact counterKey
  exact ⟨counters, known, knownKeys_of_keys known fun key inside => (counterKeys key inside).1,
    fun key inside => ⟨(counterKeys key inside).1,
      Command.settingName?_eq_none (counterKeys key inside).2⟩⟩

theorem absent_of_holding (sound : s.Sound) (bare : s.holding key = {}) :
    key ∉ s.registry.keys := by
  rw [mem_registry_keys sound.numbered, bare]
  exact Bool.false_ne_true

theorem holding_of_unregistered (sound : s.Sound) (absent : key ∉ s.registry.keys) :
    s.holding key = {} := by
  apply holding_of_absent sound
  rw [find?_eq_none sound.numbered]
  rw [Registry.keys, Table.mem_keys] at absent
  exact Option.not_isSome_iff_eq_none.mp absent

end Issuer

/-! ## Staying away -/

theorem Holding.Step.stays_absent {key : String} {mark : Option Mark} {h' : Holding}
    (step : Step key mark {} h') (still : mark.bind Mark.moved? = none) : h' = {} := by
  cases step with
  | stays | dropped | restartedAbsent => rfl
  | moved => cases still

namespace Service

variable [Patterns] {s : Service} {key : String}

theorem run_absent (sound : s.issuer.Sound) (absent : s.issuer.holding key = {})
    (events : List Event) (still : ∀ x ∈ (s.run events).1, x.moved? key = none) :
    (s.run events).2.issuer.holding key = {} := by
  induction events generalizing s with
  | nil => exact absent
  | cons e rest ih =>
      obtain ⟨steps, sound'⟩ := undergo_steps sound e
      have step := steps key
      rw [absent] at step
      have gone := step.stays_absent (still (s.undergo e).1 (List.mem_cons_self ..))
      exact ih sound' gone fun x member => still x (List.mem_cons_of_mem _ member)

theorem del_drops (sound : s.issuer.Sound) {r : Wire.Request} (named : r.name = "DEL")
    {count : Int64} (answered : (s.handle r).1 = .reply (.integer count)) {raw : Bytes}
    (listed : raw ∈ r.args) (read : Command.key raw = .ok key) :
    (s.handle r).2.issuer.holding key = {} := by
  have deletes : s.perform r = s.del r := by simp only [perform, named]
  rw [handle_eq, deletes] at answered ⊢
  unfold del at answered ⊢
  cases args : r.args with
  | nil =>
      rw [args] at listed
      cases listed
  | cons first rest =>
      rw [args] at answered listed
      have spec := (Command.deleteKeys_spec sound 0 (first :: rest)).2
      dsimp only at answered spec ⊢
      rcases deleting : Command.deleteKeys s.issuer 0 (first :: rest) with ⟨result, issuer⟩
      rw [deleting] at answered spec
      cases result with
      | error halt => cases halt <;> cases answered
      | ok total => exact spec total rfl raw listed key read

end Service

variable {engine : Engine} {c : Configuration} {runnable : 0 < c.batchSize.toInt}

/-- At every moment of a run from an empty store the three records of keys agree. The keys of a
deletion that was answered with a count are gone, and a key that is gone stays away, restarts
included, until the next successful SET of it. -/
theorem key_records_agree [Patterns] (events : List Event) :
    (engine.run c runnable events).2.issuer.Agrees ∧
      (∀ r count, r.name = "DEL" →
        ((engine.run c runnable events).2.handle r).1 = .reply (.integer count) →
        ∀ raw ∈ r.args, ∀ key, Command.key raw = .ok key →
          key ∉ ((engine.run c runnable events).2.handle r).2.issuer.registry.keys) ∧
      ∀ key, key ∉ (engine.run c runnable events).2.issuer.registry.keys → ∀ more,
        (∀ x ∈ ((engine.run c runnable events).2.run more).1, x.moved? key = none) →
        key ∉ ((engine.run c runnable events).2.run more).2.issuer.registry.keys := by
  have sound := engine.run_sound runnable events
  refine ⟨sound.agrees, ?_, ?_⟩
  · intro r count named answered raw listed key read
    have sound' := (Service.undergo_steps sound (.request r)).2
    exact Issuer.absent_of_holding sound' (Service.del_drops sound named answered listed read)
  · intro key absent more still
    have bare := Issuer.holding_of_unregistered sound absent
    exact Issuer.absent_of_holding (Service.run_sound sound more)
      (Service.run_absent sound bare more still)

/-- One of two keys is deleted. -/
def deletingRun : List Event :=
  [.ofTexts "SET" ["a", "1"], .ofTexts "SET" ["b", "2"], .ofTexts "DEL" ["a"]]

theorem deletingRun_agrees :
    (Engine.persistent.run (.ofBatchSize 3) (by decide) deletingRun).2.issuer.registry.keys =
        ["b"] ∧
      (Engine.persistent.run (.ofBatchSize 3) (by decide) deletingRun).2.issuer.Agrees := by
  refine ⟨by decide +kernel, ?_⟩
  exact (key_records_agree deletingRun).1

end IdService
