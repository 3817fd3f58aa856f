import IdService.Proofs.Holding.Step

/-! # What operations do to the records of keys

Issuing, moving and deleting are each one step of the key they are about, and leave every other
key as it was. `Issuer.Sound` is what all of them keep.
-/

namespace IdService

open Text

namespace Issuer

/-- The records of every key hang together. -/
structure Sound (s : Issuer) : Prop where
  holdings : ∀ key, (s.holding key).Sound key
  numbered : s.Numbered
  named : s.store.contents.Named
  batchSize : 0 < s.registry.batchSize.toInt

/-- The records of every key stay as they are. -/
structure Keeps (s s' : Issuer) : Prop where
  holdings : ∀ key, s'.holding key = s.holding key
  sound : s'.Sound
  faultless : s.store.contents.Faultless → s'.store.contents.Faultless

/-- A step of one key that keeps the records of the others. -/
structure Takes (s : Issuer) (key : String) (mark : Option Mark) (s' : Issuer) : Prop where
  step : Holding.Step key mark (s.holding key) (s'.holding key)
  others : ∀ k, k ≠ key → s'.holding k = s.holding k
  sound : s'.Sound
  faultless : s.store.contents.Faultless → s'.store.contents.Faultless

/-- A step of every key, under the mark of each. -/
structure Follows (s : Issuer) (mark? : String → Option Mark) (s' : Issuer) : Prop where
  steps : ∀ key, Holding.Step key (mark? key) (s.holding key) (s'.holding key)
  sound : s'.Sound
  faultless : s.store.contents.Faultless → s'.store.contents.Faultless

section

variable {s s' s'' : Issuer}

theorem Sound.keeps (sound : s.Sound) : s.Keeps s := ⟨fun _ => rfl, sound, id⟩

theorem Keeps.follows (keeps : s.Keeps s') : s.Follows (fun _ => none) s' where
  steps := by
    intro key
    rw [keeps.holdings]
    exact .stays _
  sound := keeps.sound
  faultless := keeps.faultless

theorem Sound.follows (sound : s.Sound) : s.Follows (fun _ => none) s := sound.keeps.follows

theorem Takes.follows {key : String} {mark : Option Mark} (takes : s.Takes key mark s') :
    s.Follows (fun k => if k = key then mark else none) s' where
  steps := by
    intro k
    by_cases here : k = key
    · subst here
      rw [if_pos rfl]
      exact takes.step
    · rw [if_neg here, takes.others k here]
      exact .stays _
  sound := takes.sound
  faultless := takes.faultless

theorem Follows.trans (first : s.Follows (fun _ => none) s')
    (second : s'.Follows (fun _ => none) s'') : s.Follows (fun _ => none) s'' where
  steps := by
    intro key
    have step := second.steps key
    rcases step.last_none with same | gone
    · rw [same]
      exact first.steps key
    · rw [gone]
      exact .dropped _
  sound := second.sound
  faultless := second.faultless ∘ first.faultless

end

variable {s s' : Issuer} {key : String} {number : Nat} {a : Allocator}

theorem holding_of_found (sound : s.Sound) (found : s.find? key = some (number, a)) :
    ∃ n, s.holding key = ⟨some a, some (.value n), true⟩ := by
  have registered : (s.holding key).allocator? = some a := congrArg (Option.map Prod.snd) found
  cases is : s.holding key with
  | mk allocator? counter? known =>
      have one := sound.holdings key
      rw [is] at registered one
      cases one with
      | absent => cases registered
      | fresh batchSize n =>
          cases registered
          exact ⟨n, rfl⟩
      | settled b n =>
          cases registered
          exact ⟨n, rfl⟩

theorem holding_of_absent (sound : s.Sound) (absent : s.find? key = none) : s.holding key = {} := by
  have unregistered : (s.holding key).allocator? = none :=
    congrArg (Option.map Prod.snd) absent
  cases is : s.holding key with
  | mk allocator? counter? known =>
      have one := sound.holdings key
      rw [is] at unregistered one
      cases one with
      | absent => rfl
      | fresh => cases unregistered
      | settled => cases unregistered

theorem Sound.of_step {mark : Option Mark} (sound : s.Sound)
    (step : Holding.Step key mark (s.holding key) (s'.holding key))
    (others : ∀ k, k ≠ key → s'.holding k = s.holding k) (numbered : s'.Numbered)
    (named : s'.store.contents.Named) (batchSize : s'.registry.batchSize = s.registry.batchSize) :
    s'.Sound where
  holdings := by
    intro k
    by_cases here : k = key
    · subst here
      exact step.sound (sound.holdings k)
    · rw [others k here]
      exact sound.holdings k
  numbered := numbered
  named := named
  batchSize := batchSize ▸ sound.batchSize

end Issuer

/-! ## Issuing -/

namespace Allocator

variable {a a' : Allocator} {c c' : Contents}

theorem Reserves.frame {result : Except Halt Segment} (reserves : a.Reserves c result c') :
    (∀ k, k ≠ a.key → c'.counter? k = c.counter? k) ∧ c'.known = c.known ∧
      (c.Named → c'.Named) ∧ (c.Faultless → c'.Faultless) := by
  cases reserves with
  | crash | missing | corrupt | overflow => exact ⟨fun _ _ => rfl, rfl, id, id⟩
  | failing n failing reads held within pending =>
      refine ⟨fun _ _ => rfl, rfl, fun named => ⟨named.counters, named.known⟩, ?_⟩
      intro faultless
      rw [faultless.increments] at pending
      cases pending
  | reserved n sum =>
      refine ⟨fun k apart => ?_, rfl, fun named => named.write a.key sum,
        fun faultless => ⟨faultless.increments, faultless.drops, faultless.reads⟩⟩
      rw [Contents.counter?_write, if_neg apart]

theorem Issues.frame {result : Except Halt Int64} (issues : a.Issues c result a' c') :
    (∀ k, k ≠ a.key → c'.counter? k = c.counter? k) ∧ c'.known = c.known ∧
      (c.Named → c'.Named) ∧ (c.Faultless → c'.Faultless) := by
  cases issues with
  | atHand => exact ⟨fun _ _ => rfl, rfl, id, id⟩
  | refused halt _ used reserves => exact reserves.frame
  | renewed s _ used reserves => exact reserves.frame

theorem Issues.key_eq {result : Except Halt Int64} (issues : a.Issues c result a' c') :
    a'.key = a.key := by
  cases issues <;> rfl

theorem Reserves.counter?_of_error {halt : Halt} (reserves : a.Reserves c (.error halt) c') :
    c'.counter? a.key = c.counter? a.key := by
  cases reserves <;> rfl

/-- Issuing is a step of the key. -/
theorem Issues.step {id : Int64} (issues : a.Issues c (.ok id) a' c') {n : Int64}
    (held : c.counter? a.key = some (.value n)) (positive : 0 < a.batchSize.toInt) :
    Holding.Step a.key (some (.issued id.toInt)) ⟨some a, some (.value n), true⟩
      ⟨some a', c'.counter? a.key, true⟩ := by
  cases issues with
  | atHand left =>
      rw [held, Counter.toInt_succ left]
      exact .issued a n left
  | renewed s c' used reserves =>
      cases reserves with
      | reserved base sum reads held' total =>
          rw [held] at held'
          cases held'
          have next : (n + 1).toInt = n.toInt + 1 := Counter.toInt_succ (b := sum) (by omega)
          rw [Contents.counter?_write, if_pos rfl, next]
          exact .renewed a n sum used total

theorem Issues.refusal {halt : Halt} (issues : a.Issues c (.error halt) a' c') :
    a' = a ∧ a.segment.reserved.toInt ≤ a.segment.current.toInt ∧
      a.Reserves c (.error halt) c' := by
  cases issues with
  | refused _ _ used reserves => exact ⟨rfl, used, reserves⟩

end Allocator

namespace Issuer

variable {s s' : Issuer} {key : String} {number : Nat} {a : Allocator}

theorem issueNext_issues (numbered : s.Numbered) (found : s.find? key = some (number, a)) :
    ∃ a', a.Issues s.store.contents (s.issueNext number a).1 a'
        (s.issueNext number a).2.store.contents ∧
      (∀ k, (s.issueNext number a).2.find? k = if k = key then some (number, a') else s.find? k) ∧
      (s.issueNext number a).2.Numbered := by
  have issues := a.issueNext_issues s.store
  have same : (a.issueNext s.store).2.1.key = key := issues.key_eq.trans (numbered.key_eq found)
  exact ⟨(a.issueNext s.store).2.1, issues, find?_update numbered found _ _,
    numbered.update found same _⟩

theorem holding_issueNext (numbered : s.Numbered) (found : s.find? key = some (number, a)) :
    ∃ a', a.Issues s.store.contents (s.issueNext number a).1 a'
        (s.issueNext number a).2.store.contents ∧
      (s.issueNext number a).2.Numbered ∧
      ∀ k, (s.issueNext number a).2.holding k =
        if k = key then ⟨some a', (s.issueNext number a).2.store.contents.counter? key,
          (s.holding key).known⟩
        else s.holding k := by
  obtain ⟨a', issues, finds, numbered'⟩ := issueNext_issues numbered found
  obtain ⟨counters, known, -, -⟩ := issues.frame
  refine ⟨a', issues, numbered', fun k => ?_⟩
  by_cases here : k = key
  · subst here
    simp only [holding, finds, if_pos, Option.map_some, Contents.isKnown, known]
  · have apart : k ≠ a.key := numbered.key_eq found ▸ here
    simp only [holding, finds, if_neg here, counters k apart, Contents.isKnown, known]

/-- An identifier is issued in one step of its key, or nothing changes for any key. -/
theorem issueNext_spec (sound : s.Sound) (found : s.find? key = some (number, a)) :
    (∃ id, (s.issueNext number a).1 = .ok id ∧
        s.Takes key (some (.issued id.toInt)) (s.issueNext number a).2) ∨
      ∃ halt, (s.issueNext number a).1 = .error halt ∧ s.Keeps (s.issueNext number a).2 ∧
        a.segment.reserved.toInt ≤ a.segment.current.toInt ∧
        a.Reserves s.store.contents (.error halt) (s.issueNext number a).2.store.contents := by
  obtain ⟨n, is⟩ := holding_of_found sound found
  obtain ⟨a', issues, numbered, holdings⟩ := holding_issueNext sound.numbered found
  obtain ⟨-, -, named, faultless⟩ := issues.frame
  obtain rfl := sound.numbered.key_eq found
  obtain ⟨-, -, positive, -⟩ := (is ▸ sound.holdings a.key).cases_present
  have held : s.store.contents.counter? a.key = some (.value n) := congrArg Holding.counter? is
  have after : (s.issueNext number a).2.holding a.key =
      ⟨some a', (s.issueNext number a).2.store.contents.counter? a.key, true⟩ := by
    rw [holdings, if_pos rfl, is]
  have others : ∀ k, k ≠ a.key → (s.issueNext number a).2.holding k = s.holding k := by
    intro k apart
    rw [holdings, if_neg apart]
  cases outcome : (s.issueNext number a).1 with
  | ok id =>
      rw [outcome] at issues
      have step := issues.step held positive
      rw [← is, ← after] at step
      exact .inl ⟨id, rfl, step, others, sound.of_step step others numbered (named sound.named) rfl,
        faultless⟩
  | error halt =>
      rw [outcome] at issues
      obtain ⟨rfl, used, reserves⟩ := issues.refusal
      rw [reserves.counter?_of_error, held, ← is] at after
      have same : ∀ k, (s.issueNext number a').2.holding k = s.holding k := by
        intro k
        by_cases here : k = a'.key
        · rw [here, after]
        · exact others k here
      have step : Holding.Step a'.key none (s.holding a'.key)
          ((s.issueNext number a').2.holding a'.key) := by
        rw [after]
        exact .stays _
      exact .inr ⟨halt, rfl,
        ⟨same, sound.of_step step others numbered (named sound.named) rfl, faultless⟩, used, reserves⟩

/-! ## Moving -/

/-- The allocator that a key has, or that it would get. -/
def allocatorFor (s : Issuer) (key : String) : Allocator :=
  (s.holding key).allocator?.getD { key, batchSize := s.registry.batchSize }

theorem Numbered.allocatorFor (numbered : s.Numbered) (key : String) :
    (s.allocatorFor key).key = key := by
  unfold Issuer.allocatorFor
  cases found : s.find? key with
  | none => simp [holding, found]
  | some entry =>
      obtain ⟨number, a⟩ := entry
      simpa [holding, found] using numbered.key_eq found

theorem Sound.allocatorFor (sound : s.Sound) (key : String) :
    (s.allocatorFor key).key = key ∧ 0 < (s.allocatorFor key).batchSize.toInt := by
  refine ⟨sound.numbered.allocatorFor key, ?_⟩
  unfold Issuer.allocatorFor
  cases found : s.find? key with
  | none =>
      rw [holding_of_absent sound found]
      exact sound.batchSize
  | some entry =>
      obtain ⟨number, a⟩ := entry
      obtain ⟨n, is⟩ := holding_of_found sound found
      obtain ⟨-, -, positive, -⟩ := (is ▸ sound.holdings key).cases_present
      rw [is]
      exact positive

theorem obtain_spec (numbered : s.Numbered) (positive : 0 < s.registry.batchSize.toInt)
    (notEmpty : key ≠ "") :
    ∃ number s', s.obtain key = (.ok (number, s.allocatorFor key), s') ∧
      s'.store = s.store ∧ s'.registry.batchSize = s.registry.batchSize ∧ s'.Numbered ∧
      ∀ k, s'.find? k = if k = key then some (number, s.allocatorFor key) else s.find? k := by
  cases found : s.find? key with
  | none =>
      refine ⟨s.allocators.size, s.enrol { key, batchSize := s.registry.batchSize }, ?_, rfl, rfl,
        numbered.enrol _, ?_⟩
      · simp only [obtain, found, register_eq s notEmpty positive, allocatorFor, holding,
          Option.map_none, Option.getD_none]
      · intro k
        simp only [find?_enrol numbered, allocatorFor, holding, found, Option.map_none,
          Option.getD_none]
  | some entry =>
      obtain ⟨number, a⟩ := entry
      have same : s.allocatorFor key = a := by simp [allocatorFor, holding, found]
      refine ⟨number, s, ?_, rfl, rfl, numbered, ?_⟩
      · simp only [obtain, found, same]
      · intro k
        by_cases here : k = key
        · rw [if_pos here, here, found, same]
        · rw [if_neg here]

/-- Where a move ends: the key is known, its counter and its allocator are at the value. -/
theorem moveKey_spec (numbered : s.Numbered) (positive : 0 < s.registry.batchSize.toInt)
    (notEmpty : key ≠ "") (value : Int64) :
    ∃ number s', Command.moveKey s key value = (.ok (), s') ∧
      s'.store.contents = ({ s.store.contents with
        known := s.store.contents.known.insert (utf8 key) () } : Contents).write key value ∧
      (∀ k, s'.find? k = if k = key then
        some (number, { s.allocatorFor key with segment := ⟨value, value⟩ }) else s.find? k) ∧
      s'.Numbered ∧ s'.registry.batchSize = s.registry.batchSize := by
  obtain ⟨number, s₁, obtains, store, batchSize, numbered₁, finds⟩ :=
    obtain_spec numbered positive notEmpty
  have isKey := numbered.allocatorFor key
  generalize s.allocatorFor key = a at *
  have registered : s₁.find? key = some (number, a) := by rw [finds, if_pos rfl]
  let s₂ : Issuer := { s₁ with store := s₁.store.addKnown key }
  have finds₂ : s₂.find? key = some (number, a) := registered
  have numbered₂ : s₂.Numbered := numbered₁
  let a₃ : Allocator := { a with segment := ⟨value, value⟩ }
  have isKey₃ : a₃.key = key := isKey
  let s₃ := s₂.update number a₃ (a.moveTo value false s₂.store).2.2
  obtain ⟨moves, settles, stands⟩ := a.moveTo_unforced value s₂.store
  refine ⟨number, s₃, ?_, ?_, ?_, numbered₂.update finds₂ isKey₃ _, batchSize⟩
  · have moved : s₂.moveTo number a value false = (.ok (), s₃) := by
      simp only [moveTo, moves, settles, s₃, a₃]
    simp only [Command.moveKey, obtains]
    rw [show ({ s₁ with store := s₁.store.addKnown key } : Issuer) = s₂ from rfl, moved]
  · rw [show s₃.store.contents = (a.moveTo value false s₂.store).2.2.contents from rfl, stands,
      isKey, Store.contents_addKnown, store]
  · intro k
    rw [find?_update numbered₂ finds₂]
    by_cases here : k = key
    · rw [if_pos here, if_pos here]
    · rw [if_neg here, if_neg here]
      exact (finds k).trans (if_neg here)

/-- A move puts the records of its key at the value, and leaves those of other keys. -/
theorem holding_moveKey (numbered : s.Numbered) (positive : 0 < s.registry.batchSize.toInt)
    (notEmpty : key ≠ "") (value : Int64) (k : String) :
    (Command.moveKey s key value).2.holding k =
      if k = key then
        ⟨some { s.allocatorFor key with segment := ⟨value, value⟩ }, some (.value value), true⟩
      else s.holding k := by
  obtain ⟨number, s', moves, contents, finds, -⟩ := moveKey_spec numbered positive notEmpty value
  have isKnown := Contents.isKnown_insert s.store.contents key k
  rw [moves]
  by_cases here : k = key
  · rw [if_pos here]
    rw [decide_eq_true here, Bool.true_or] at isKnown
    simp only [holding, finds, contents, if_pos here, Option.map_some, Contents.counter?_write]
    exact congrArg (Holding.mk _ _) isKnown
  · rw [if_neg here]
    rw [decide_eq_false here, Bool.false_or] at isKnown
    simp only [holding, finds, contents, if_neg here, Contents.counter?_write]
    exact congrArg (Holding.mk _ _) isKnown

theorem moveKey_takes (sound : s.Sound) (counterKey : Command.IsCounterKey key) (value : Int64) :
    (Command.moveKey s key value).1 = .ok () ∧
      s.Takes key (some (.moved value.toInt)) (Command.moveKey s key value).2 := by
  have holdings := holding_moveKey sound.numbered sound.batchSize counterKey.1 value
  obtain ⟨number, s', moves, contents, finds, numbered, batchSize⟩ :=
    moveKey_spec sound.numbered sound.batchSize counterKey.1 value
  obtain ⟨isKey, positive⟩ := sound.allocatorFor key
  rw [moves] at holdings ⊢
  have step : Holding.Step key (some (.moved value.toInt)) (s.holding key) (s'.holding key) := by
    rw [holdings, if_pos rfl]
    exact .moved _ _ value counterKey isKey positive
  have others : ∀ k, k ≠ key → s'.holding k = s.holding k := by
    intro k apart
    rw [holdings, if_neg apart]
  refine ⟨rfl, step, others, sound.of_step step others numbered ?_ batchSize, ?_⟩
  · rw [contents]
    exact (sound.named.addKnown key).write key value
  · intro faultless
    rw [contents]
    exact ⟨faultless.increments, faultless.drops, faultless.reads⟩

/-! ## Deleting -/

/-- The issuer without a key whose counter is gone. -/
def forget (s : Issuer) (key : String) : Issuer :=
  { s with store := s.store.removeKnown key, registry := s.registry.remove key }

/-- A drop that is told to fail changes nothing but how many are to fail. -/
theorem retire_refused (sound : s.Sound) {failing : Nat}
    (pending : s.store.contents.failingDrops = failing + 1) (a : Allocator) :
    (∃ halt, (s.retire a).1 = .error halt) ∧ s.Keeps (s.retire a).2 := by
  have retires := a.retire_contents s.store
  simp only [Contents.remove, pending] at retires
  obtain ⟨result, stands⟩ := Prod.mk.inj retires
  have contents : (s.retire a).2.store.contents =
      { s.store.contents with failingDrops := failing } := stands
  have same : ∀ k, (s.retire a).2.holding k = s.holding k := by
    intro k
    simp only [holding, contents]
    rfl
  have named : (s.retire a).2.store.contents.Named :=
    contents ▸ ⟨sound.named.counters, sound.named.known⟩
  refine ⟨⟨_, result⟩, same, ⟨fun k => same k ▸ sound.holdings k, sound.numbered, named,
    sound.batchSize⟩, ?_⟩
  intro faultless
  rw [faultless.drops] at pending
  cases pending

theorem contents_forget (stands : s'.store.contents =
      { s.store.contents with counters := s.store.contents.counters.erase (utf8 key) }) :
    (s'.forget key).store.contents = { s.store.contents with
      counters := s.store.contents.counters.erase (utf8 key)
      known := s.store.contents.known.erase (utf8 key) } := by
  simp only [forget, Store.contents_removeKnown, stands]

theorem holding_forget (numbered : s.Numbered) (stands : s'.store.contents =
      { s.store.contents with counters := s.store.contents.counters.erase (utf8 key) })
    (same : s'.registry = s.registry ∧ s'.allocators = s.allocators) :
    (s'.forget key).Numbered ∧
      ∀ k, (s'.forget key).holding k = if k = key then {} else s.holding k := by
  have contents := contents_forget stands
  have shape : s'.forget key =
      { s with store := s'.store.removeKnown key, registry := s.registry.remove key } := by
    simp only [forget, same.1, same.2]
  have finds : ∀ k, (s'.forget key).find? k = if k = key then none else s.find? k := by
    intro k
    rw [shape]
    exact find?_remove s _ key k
  refine ⟨shape ▸ numbered.remove _ key, fun k => ?_⟩
  by_cases here : k = key
  · simp [here, holding, finds, contents, Contents.counter?, Contents.isKnown, Table.contains]
  · have counter := Contents.counter?_erase s.store.contents key k
    have isKnown := Contents.isKnown_erase s.store.contents key k
    rw [if_neg here] at counter
    rw [decide_eq_false here, Bool.not_false, Bool.true_and] at isKnown
    simp only [holding, finds, contents, if_neg here, Contents.counter?, Contents.isKnown]
      at counter isKnown ⊢
    rw [counter, isKnown]

theorem forget_takes (sound : s.Sound) (stands : s'.store.contents =
      { s.store.contents with counters := s.store.contents.counters.erase (utf8 key) })
    (same : s'.registry = s.registry ∧ s'.allocators = s.allocators) :
    s.Takes key none (s'.forget key) ∧ (s'.forget key).holding key = {} := by
  obtain ⟨numbered, holdings⟩ := holding_forget sound.numbered stands same
  have gone : (s'.forget key).holding key = {} := by rw [holdings, if_pos rfl]
  have step : Holding.Step key none (s.holding key) ((s'.forget key).holding key) := by
    rw [gone]
    exact .dropped _
  have others : ∀ k, k ≠ key → (s'.forget key).holding k = s.holding k := by
    intro k apart
    rw [holdings, if_neg apart]
  have contents := contents_forget stands
  have named : (s'.forget key).store.contents.Named := by
    rw [contents]
    exact (sound.named.removeCounter key).removeKnown key
  have batchSize : (s'.forget key).registry.batchSize = s.registry.batchSize := by
    rw [← same.1]
    rfl
  refine ⟨⟨step, others, sound.of_step step others numbered named batchSize, ?_⟩, gone⟩
  intro faultless
  rw [contents]
  exact ⟨faultless.increments, faultless.drops, faultless.reads⟩

theorem retire_spec (sound : s.Sound) (found : s.find? key = some (number, a)) :
    (∃ halt, (s.retire a).1 = .error halt ∧ s.Keeps (s.retire a).2 ∧
        ¬ s.store.contents.Faultless) ∨
      ((s.retire a).1 = .ok () ∧ s.Takes key none ((s.retire a).2.forget key) ∧
        ((s.retire a).2.forget key).holding key = {}) := by
  cases pending : s.store.contents.failingDrops with
  | succ failing =>
      obtain ⟨⟨halt, refused⟩, keeps⟩ := retire_refused sound pending a
      refine .inl ⟨halt, refused, keeps, ?_⟩
      intro faultless
      rw [faultless.drops] at pending
      cases pending
  | zero =>
      have retires := a.retire_contents s.store
      rw [Contents.remove_eq pending, sound.numbered.key_eq found] at retires
      obtain ⟨result, stands⟩ := Prod.mk.inj retires
      exact .inr ⟨result, forget_takes sound stands ⟨rfl, rfl⟩⟩

end Issuer
end IdService
