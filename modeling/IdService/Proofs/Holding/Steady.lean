import IdService.Proofs.Holding.Restart

/-! # Issuers over whatever a store holds

A start takes up the keys that it finds, and what is kept for one of them may be no counter value.
Then the records of a key do not hang together as they do over a store that nobody else has written.
What is left is little and enough: registered allocators are those of their keys and have a positive
batch size, and no call of the store fails. What each operation makes of the records can be said
from that alone.
-/

namespace IdService

open Text

namespace Allocator

variable {a a' a'' : Allocator} {c c' d d' : Contents}

theorem Issues.same_but_segment {result : Except Halt Int64} (issues : a.Issues c result a' c')
    (segment : Segment) : ({ a' with segment } : Allocator) = { a with segment } := by
  cases issues <;> rfl

theorem Issues.counter?_isSome {result : Except Halt Int64} (issues : a.Issues c result a' c') :
    (c'.counter? a.key).isSome = (c.counter? a.key).isSome := by
  cases issues with
  | atHand => rfl
  | refused _ _ _ reserves => rw [reserves.counter?_of_error]
  | renewed _ _ _ reserves =>
      cases reserves with
      | reserved n sum _ held => simp [held]

private theorem Reserves.carry {result : Except Halt Segment} (reserves : a.Reserves c result c')
    (faultless : c.Faultless) (faultless' : d.Faultless)
    (same : d.counter? a.key = c.counter? a.key) :
    ∃ d', a.Reserves d result d' ∧ d'.counter? a.key = c'.counter? a.key := by
  have reads : a.key ∉ d.crashing := by
    rw [faultless'.reads]
    exact List.not_mem_nil
  cases reserves with
  | crash crashes =>
      rw [faultless.reads] at crashes
      cases crashes
  | missing _ absent => exact ⟨d, .missing reads (same.trans absent), same⟩
  | corrupt _ held => exact ⟨d, .corrupt reads (same.trans held), same⟩
  | overflow n _ held outside => exact ⟨d, .overflow n reads (same.trans held) outside, same⟩
  | failing _ _ _ _ _ pending =>
      rw [faultless.increments] at pending
      cases pending
  | reserved n sum _ held total =>
      refine ⟨_, .reserved n sum reads (same.trans held) total faultless'.increments, ?_⟩
      simp only [Contents.counter?_write, if_pos]

private theorem Issues.carry {result : Except Halt Int64} (issues : a.Issues c result a' c')
    (faultless : c.Faultless) (faultless' : d.Faultless)
    (same : d.counter? a.key = c.counter? a.key) :
    ∃ d', a.Issues d result a' d' ∧ d'.counter? a.key = c'.counter? a.key := by
  cases issues with
  | atHand left => exact ⟨d, .atHand left, same⟩
  | refused halt _ used reserves =>
      obtain ⟨d', again, same'⟩ := reserves.carry faultless faultless' same
      exact ⟨d', .refused halt d' used again, same'⟩
  | renewed s _ used reserves =>
      obtain ⟨d', again, same'⟩ := reserves.carry faultless faultless' same
      exact ⟨d', .renewed s d' used again, same'⟩

/-- Where no call fails, what comes of asking for an identifier is told by the allocator and the
entry of its counter. -/
theorem Issues.congr {result other : Except Halt Int64} (issues : a.Issues c result a' c')
    (issues' : a.Issues d other a'' d') (faultless : c.Faultless) (faultless' : d.Faultless)
    (same : d.counter? a.key = c.counter? a.key) :
    other = result ∧ a'' = a' ∧ d'.counter? a.key = c'.counter? a.key := by
  obtain ⟨e, carried, counter⟩ := issues.carry faultless faultless' same
  obtain ⟨result, allocator, rfl⟩ := carried.unique issues'
  exact ⟨result, allocator, counter⟩

end Allocator

namespace Issuer

/-- What holds of an issuer over any store that does not fail. -/
structure Steady (s : Issuer) : Prop where
  numbered : s.Numbered
  batchSize : 0 < s.registry.batchSize.toInt
  allocators : ∀ key a, (s.holding key).allocator? = some a → 0 < a.batchSize.toInt
  faultless : s.store.contents.Faultless

variable {s s' : Issuer} {key : String} {number : Nat} {a : Allocator}

theorem allocator?_of_found (found : s.find? key = some (number, a)) :
    (s.holding key).allocator? = some a := congrArg (Option.map Prod.snd) found

namespace Steady

theorem allocatorFor (steady : s.Steady) (key : String) :
    0 < (s.allocatorFor key).batchSize.toInt := by
  unfold Issuer.allocatorFor
  cases present : (s.holding key).allocator? with
  | none => exact steady.batchSize
  | some a => exact steady.allocators key a present

/-- An operation on one key leaves an issuer steady, if the allocator it puts there is one that can
issue. -/
theorem of_holdings (steady : s.Steady) (numbered : s'.Numbered)
    (batchSize : s'.registry.batchSize = s.registry.batchSize)
    (faultless : s'.store.contents.Faultless) {h : Holding}
    (holdings : ∀ k, s'.holding k = if k = key then h else s.holding k)
    (positive : ∀ b, h.allocator? = some b → 0 < b.batchSize.toInt) : s'.Steady where
  numbered := numbered
  batchSize := batchSize ▸ steady.batchSize
  allocators := by
    intro k b present
    rw [holdings k] at present
    split at present
    · exact positive b present
    · exact steady.allocators k b present
  faultless := faultless

theorem issueNext (steady : s.Steady) (found : s.find? key = some (number, a)) :
    (s.issueNext number a).2.Steady := by
  obtain ⟨a', issues, numbered, holdings⟩ := holding_issueNext steady.numbered found
  obtain ⟨-, -, -, faultless⟩ := issues.frame
  refine steady.of_holdings numbered rfl (faultless steady.faultless) holdings ?_
  rintro b ⟨rfl⟩
  have same := congrArg Allocator.batchSize (issues.same_but_segment {})
  dsimp only at same
  rw [same]
  exact steady.allocators key a (allocator?_of_found found)

theorem moveKey (steady : s.Steady) (notEmpty : key ≠ "") (value : Int64) :
    (Command.moveKey s key value).1 = .ok () ∧ (Command.moveKey s key value).2.Steady := by
  have holdings := holding_moveKey steady.numbered steady.batchSize notEmpty value
  obtain ⟨number, s', moves, contents, -, numbered, batchSize⟩ :=
    moveKey_spec steady.numbered steady.batchSize notEmpty value
  obtain ⟨increments, drops, reads⟩ := steady.faultless
  rw [moves] at holdings ⊢
  refine ⟨rfl, steady.of_holdings numbered batchSize ?_ holdings ?_⟩
  · rw [contents]
    exact ⟨increments, drops, reads⟩
  · rintro b ⟨rfl⟩
    exact steady.allocatorFor key

theorem forget (steady : s.Steady) (found : s.find? key = some (number, a)) :
    (s.retire a).1 = .ok () ∧ ((s.retire a).2.forget key).Steady ∧
      ∀ k, ((s.retire a).2.forget key).holding k = if k = key then {} else s.holding k := by
  have retires := a.retire_contents s.store
  rw [Contents.remove_eq steady.faultless.drops, steady.numbered.key_eq found] at retires
  obtain ⟨result, stands⟩ := Prod.mk.inj retires
  have stands' : (s.retire a).2.store.contents = _ := stands
  obtain ⟨numbered, holdings⟩ := holding_forget steady.numbered stands' ⟨rfl, rfl⟩
  refine ⟨result, steady.of_holdings numbered rfl ?_ holdings (by simp), holdings⟩
  rw [contents_forget stands']
  exact ⟨steady.faultless.increments, steady.faultless.drops, steady.faultless.reads⟩

theorem tune (steady : s.Steady) (name raw : String) {batchSize : Int64}
    (positive : 0 < batchSize.toInt) :
    let tuned : Issuer := { s with
      store := s.store.keepSetting name raw, registry := { s.registry with batchSize } }
    tuned.Steady ∧ ∀ k, tuned.holding k = s.holding k := by
  intro tuned
  have contents : tuned.store.contents = { s.store.contents with
      settings := s.store.contents.settings.insert (utf8 name) (utf8 raw) } :=
    s.store.contents_keepSetting name raw
  have holdings : ∀ k, tuned.holding k = s.holding k := by
    intro k
    have finds : tuned.find? k = s.find? k := find?_congr rfl fun _ _ => rfl
    simp only [holding, finds, contents]
    rfl
  refine ⟨⟨steady.numbered, positive, fun k b present => ?_, ?_⟩, holdings⟩
  · exact steady.allocators k b (holdings k ▸ present)
  · rw [contents]
    exact ⟨steady.faultless.increments, steady.faultless.drops, steady.faultless.reads⟩

end Steady
end Issuer

end IdService
