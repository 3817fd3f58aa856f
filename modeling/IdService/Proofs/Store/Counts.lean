import IdService.Proofs.Service.Settings

/-! # Reads and increments counted

The engine in memory counts the calls that succeed. A batch costs one read and one increment, and
nothing but batches reads or increments a counter; where a batch no longer fits, the read alone is
counted.
-/

namespace IdService

/-- The reads and the increments that a store has counted. -/
structure Tally where
  reads : Nat := 0
  increments : Nat := 0
deriving Repr, DecidableEq

namespace Tally

def read (t : Tally) : Tally := { t with reads := t.reads + 1 }

def increment (t : Tally) : Tally := { t with increments := t.increments + 1 }

end Tally

namespace Store

/-- The tally of the engine in memory. The durable one counts nothing. -/
def tally? : Store → Option Tally
  | volatile st => some ⟨st.calls.reads, st.calls.increments⟩
  | persistent _ => none

variable {st : Store} {key : String}

@[simp] theorem tally?_ensureCounter (st : Store) (key : String) :
    (st.ensureCounter key).tally? = st.tally? := by
  cases st <;> rfl

@[simp] theorem tally?_addKnown (st : Store) (key : String) :
    (st.addKnown key).tally? = st.tally? := by
  cases st <;> rfl

@[simp] theorem tally?_removeKnown (st : Store) (key : String) :
    (st.removeKnown key).tally? = st.tally? := by
  cases st <;> rfl

@[simp] theorem tally?_keepSetting (st : Store) (name value : String) :
    (st.keepSetting name value).tally? = st.tally? := by
  cases st <;> rfl

@[simp] theorem tally?_overwriteCounter (st : Store) (key : String) (value : Int64) :
    (st.overwriteCounter key value).2.tally? = st.tally? := by
  cases st with
  | volatile st =>
      simp only [overwriteCounter, VolatileStore.overwriteCounter]
      split <;> rfl
  | persistent st => rfl

@[simp] theorem tally?_removeCounter (st : Store) (key : String) :
    (st.removeCounter key).2.tally? = st.tally? := by
  cases st with
  | volatile st =>
      simp only [removeCounter, VolatileStore.removeCounter]
      split <;> rfl
  | persistent st => rfl

theorem tally?_of_read {n : Int64} (read : (st.readCounter key).1 = .ok n) :
    (st.readCounter key).2.tally? = st.tally?.map Tally.read := by
  cases st with
  | persistent st => rfl
  | volatile st =>
      simp only [readCounter, VolatileStore.readCounter] at read ⊢
      split at read
      · cases read
      · rename_i reads
        rw [if_neg reads]
        split at read
        · cases read
        · rfl

theorem tally?_of_advanced {delta : Int64} (advanced : (st.advance key delta).1 = .ok ()) :
    (st.advance key delta).2.tally? = st.tally?.map Tally.increment := by
  cases st with
  | persistent st => rfl
  | volatile st =>
      simp only [advance, VolatileStore.advance] at advanced ⊢
      split at advanced
      · cases advanced
      · split at advanced
        · cases advanced
        · split at advanced
          · cases advanced
          · rfl

end Store

namespace Allocator

variable {a : Allocator} {st : Store} {id : Int64}

theorem tally?_atHand (left : a.segment.current.toInt < a.segment.reserved.toInt) :
    (a.issueNext st).2.2.tally? = st.tally? := by
  have waits : ¬ a.segment.isExhausted := mt (isExhausted_iff _).mp (Int.not_le.mpr left)
  rw [issueNext, if_neg waits]

theorem tally?_renewed (used : a.segment.reserved.toInt ≤ a.segment.current.toInt)
    (issued : (a.issueNext st).1 = .ok id) :
    (a.issueNext st).2.2.tally? = st.tally?.map fun t => t.read.increment := by
  rw [issueNext, if_pos ((isExhausted_iff _).mpr used)] at issued ⊢
  unfold reserveBatch at issued ⊢
  have reads := @Store.tally?_of_read st a.key
  rcases reading : st.readCounter a.key with ⟨halt | base, st₁⟩
  all_goals rw [reading] at reads issued
  · cases issued
  · dsimp only at issued ⊢
    cases total : Counter.add? base a.batchSize with
    | none =>
        rw [total] at issued
        cases issued
    | some reserved =>
        have advances := @Store.tally?_of_advanced st₁ a.key a.batchSize
        rw [total] at issued
        dsimp only at issued ⊢
        rcases advancing : st₁.advance a.key a.batchSize with ⟨halt | _, st₂⟩
        all_goals rw [advancing] at advances issued
        · cases issued
        · have read := reads rfl
          have advanced := advances rfl
          dsimp only at read advanced ⊢
          rw [advanced, read, Option.map_map]
          rfl

theorem tally?_overflow {n : Int64} (used : a.segment.reserved.toInt ≤ a.segment.current.toInt)
    (reads : a.key ∉ st.contents.crashing) (held : st.contents.counter? a.key = some (.value n))
    (outside : ¬ Numeral.Range.int64.Contains (n.toInt + a.batchSize.toInt)) :
    (a.issueNext st).2.2.tally? = st.tally?.map Tally.read := by
  have read : (st.readCounter a.key).1 = .ok n := by
    simp only [st.readCounter_fst, Contents.read, if_neg reads, held]
  have tallied := Store.tally?_of_read read
  rw [issueNext, if_pos ((isExhausted_iff _).mpr used)]
  unfold reserveBatch
  rcases reading : st.readCounter a.key with ⟨result, st₁⟩
  rw [reading] at read tallied
  obtain rfl : result = .ok n := read
  simp only [Counter.add?_eq_none.mpr outside]
  exact tallied

theorem tally?_moveTo (a : Allocator) (value : Int64) (st : Store) :
    (a.moveTo value false st).2.2.tally? = st.tally? := by
  have moved : a.moveTo value false st = a.overwrite value st := rfl
  rw [moved, overwrite_store, Store.tally?_overwriteCounter, Store.tally?_ensureCounter]

end Allocator

/-! ## Issuers -/

namespace Issuer

theorem tally?_moveKey (s : Issuer) (key : String) (value : Int64) :
    (Command.moveKey s key value).2.store.tally? = s.store.tally? := by
  apply Command.moveKey_leads (R := fun s s' => s'.store.tally? = s.store.tally?)
  · exact fun _ => rfl
  · intro s s' s'' first second
    exact second.trans first
  · exact fun _ _ _ => rfl
  · intro s key
    exact s.store.tally?_addKnown key
  · intro s number a value
    exact a.tally?_moveTo value s.store

theorem tally?_deleteKeys (s : Issuer) (count : Nat) (args : List Bytes) :
    (Command.deleteKeys s count args).2.store.tally? = s.store.tally? := by
  apply Command.deleteKeys_leads (R := fun s s' => s'.store.tally? = s.store.tally?)
  · exact fun _ => rfl
  · intro s s' s'' first second
    exact second.trans first
  · intro s a
    exact s.store.tally?_removeCounter a.key
  · intro s key
    exact s.store.tally?_removeKnown key

theorem tally?_restore (batchSize : Int64) (keys : List String) (s : Issuer) (count : Nat) :
    (s.restore batchSize count keys).2.store.tally? = s.store.tally? := by
  apply restore_leads (R := fun s s' => s'.store.tally? = s.store.tally?)
  · exact fun _ => rfl
  · intro s s' s'' first second
    exact second.trans first
  · intro s key
    exact s.store.tally?_ensureCounter key
  · exact fun _ _ _ => rfl

end Issuer

/-! ## Services -/

namespace Service

variable [Patterns]

theorem tally?_writeSetting (s : Service) (name raw : String) :
    (s.writeSetting .batchSize name raw).2.issuer.store.tally? = s.issuer.store.tally? := by
  have writes := s.writeSetting_writes name raw
  generalize (s.writeSetting .batchSize name raw).1 = result,
    (s.writeSetting .batchSize name raw).2 = s' at writes
  cases writes with
  | refused => rfl
  | written p v _ named written =>
      rw [written.issuer]
      exact s.issuer.store.tally?_keepSetting p.name raw

theorem tally?_start (c : Configuration) (st : Store) (allocators : Array Allocator) :
    (start c st allocators).2.tally? = st.tally? := by
  unfold start
  rcases c.overrideAll st.savedSettings with ⟨overrides, config⟩
  dsimp only
  cases Registry.make config.batchSize with
  | error fault => rfl
  | ok registry =>
      let s : Issuer := { store := st, allocators, registry }
      have restored : s.restoreKnown.2.store.tally? = st.tally? :=
        Issuer.tally?_restore registry.batchSize st.knownKeys s 0
      dsimp only
      split
      · rename_i restoring
        exact (congrArg (·.2.store.tally?) restoring).symm.trans restored
      · rename_i restoring
        exact (congrArg (·.2.store.tally?) restoring).symm.trans restored

theorem tally?_launch {c : Configuration} (runnable : 0 < c.batchSize.toInt) (st : Store) :
    (launch c runnable st).issuer.store.tally? = st.tally? := by
  obtain ⟨booted, started, -⟩ := start_settings runnable st #[]
  have tallied := tally?_start c st #[]
  rw [started] at tallied
  rw [launch_eq (congrArg Prod.fst started)]
  exact tallied

end Service
end IdService
