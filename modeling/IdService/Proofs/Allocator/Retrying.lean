import IdService.Proofs.Run

/-! # Failing and trying again

An allocator that is refused stays as it is, and so does all that its store holds: a batch is
reserved by one call, after everything that can be refused, and nothing is adopted before it has
come back. So a failed attempt is as good as none, and the first that succeeds gives what it would
have given at once.
-/

namespace IdService

namespace Store

/-- What a store holds: no calls are counted, and no failure is to come. -/
def records : Store → Store
  | volatile st =>
    volatile { counters := st.counters, known := st.known, settings := st.settings }
  | persistent st => persistent st

theorem contents_records (st : Store) : st.records.contents =
    { st.contents with failingIncrements := 0, failingDrops := 0, crashing := [] } := by
  cases st <;> rfl

theorem counters_of_records {st st' : Store} (same : st'.records = st.records) :
    st'.contents.counters = st.contents.counters := by
  have held := congrArg (fun st => st.contents.counters) same
  simpa only [contents_records] using held

/-! ## Calls that change no record -/

theorem records_disturb (st : Store) (d : Disturbance) : (st.disturb d).records = st.records := by
  cases st with
  | volatile st => cases d <;> rfl
  | persistent st => rfl

theorem records_disturbed (orders : List Disturbance) (st : Store) :
    (orders.foldl disturb st).records = st.records := by
  induction orders generalizing st with
  | nil => rfl
  | cons order orders ih => exact (ih _).trans (st.records_disturb order)

theorem records_readCounter (st : Store) (key : String) :
    (st.readCounter key).2.records = st.records := by
  cases st with
  | volatile st =>
      simp only [readCounter, VolatileStore.readCounter]
      split
      · rfl
      · cases st.counters.get? key <;> rfl
  | persistent st => rfl

theorem records_advance {st : Store} {key : String} {delta : Int64} {halt : Halt}
    (fails : (st.advance key delta).1 = .error halt) :
    (st.advance key delta).2.records = st.records := by
  cases st with
  | volatile st =>
      simp only [advance, VolatileStore.advance] at fails ⊢
      split
      · rfl
      · rename_i none_pending
        simp only [none_pending] at fails
        cases held : st.counters.get? key with
        | none => rfl
        | some n =>
            cases total : Counter.add? n delta with
            | none => simp only [total]
            | some sum => simp [held, total] at fails
  | persistent st =>
      simp only [advance, PersistentStore.advance] at fails ⊢
      cases read : st.readCounter key with
      | error halt => rfl
      | ok n =>
          cases total : Counter.add? n delta with
          | none => simp only [total]
          | some sum => simp [read, total] at fails

/-- A counter goes as it would where no failure is to come, or the drop fails and there is one
failure less to come. -/
theorem removeCounter_cases (st : Store) (key : String) :
    (st.contents.failingDrops = 0 ∧ (st.removeCounter key).1 = .ok () ∧
        (st.removeCounter key).2.records = (st.records.removeCounter key).2.records ∧
        (st.removeCounter key).2.contents.failingDrops = 0) ∨
      ∃ failing, st.contents.failingDrops = failing + 1 ∧
        (st.removeCounter key).1 = .error (.fault (.unavailable (.drop key))) ∧
        (st.removeCounter key).2.records = st.records ∧
        (st.removeCounter key).2.contents.failingDrops = failing := by
  cases st with
  | volatile st =>
      obtain ⟨counters, known, settings, calls, failingIncrements, failingDrops, crashing⟩ := st
      cases failingDrops with
      | zero => exact .inl ⟨rfl, rfl, rfl, rfl⟩
      | succ failing => exact .inr ⟨failing, rfl, rfl, rfl, rfl⟩
  | persistent st => exact .inl ⟨rfl, rfl, rfl, rfl⟩

theorem records_removeCounter {st : Store} {key : String} {halt : Halt}
    (fails : (st.removeCounter key).1 = .error halt) :
    (st.removeCounter key).2.records = st.records := by
  rcases st.removeCounter_cases key with ⟨-, removes, -⟩ | ⟨_, -, -, same, -⟩
  · rw [removes] at fails
    cases fails
  · exact same

end Store

namespace Allocator

variable {a : Allocator} {st : Store}

/-! ## A refusal changes nothing -/

theorem reserveBatch_refused {halt : Halt} (refused : (a.reserveBatch st).1 = .error halt) :
    (a.reserveBatch st).2.records = st.records := by
  have read := st.records_readCounter a.key
  unfold reserveBatch at refused ⊢
  rcases reading : st.readCounter a.key with ⟨_ | base, after⟩
  all_goals rw [reading] at read
  · exact read
  · simp only [reading] at refused ⊢
    cases total : Counter.add? base a.batchSize with
    | none => exact read
    | some reserved =>
        simp only [total] at refused ⊢
        rcases advancing : after.advance a.key a.batchSize with ⟨fault | _, moved⟩
        · have kept := Store.records_advance (congrArg Prod.fst advancing)
          rw [advancing] at kept
          exact kept.trans read
        · simp [advancing] at refused

theorem issueNext_refused {halt : Halt} (refused : (a.issueNext st).1 = .error halt) :
    (a.issueNext st).2.1 = a ∧ (a.issueNext st).2.2.records = st.records := by
  unfold issueNext at refused ⊢
  split
  · rename_i exhausted
    rw [if_pos exhausted] at refused
    rcases reserving : a.reserveBatch st with ⟨fault | s, after⟩
    · have kept := reserveBatch_refused (congrArg Prod.fst reserving)
      rw [reserving] at kept
      exact ⟨rfl, kept⟩
    · rw [reserving] at refused
      cases refused
  · rename_i atHand
    rw [if_neg atHand] at refused
    cases refused

theorem moveTo_refused {value : Int64} {force : Bool} {halt : Halt}
    (refused : (a.moveTo value force st).1 = .error halt) :
    (a.moveTo value force st).2.1 = a ∧ (a.moveTo value force st).2.2.records = st.records := by
  unfold moveTo at refused ⊢
  split
  · rename_i forced
    rw [if_pos forced] at refused
    rcases removing : st.removeCounter a.key with ⟨fault | _, after⟩
    · have kept := Store.records_removeCounter (congrArg Prod.fst removing)
      rw [removing] at kept
      exact ⟨rfl, kept⟩
    · simp [removing, overwrite_eq_ok] at refused
  · rename_i unforced
    rw [if_neg unforced, overwrite_eq_ok] at refused
    cases refused

/-! ## What an attempt gives that another one gave -/

variable {c c' d d' : Contents} {b b' : Allocator} {result : Except Halt Int64} {id : Int64}

theorem Reserves.again {s : Segment} {outcome : Except Halt Segment}
    (reserved : a.Reserves c (.ok s) c') (attempt : a.Reserves d outcome d')
    (same : d.counters = c.counters) (reads : a.key ∈ d.crashing → a.key ∈ c.crashing) :
    outcome = .ok s ∨ ∃ failing halt, d.failingIncrements = failing + 1 ∧ outcome = .error halt ∧
      d' = { d with failingIncrements := failing } := by
  cases reserved with
  | reserved n sum read held total _ =>
      have held' : d.counter? a.key = some (.value n) := by
        rw [Contents.counter?, same, ← held]
        rfl
      have within : Numeral.Range.int64.Contains (n.toInt + a.batchSize.toInt) :=
        total ▸ Counter.contains_toInt sum
      cases attempt with
      | crash crashes => exact absurd (reads crashes) read
      | missing _ absent | corrupt _ absent =>
          rw [held'] at absent
          cases absent
      | overflow m _ other outside =>
          rw [held'] at other
          cases other
          exact absurd within outside
      | failing m failing _ _ _ pending => exact .inr ⟨failing, _, pending, rfl, rfl⟩
      | reserved m sum' _ other total' _ =>
          rw [held'] at other
          cases other
          have equal : sum' = sum := Int64.toInt_inj.mp (total'.trans total.symm)
          exact .inl (by rw [equal])

/-- Where an identifier has been issued, it is again, unless a failure is still to come. -/
theorem Issues.again (issued : a.Issues c (.ok id) a' c') (attempt : a.Issues d result b d')
    (same : d.counters = c.counters) (reads : a.key ∈ d.crashing → a.key ∈ c.crashing) :
    (result = .ok id ∧ b = a') ∨ ∃ failing halt, d.failingIncrements = failing + 1 ∧
      result = .error halt ∧ b = a ∧ d' = { d with failingIncrements := failing } := by
  cases issued with
  | atHand left =>
      cases attempt with
      | atHand _ => exact .inl ⟨rfl, rfl⟩
      | refused _ _ used _ | renewed _ _ used _ => omega
  | renewed s _ used reserved =>
      cases attempt with
      | atHand left => omega
      | refused halt _ _ attempted =>
          rcases reserved.again attempted same reads with given | ⟨failing, _, pending, -, form⟩
          · cases given
          · exact .inr ⟨failing, halt, pending, rfl, rfl, form⟩
      | renewed s' _ _ attempted =>
          rcases reserved.again attempted same reads with given | ⟨_, _, -, failed, -⟩
          · cases given
            exact .inl ⟨rfl, rfl⟩
          · cases failed

/-! ## Attempts one after the other -/

/-- So many attempts at the next identifier, all of which fail. In between the store is told what is
to go wrong next. -/
inductive Retries (a : Allocator) (st : Store) : Nat → Allocator → Store → Prop where
  | none : Retries a st 0 a st
  | again {n : Nat} {a' : Allocator} {st' : Store} {halt : Halt} (before : Retries a st n a' st')
      (failed : (a'.issueNext st').1 = .error halt) (orders : List Disturbance) :
      Retries a st (n + 1) (a'.issueNext st').2.1
        (orders.foldl Store.disturb (a'.issueNext st').2.2)

namespace Retries

theorem unchanged {n : Nat} {a' : Allocator} {st' : Store} (retries : Retries a st n a' st') :
    a' = a ∧ st'.records = st.records := by
  induction retries with
  | none => exact ⟨rfl, rfl⟩
  | again _ failed orders ih =>
      obtain ⟨rfl, same⟩ := ih
      obtain ⟨allocator, kept⟩ := issueNext_refused failed
      exact ⟨allocator, (Store.records_disturbed orders _).trans (kept.trans same)⟩

/-- The first attempt that succeeds gives what an attempt without failures would have given. -/
theorem succeeds {n : Nat} {a' : Allocator} {st' : Store} (retries : Retries a st n a' st')
    (issued : (a'.issueNext st').1 = .ok id) :
    (a.issueNext st.records).1 = .ok id ∧
      (a.issueNext st.records).2.1 = (a'.issueNext st').2.1 := by
  obtain ⟨rfl, same⟩ := retries.unchanged
  have given := a'.issueNext_issues st'
  rw [issued] at given
  have calm := st.contents_records
  have counters : st.records.contents.counters = st'.contents.counters := by
    rw [Store.counters_of_records same, calm]
  have reads : a'.key ∈ st.records.contents.crashing → a'.key ∈ st'.contents.crashing := by
    simp [calm]
  rcases given.again (a'.issueNext_issues st.records) counters reads with
    found | ⟨failing, _, pending, -⟩
  · exact found
  · simp [calm] at pending

end Retries

/-- The next identifier, asked for again after each failure, so many times at most. -/
def issueRetrying (a : Allocator) : Nat → Store → Except Halt Int64 × Allocator × Store
  | 0, st => a.issueNext st
  | n + 1, st =>
    match a.issueNext st with
    | (.error _, a, st) => a.issueRetrying n st
    | issued => issued

/-- As many attempts as failures are still to come get past them. -/
theorem issueRetrying_fst (issued : a.Issues c (.ok id) a' c') {n : Nat}
    (enough : st.contents.failingIncrements ≤ n) (same : st.contents.counters = c.counters)
    (reads : a.key ∈ st.contents.crashing → a.key ∈ c.crashing) :
    (a.issueRetrying n st).1 = .ok id := by
  have attempt := issued.again (a.issueNext_issues st) same reads
  induction n generalizing st with
  | zero =>
      rcases attempt with ⟨given, -⟩ | ⟨failing, _, pending, -⟩
      · exact given
      · omega
  | succ n ih =>
      unfold issueRetrying
      rcases asking : a.issueNext st with ⟨result, b, after⟩
      rw [asking] at attempt
      rcases attempt with ⟨rfl, -⟩ | ⟨failing, halt, pending, rfl, rfl, form⟩
      · rfl
      · have left : after.contents.failingIncrements = failing := by rw [form]
        have same : after.contents.counters = c.counters := by rw [form, same]
        have reads : b.key ∈ after.contents.crashing → b.key ∈ c.crashing := by
          rw [form]
          exact reads
        exact ih (by omega) same reads
          (issued.again (b.issueNext_issues after) same reads)

/-! ## The whole -/

/-- An operation that is refused leaves the allocator and all that the store holds as they were.
Attempts at the next identifier can be repeated: the first that succeeds, after failures of whatever
kind, gives what would have been given without them, and no more attempts are needed than increments
are going to fail. -/
theorem refusals_are_retried (a : Allocator) (st : Store) :
    (∀ halt, (a.issueNext st).1 = .error halt →
      (a.issueNext st).2.1 = a ∧ (a.issueNext st).2.2.records = st.records) ∧
    (∀ value force halt, (a.moveTo value force st).1 = .error halt →
      (a.moveTo value force st).2.1 = a ∧ (a.moveTo value force st).2.2.records = st.records) ∧
    (∀ halt, (a.retire st).1 = .error halt → (a.retire st).2.records = st.records) ∧
    (∀ n last final id, Retries a st n last final → (last.issueNext final).1 = .ok id →
      (a.issueNext st.records).1 = .ok id ∧
        (a.issueNext st.records).2.1 = (last.issueNext final).2.1) ∧
    ∀ failures id, (a.issueNext (st.disturb (.failIncrements 0))).1 = .ok id →
      (a.issueRetrying failures (st.disturb (.failIncrements failures))).1 = .ok id := by
  refine ⟨fun _ => issueNext_refused, fun _ _ _ => moveTo_refused,
    fun _ => Store.records_removeCounter, fun _ _ _ _ retries => retries.succeeds, ?_⟩
  intro failures id issued
  have given := a.issueNext_issues (st.disturb (.failIncrements 0))
  rw [issued] at given
  cases st with
  | volatile st => exact issueRetrying_fst given (Nat.le_refl failures) rfl fun crashes => crashes
  | persistent st =>
      exact issueRetrying_fst given (Nat.zero_le failures) rfl fun crashes => crashes

def refilling : Allocator := { key := "k", batchSize := 5 }

/-- The next two increments fail, and so does the next drop. -/
def flakyStore : Store :=
  .volatile { counters := Table.insert {} "k" 10, failingIncrements := 2, failingDrops := 1 }

theorem flakyStore_retried :
    (refilling.issueNext flakyStore).2.2.records = flakyStore.records ∧
      (refilling.moveTo 3 true flakyStore).2.2.records = flakyStore.records ∧
      (refilling.retire flakyStore).2.records = flakyStore.records ∧
      (refilling.issueNext flakyStore.records).1 = .ok 11 ∧
      (refilling.issueRetrying 2 flakyStore).1 = .ok 11 := by
  obtain ⟨issue, move, retire, retried, past⟩ := refusals_are_retried refilling flakyStore
  have failing : (refilling.issueNext flakyStore).1 =
      .error (.fault (.unavailable (.increment "k"))) := rfl
  have dropping : (refilling.moveTo 3 true flakyStore).1 =
      .error (.fault (.unavailable (.drop "k"))) := rfl
  -- after one failure the store is told that there are no more
  have once : Retries refilling flakyStore 1 _ _ := .again .none failing [.failIncrements 0]
  exact ⟨(issue _ failing).2, (move 3 true _ dropping).2, retire _ dropping,
    (retried 1 _ _ 11 once rfl).1, past 2 11 rfl⟩

end Allocator
end IdService
