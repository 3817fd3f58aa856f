import IdService.Proofs.Allocator.Limits
import IdService.Proofs.Allocator.Retrying
import IdService.Proofs.Run.Epochs

/-! # Starting afresh

A move, by force or not, leaves nothing of what was there before: the counter has the new value,
whatever was kept for it, and nothing is at hand. What comes of asking for identifiers from then on
is told by the value, the batch size and the number of those that have been asked for.
-/

namespace IdService

namespace Table

variable {κ α : Type} [ByteKey κ] [DecidableEq κ]

theorem insert_erase (t : Table κ α) (k : κ) (v : α) : (t.erase k).insert k v = t.insert k v := by
  apply ext
  intro k'
  by_cases here : k' = k <;> simp [here]

end Table

/-! ## Where a move leaves the store -/

namespace Store

/-- The store with a value for a counter, whatever was kept for it. -/
def place (st : Store) (key : String) (value : Int64) : Store :=
  match st with
  | volatile st => volatile { st with counters := st.counters.insert key value }
  | persistent st => persistent (st.writeCounter key value)

theorem records_overwriteCounter (st : Store) (key : String) (value : Int64) :
    ((st.ensureCounter key).overwriteCounter key value).2.records =
      st.records.place key value := by
  cases st with
  | volatile st =>
      by_cases there : st.counters.contains key
      · simp only [ensureCounter, VolatileStore.ensureCounter, overwriteCounter,
          VolatileStore.overwriteCounter, if_pos there, records, place]
      · have made : (st.counters.insert key 0).contains key := by simp [Table.contains_insert]
        simp only [ensureCounter, VolatileStore.ensureCounter, overwriteCounter,
          VolatileStore.overwriteCounter, if_neg there, if_pos made, records, place,
          Table.insert_insert]
  | persistent st =>
      by_cases there : st.counters.contains (Text.utf8 key)
      · simp only [ensureCounter, PersistentStore.ensureCounter, overwriteCounter,
          PersistentStore.overwriteCounter, if_pos there, records, place]
      · have made : (st.counters.insert (Text.utf8 key) (Counter.encode 0)).contains
            (Text.utf8 key) := by simp [Table.contains_insert]
        simp only [ensureCounter, PersistentStore.ensureCounter, overwriteCounter,
          PersistentStore.overwriteCounter, if_neg there, if_pos made, records, place,
          PersistentStore.writeCounter, Table.insert_insert]

theorem place_removeCounter (st : Store) (key : String) (value : Int64) :
    (st.records.removeCounter key).2.records.place key value = st.records.place key value := by
  cases st with
  | volatile st =>
      simp only [records, removeCounter, VolatileStore.removeCounter, place, Table.insert_erase]
  | persistent st =>
      simp only [records, removeCounter, PersistentStore.removeCounter, place,
        PersistentStore.writeCounter, Table.insert_erase]

end Store

namespace Allocator

variable {a : Allocator} {st : Store} {value : Int64} {force : Bool}

/-- Nothing is left of what was before: neither of the identifiers at hand nor of the counter. -/
structure Placed (a : Allocator) (value : Int64) (st : Store) (a' : Allocator) (st' : Store) :
    Prop where
  allocator : a' = { a with segment := ⟨value, value⟩ }
  counter : st'.counterValue? a.key = some value
  /-- The known keys, the settings and the other counters are what they were. -/
  records : st'.records = st.records.place a.key value
  failingIncrements : st'.contents.failingIncrements = st.contents.failingIncrements
  crashing : st'.contents.crashing = st.contents.crashing

theorem overwrite_placed (a : Allocator) (value : Int64) (st : Store) :
    a.Placed value st (a.overwrite value st).2.1 (a.overwrite value st).2.2 := by
  have contents : (a.overwrite value st).2.2.contents = st.contents.write a.key value :=
    (a.moveTo_unforced value st).2.2
  refine ⟨a.overwrite_allocator value st, ?_, ?_, by rw [contents]; rfl, by rw [contents]; rfl⟩
  · rw [← Store.contents_counter?_eq_value_iff, contents]
    simp
  · rw [overwrite_store]
    exact st.records_overwriteCounter a.key value

theorem moveTo_forced (removes : (st.removeCounter a.key).1 = .ok ()) :
    a.moveTo value true st = a.overwrite value (st.removeCounter a.key).2 := by
  simp only [moveTo, if_true]
  rcases removing : st.removeCounter a.key with ⟨_ | _, after⟩
  · rw [removing] at removes
    cases removes
  · rfl

/-- A move is refused only if the counter is to be dropped and that fails. -/
theorem moveTo_eq_ok_iff :
    (a.moveTo value force st).1 = .ok () ↔ (force → st.contents.failingDrops = 0) := by
  cases force with
  | false => exact iff_of_true (a.overwrite_eq_ok value st) (fun forced => nomatch forced)
  | true =>
      rcases st.removeCounter_cases a.key with ⟨pending, removes, -⟩ | ⟨failing, pending, fails, -⟩
      · rw [moveTo_forced removes, overwrite_eq_ok]
        exact iff_of_true rfl fun _ => pending
      · refine iff_of_false ?_ (fun ready => by have none := ready rfl; omega)
        simp only [moveTo, if_true]
        rcases removing : st.removeCounter a.key with ⟨halt | _, after⟩
        · rintro ⟨⟩
        · rw [removing] at fails
          cases fails

theorem moveTo_placed (moved : (a.moveTo value force st).1 = .ok ()) :
    a.Placed value st (a.moveTo value force st).2.1 (a.moveTo value force st).2.2 := by
  cases force with
  | false => exact a.overwrite_placed value st
  | true =>
      have pending := moveTo_eq_ok_iff.mp moved rfl
      rcases st.removeCounter_cases a.key with ⟨-, removes, kept, -⟩ | ⟨_, fails, -⟩
      · have placed := a.overwrite_placed value (st.removeCounter a.key).2
        have contents : (st.removeCounter a.key).2.contents =
            { st.contents with counters := st.contents.counters.erase (Text.utf8 a.key) } := by
          have removed := st.removeCounter_contents a.key
          rw [Contents.remove_eq pending] at removed
          exact congrArg Prod.snd removed
        rw [moveTo_forced removes]
        refine ⟨placed.allocator, placed.counter, ?_, ?_, ?_⟩
        · rw [placed.records, kept, st.place_removeCounter]
        · rw [placed.failingIncrements, contents]
        · rw [placed.crashing, contents]
      · omega

end Allocator

/-! ## Asking from then on -/

namespace Epoch

/-- So many more identifiers have been asked for. -/
def after (e : Epoch) (n : Nat) : Epoch := { e with issued := e.issued + n }

/-- What the next identifier of an epoch is: one more than the last one, unless the counter would
pass its range. -/
def answer (e : Epoch) (key : String) : Except Halt Int64 :=
  if e.issue.stand ≤ Int64.maxValue.toInt then .ok (Int64.ofInt (e.value + e.issue.issued))
  else .error (.fault (.overflow key))

variable {e : Epoch} {key : String}

theorem issue_after (e : Epoch) (n : Nat) : e.issue.after n = e.after (n + 1) := by
  simp only [issue, after, Nat.add_assoc, Nat.add_comm 1 n]

theorem after_issue (e : Epoch) (n : Nat) : (e.after n).issue = e.after (n + 1) := rfl

theorem stand_le_after (positive : 0 < e.batchSize.toInt) (n : Nat) :
    e.stand ≤ (e.after n).stand := by
  have more : e.refills ≤ (e.after n).refills :=
    Nat.div_le_div_right (Nat.add_le_add_right (Nat.le_add_right ..) _)
  have batches : (e.refills : Int) ≤ (e.after n).refills := Int.ofNat_le.mpr more
  exact Int.add_le_add_left (Int.mul_le_mul_of_nonneg_right batches (Int.le_of_lt positive)) _

theorem stand_after_le (positive : 0 < e.batchSize.toInt) {m n : Nat} (less : m ≤ n) :
    (e.after m).stand ≤ (e.after n).stand := by
  obtain ⟨more, rfl⟩ := Nat.exists_eq_add_of_le less
  have step := stand_le_after (e := e.after m) positive more
  rwa [after, after, Nat.add_assoc] at step

theorem stand_renewed (positive : 0 < e.batchSize.toInt) (used : e.stand ≤ e.value + e.issued) :
    e.issue.stand = e.stand + e.batchSize.toInt := by
  have more : e.issue.refills = e.refills + 1 :=
    refills_renewed positive (Int.le_of_add_le_add_left used)
  rw [stand, more]
  simp only [stand, issue]
  push_cast
  rw [Int.add_mul]
  omega

theorem answer_of_fits (fits : e.issue.stand ≤ Int64.maxValue.toInt) :
    e.answer key = .ok (Int64.ofInt (e.value + e.issue.issued)) := if_pos fits

theorem answer_of_past (past : Int64.maxValue.toInt < e.issue.stand) :
    e.answer key = .error (.fault (.overflow key)) := if_neg (Int.not_le.mpr past)

end Epoch

namespace Allocator

variable {a : Allocator} {st : Store} {e : Epoch}

/-- So many identifiers, one after the other: the answers, and what is left behind. -/
def issueMany (a : Allocator) : Nat → Store → List (Except Halt Int64) × Allocator × Store
  | 0, st => ([], a, st)
  | n + 1, st =>
    let (result, a, st) := a.issueNext st
    let (results, a, st) := a.issueMany n st
    (result :: results, a, st)

/-- An allocator is where an epoch tells, and no failure is to come to it. -/
structure Follows (a : Allocator) (c : Contents) (e : Epoch) : Prop where
  tells : e.Tells ⟨some a, c.counter? a.key, true⟩
  ready : c.failingIncrements = 0
  reads : a.key ∉ c.crashing

theorem Follows.held {c : Contents} (follows : a.Follows c e) :
    ∃ n, c.counter? a.key = some (.value n) ∧ a.batchSize = e.batchSize ∧
      a.segment.reserved = n ∧ n.toInt = e.stand ∧
      a.segment.current.toInt = e.value + e.issued := by
  obtain ⟨b, n, is, records⟩ := follows.tells.records
  obtain ⟨same, held, -⟩ := Holding.mk.inj is
  obtain rfl := Option.some.inj same
  exact ⟨n, held, records⟩

theorem answer_of_tells {a' : Allocator} {counter : Option Entry} {known : Bool} (key : String)
    (tells : e.issue.Tells ⟨some a', counter, known⟩) :
    e.issue.stand ≤ Int64.maxValue.toInt ∧ e.answer key = .ok a'.segment.current := by
  obtain ⟨b, n, is, -, -, stands, current⟩ := tells.records
  obtain rfl := Option.some.inj (Holding.mk.inj is).1
  have fits : e.issue.stand ≤ Int64.maxValue.toInt := by
    rw [← stands]
    exact Int.le_of_lt_add_one n.toInt_lt
  refine ⟨fits, ?_⟩
  rw [Epoch.answer_of_fits fits, show e.value + e.issue.issued = a'.segment.current.toInt from
    current.symm, Int64.ofInt_toInt]

/-- One call takes an allocator along its epoch. If it is refused, all stays where it is. -/
theorem Issues.follows {c c' : Contents} {a' : Allocator} {result : Except Halt Int64}
    (issues : a.Issues c result a' c') (follows : a.Follows c e) :
    a'.key = a.key ∧ result = e.answer a.key ∧
      (e.issue.stand ≤ Int64.maxValue.toInt ∧ a'.Follows c' e.issue ∨
        Int64.maxValue.toInt < e.issue.stand ∧ a'.Follows c' e) := by
  obtain ⟨n, held, size, reserved, stands, current⟩ := follows.held
  have tells := follows.tells
  rw [held] at tells
  cases issues with
  | atHand left =>
      have step : Holding.Step a.key _ ⟨some a, some (.value n), true⟩ _ := .issued a n left
      have tells' := (tells.issue step).1
      obtain ⟨fits, answer⟩ := answer_of_tells a.key tells'
      exact ⟨rfl, answer.symm, .inl ⟨fits, held ▸ tells', follows.ready, follows.reads⟩⟩
  | renewed s _ used reserves =>
      cases reserves with
      | reserved m sum _ held' total _ =>
          rw [held] at held'
          cases held'
          have step : Holding.Step a.key _ ⟨some a, some (.value n), true⟩ _ :=
            .renewed a n sum used total
          have tells' := (tells.issue step).1
          obtain ⟨fits, answer⟩ := answer_of_tells a.key tells'
          refine ⟨rfl, answer.symm, .inl ⟨fits, ?_, follows.ready, follows.reads⟩⟩
          simpa using tells'
  | refused halt _ used reserves =>
      cases reserves with
      | crash crashes => exact absurd crashes follows.reads
      | missing _ held' | corrupt _ held' =>
          rw [held] at held'
          cases held'
      | failing _ _ _ _ _ pending =>
          rw [follows.ready] at pending
          cases pending
      | overflow m _ held' outside =>
          rw [held] at held'
          cases held'
          have positive : 0 < a.batchSize.toInt := size ▸ tells.positive
          have renewed : e.issue.stand = e.stand + e.batchSize.toInt :=
            Epoch.stand_renewed tells.positive (by rw [← stands, ← reserved, ← current]; exact used)
          have past : Int64.maxValue.toInt < e.issue.stand := by
            rw [renewed, ← stands, ← size]
            exact Int.not_le.mp (mt (contains_add_iff positive).mpr outside)
          exact ⟨rfl, (Epoch.answer_of_past past).symm, .inr ⟨past, follows⟩⟩

/-! ### One after the other -/

theorem Follows.issueMany (follows : a.Follows st.contents e) (n : Nat) :
    (a.issueMany n st).1 = (List.range n).map fun k => (e.after k).answer a.key := by
  induction n generalizing a st e with
  | zero => rfl
  | succ n ih =>
      obtain ⟨key, first, stays⟩ := (a.issueNext_issues st).follows follows
      have opened : (a.issueMany (n + 1) st).1 = (a.issueNext st).1 ::
          ((a.issueNext st).2.1.issueMany n (a.issueNext st).2.2).1 := rfl
      rw [opened, first, List.range_succ_eq_map, List.map_cons, List.map_map]
      congr 1
      rcases stays with ⟨-, next⟩ | ⟨past, same⟩
      · rw [ih next, key]
        exact List.map_congr_left fun k _ => by rw [e.issue_after]; rfl
      · -- the counter stays too high for all that are asked for behind
        have refused : ∀ k, (e.after k).answer a.key = .error (.fault (.overflow a.key)) := by
          intro k
          have later := Epoch.stand_le_after (e := e.issue) follows.tells.positive k
          rw [e.issue_after] at later
          exact Epoch.answer_of_past (Int.lt_of_lt_of_le past later)
        rw [ih same, key]
        exact List.map_congr_left fun k _ => (refused k).trans (refused (k + 1)).symm

theorem Follows.issueMany_follows (follows : a.Follows st.contents e) {n : Nat}
    (fits : (e.after n).stand ≤ Int64.maxValue.toInt) :
    (a.issueMany n st).2.1.key = a.key ∧
      (a.issueMany n st).2.1.Follows (a.issueMany n st).2.2.contents (e.after n) := by
  induction n generalizing a st e with
  | zero => exact ⟨rfl, follows⟩
  | succ n ih =>
      obtain ⟨key, -, stays⟩ := (a.issueNext_issues st).follows follows
      rw [← e.issue_after] at fits ⊢
      have room := Int.le_trans
        (Epoch.stand_le_after (e := e.issue) follows.tells.positive n) fits
      rcases stays with ⟨-, next⟩ | ⟨past, -⟩
      · obtain ⟨key', last⟩ := ih next fits
        exact ⟨key'.trans key, last⟩
      · exact absurd room (Int.not_le.mpr past)

/-! ## The whole -/

/-- The epoch of an allocator that has just been moved. -/
def epochAt (value batchSize : Int64) : Epoch := { value := value.toInt, batchSize }

theorem Placed.follows {a' : Allocator} {st' : Store} {value : Int64}
    (placed : a.Placed value st a' st') (positive : 0 < a.batchSize.toInt)
    (ready : st.contents.failingIncrements = 0) (reads : a.key ∉ st.contents.crashing) :
    a'.Follows st'.contents (epochAt value a.batchSize) where
  tells := by
    have held := Store.contents_counter?_eq_value_iff.mpr placed.counter
    simp only [placed.allocator, held]
    exact Epoch.tells_begun positive value
  ready := placed.failingIncrements.trans ready
  reads := by
    rw [placed.crashing, placed.allocator]
    exact reads

/-- While the counter has room, the answers are the numbers behind the value, one by one. -/
theorem answers_eq {value batchSize : Int64} (positive : 0 < batchSize.toInt) {n : Nat}
    (fits : ((epochAt value batchSize).after n).stand ≤ Int64.maxValue.toInt) (key : String) :
    ∃ ids : List Int64, ids.map .ok =
        ((List.range n).map fun k => ((epochAt value batchSize).after k).answer key) ∧
      ids.map Int64.toInt = (List.range n).map fun k => value.toInt + (k + 1 : Nat) := by
  have room : ∀ k < n, ((epochAt value batchSize).after (k + 1)).stand ≤ Int64.maxValue.toInt :=
    fun k less => Int.le_trans
      (Epoch.stand_after_le (e := epochAt value batchSize) positive less) fits
  refine ⟨(List.range n).map fun k => Int64.ofInt (value.toInt + (k + 1 : Nat)), ?_, ?_⟩
  · rw [List.map_map]
    apply List.map_congr_left
    intro k member
    have answer : ((epochAt value batchSize).after k).answer key = _ :=
      Epoch.answer_of_fits (room k (List.mem_range.mp member))
    rw [answer, Epoch.after_issue]
    simp only [Function.comp_apply, epochAt, Epoch.after, Nat.zero_add]
  · rw [List.map_map]
    apply List.map_congr_left
    intro k member
    apply Counter.toInt_ofInt
    have issued := (Epoch.refills_bounds (e := (epochAt value batchSize).after (k + 1)) positive).1
    have high := room k (List.mem_range.mp member)
    have last : Int64.maxValue.toInt = 9223372036854775807 := rfl
    have low := value.le_toInt
    simp only [Epoch.stand] at high
    simp only [epochAt, Epoch.after, Nat.zero_add] at issued high
    simp only [Numeral.Range.Contains, Numeral.Range.int64]
    omega

theorem make_eq {key : String} {batchSize : Int64} (made : make key batchSize = .ok a) :
    a = { key, batchSize } := by
  unfold make at made
  split at made
  · cases made
  · split at made
    · cases made
    · cases made
      rfl

/-- A move from one state, by force or not, comes to the same. From then on so many identifiers are
the same whatever was before, each one more than the last; and they are all there as long as the
counter, which moves on by whole batches, does not pass its range. -/
theorem moves_start_afresh {a₀ : Allocator} (made : make a.key a.batchSize = .ok a₀) (st : Store)
    (value : Int64) :
    (∀ force, (a.moveTo value force st).1 = .ok () →
      a.Placed value st (a.moveTo value force st).2.1 (a.moveTo value force st).2.2) ∧
    ((a.moveTo value true st).1 = .ok () → (a.moveTo value false st).1 = .ok () ∧
      (a.moveTo value true st).2.1 = (a.moveTo value false st).2.1 ∧
      (a.moveTo value true st).2.2.records = (a.moveTo value false st).2.2.records) ∧
    ∀ force, (a.moveTo value force st).1 = .ok () →
      st.contents.failingIncrements = 0 → a.key ∉ st.contents.crashing → ∀ n,
      let e := epochAt value a.batchSize
      let run := (a.moveTo value force st).2.1.issueMany n (a.moveTo value force st).2.2
      run.1 = ((List.range n).map fun k => (e.after k).answer a.key) ∧
      ((e.after n).stand ≤ Int64.maxValue.toInt →
        (∃ ids : List Int64, run.1 = ids.map .ok ∧
          ids.map Int64.toInt = (List.range n).map fun k => value.toInt + (k + 1 : Nat)) ∧
        ∃ counter : Int64, run.2.2.counterValue? a.key = some counter ∧
          counter.toInt = (e.after n).stand) := by
  have positive : 0 < a.batchSize.toInt := by
    have fresh := (make_ok made).2
    rw [make_eq made] at fresh
    exact fresh.batchSize
  have placed : ∀ force, (a.moveTo value force st).1 = .ok () →
      a.Placed value st (a.moveTo value force st).2.1 (a.moveTo value force st).2.2 :=
    fun _ => moveTo_placed
  refine ⟨placed, fun moved => ?_, fun force moved ready reads n => ?_⟩
  · have unforced : (a.moveTo value false st).1 = .ok () := (a.moveTo_unforced value st).1
    have one := placed true moved
    have other := placed false unforced
    exact ⟨unforced, one.allocator.trans other.allocator.symm,
      one.records.trans other.records.symm⟩
  · intro e run
    have isKey := a.moveTo_key value force st
    have follows := (placed force moved).follows positive ready reads
    have answers := follows.issueMany n
    rw [isKey] at answers
    refine ⟨answers, fun fits => ⟨?_, ?_⟩⟩
    · obtain ⟨ids, same, numbers⟩ := answers_eq positive fits a.key
      exact ⟨ids, answers.trans same.symm, numbers⟩
    · obtain ⟨isKey', last⟩ := follows.issueMany_follows fits
      obtain ⟨counter, held, -, -, stands, -⟩ := last.held
      rw [isKey', isKey] at held
      exact ⟨counter, Store.contents_counter?_eq_value_iff.mp held, stands⟩

/-- Four identifiers of a batch of five are at hand. -/
def begun : Allocator := { key := "k", batchSize := 5, segment := ⟨41, 45⟩ }

/-- A durable store with three bytes for a counter, which are no value. -/
def damagedCounter : Store :=
  .persistent { counters := Table.insert {} (Text.utf8 "k") [1, 2, 3] }

/-- A segment that has been begun and a counter that is none are gone behind a move back, and the
sixth identifier begins a second batch. Near the end of the range one batch is all there is. -/
theorem damagedCounter_moved :
    (begun.moveTo (-3) true damagedCounter).1 = .ok () ∧
      (begun.moveTo (-3) true damagedCounter).2.1.segment = ⟨-3, -3⟩ ∧
      (begun.moveTo (-3) true damagedCounter).2.2.records =
        (begun.moveTo (-3) false damagedCounter).2.2.records ∧
      (∃ ids : List Int64, ((begun.moveTo (-3) true damagedCounter).2.1.issueMany 6
          (begun.moveTo (-3) true damagedCounter).2.2).1 = ids.map .ok ∧
        ids.map Int64.toInt = [-2, -1, 0, 1, 2, 3]) ∧
      ((begun.moveTo (Int64.maxValue - 7) false damagedCounter).2.1.issueMany 6
          (begun.moveTo (Int64.maxValue - 7) false damagedCounter).2.2).1.getLast? =
        some (.error (.fault (.overflow "k"))) := by
  have made : make begun.key begun.batchSize = .ok { key := "k", batchSize := 5 } := rfl
  obtain ⟨placed, same, asked⟩ := moves_start_afresh made damagedCounter (-3)
  obtain ⟨-, -, asked'⟩ := moves_start_afresh made damagedCounter (Int64.maxValue - 7)
  have reads : begun.key ∉ damagedCounter.contents.crashing := List.not_mem_nil
  have back : (begun.moveTo (-3) true damagedCounter).1 = .ok () :=
    moveTo_eq_ok_iff.mpr fun _ => rfl
  have up : (begun.moveTo (Int64.maxValue - 7) false damagedCounter).1 = .ok () :=
    moveTo_eq_ok_iff.mpr fun _ => rfl
  have room : ((epochAt (-3) begun.batchSize).after 6).stand ≤ Int64.maxValue.toInt := by decide
  obtain ⟨ids, answers, numbers⟩ := ((asked true back rfl reads 6).2 room).1
  have segment := congrArg Allocator.segment (placed true back).allocator
  refine ⟨back, segment, (same back).2.2, ⟨ids, answers, numbers⟩, ?_⟩
  have past : Int64.maxValue.toInt <
      ((epochAt (Int64.maxValue - 7) begun.batchSize).after 5).issue.stand := by decide
  rw [(asked' false up rfl reads 6).1]
  exact congrArg some (Epoch.answer_of_past past)

end Allocator
end IdService
