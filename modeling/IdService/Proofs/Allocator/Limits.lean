import IdService.Proofs.Allocator.Moving
import IdService.Proofs.Holding.Enrolling
import IdService.Proofs.Store.Bytes

/-! # At the ends of the range

The sum that moves a counter on is checked before anything is asked of the store to change, and the
step from one identifier to the next is not checked at all. It need not be: an allocator never has
issued more than it has reserved, so below an identifier at hand there is room for the step. What an
allocator without one at hand comes to is decided by one condition after the other.
-/

namespace IdService.Allocator

open Numeral (Range)

/-! ## Use -/

/-- What can be asked of an allocator. -/
inductive Operation where
  | issueNext
  | moveTo (value : Int64) (force : Bool)
  | retire
deriving Repr, DecidableEq

/-- The allocator after an operation. Retiring is something to the store only. -/
def operate (a : Allocator) (st : Store) : Operation → Allocator
  | .issueNext => (a.issueNext st).2.1
  | .moveTo value force => (a.moveTo value force st).2.1
  | .retire => a

/-- What operations make of an allocator. Each of them finds the store as others have left it, which
may be in any way. -/
inductive Becomes (a : Allocator) : Allocator → Prop where
  | unused : Becomes a a
  | used {a' : Allocator} (before : Becomes a a') (o : Operation) (st : Store) :
      Becomes a (a'.operate st o)

/-- No more has been issued than reserved. -/
structure Within (a : Allocator) : Prop where
  batchSize : 0 < a.batchSize.toInt
  segment : a.segment.current.toInt ≤ a.segment.reserved.toInt

variable {a a₀ : Allocator} {st : Store}

theorem Fresh.within (fresh : a.Fresh) : a.Within where
  batchSize := fresh.batchSize
  segment := by simp [fresh.segment]

theorem Issues.within {c c' : Contents} {a' : Allocator} {result : Except Halt Int64}
    (issues : a.Issues c result a' c') (within : a.Within) : a'.Within := by
  refine ⟨by cases issues <;> exact within.batchSize, ?_⟩
  cases issues with
  | atHand left =>
      have next := Counter.toInt_succ left
      dsimp only
      omega
  | refused => exact within.segment
  | renewed s _ _ reserves =>
      cases reserves with
      | reserved n sum _ _ total _ =>
          have positive := within.batchSize
          have next : (n + 1).toInt = n.toInt + 1 := Counter.toInt_succ (b := sum) (by omega)
          dsimp only
          omega

theorem Within.operate (within : a.Within) (o : Operation) : (a.operate st o).Within := by
  cases o with
  | issueNext => exact (a.issueNext_issues st).within within
  | moveTo value force =>
      rcases a.moveTo_allocator value force st with same | moved
      · simp only [Allocator.operate, same]
        exact within
      · simp only [Allocator.operate, moved]
        exact ⟨within.batchSize, Int.le_refl _⟩
  | retire => exact within

theorem Becomes.within (becomes : Becomes a₀ a) (within : a₀.Within) : a.Within := by
  induction becomes with
  | unused => exact within
  | used _ o st ih => exact ih.operate o

theorem Becomes.trans {a' : Allocator} (first : Becomes a₀ a) (second : Becomes a a') :
    Becomes a₀ a' := by
  induction second with
  | unused => exact first
  | used _ o st ih => exact .used ih o st

/-! ## Asking for the next identifier -/

/-- What comes of asking for the next identifier: the answer, the allocator, and what the store holds
then. -/
def ask (a : Allocator) (st : Store) : Except Halt Int64 × Allocator × Contents :=
  ((a.issueNext st).1, (a.issueNext st).2.1, (a.issueNext st).2.2.contents)

theorem Issues.ask_eq {result : Except Halt Int64} {a' : Allocator} {c' : Contents}
    (issues : a.Issues st.contents result a' c') : a.ask st = (result, a', c') := by
  obtain ⟨result, allocator, contents⟩ := issues.unique (a.issueNext_issues st)
  rw [ask, result, allocator, contents]

/-- No identifier is at hand, and the counter can be read, for what it may hold. -/
structure Spent (a : Allocator) (st : Store) : Prop where
  segment : a.segment.reserved.toInt ≤ a.segment.current.toInt
  reads : a.key ∉ st.contents.crashing

theorem contains_add_iff {n amount : Int64} (positive : 0 < amount.toInt) :
    Range.int64.Contains (n.toInt + amount.toInt) ↔
      n.toInt + amount.toInt ≤ Int64.maxValue.toInt := by
  have low := n.le_toInt
  have last : Int64.maxValue.toInt = 9223372036854775807 := rfl
  simp only [Range.Contains, Range.int64]
  omega

namespace Spent

variable {n : Int64}

theorem missing (spent : a.Spent st) (absent : st.counterBytes? a.key = none) :
    a.ask st = (.error (.fault (.missing a.key)), a, st.contents) := by
  have held : st.contents.counter? a.key = none := by rw [Store.contents_counter?, absent]; rfl
  exact Issues.ask_eq (.refused _ _ spent.segment (.missing spent.reads held))

theorem corrupt (spent : a.Spent st) {bytes : Bytes} (there : st.counterBytes? a.key = some bytes)
    (noCounter : bytes.length ≠ 8) :
    a.ask st = (.error (.fault (.corrupt a.key)), a, st.contents) := by
  have held : st.contents.counter? a.key = some .corrupt := by
    rw [Store.contents_counter?, there, Option.map_some, Entry.ofRaw_eq_corrupt_iff.mpr noCounter]
  exact Issues.ask_eq (.refused _ _ spent.segment (.corrupt spent.reads held))

theorem overflow (spent : a.Spent st) (within : a.Within) (held : st.counterValue? a.key = some n)
    (past : Int64.maxValue.toInt < n.toInt + a.batchSize.toInt) :
    a.ask st = (.error (.fault (.overflow a.key)), a, st.contents) := by
  have outside := mt (contains_add_iff within.batchSize).mp (Int.not_le.mpr past)
  have held := Store.contents_counter?_eq_value_iff.mpr held
  exact Issues.ask_eq (.refused _ _ spent.segment (.overflow n spent.reads held outside))

theorem failing (spent : a.Spent st) (within : a.Within) (held : st.counterValue? a.key = some n)
    (fits : n.toInt + a.batchSize.toInt ≤ Int64.maxValue.toInt) {failing : Nat}
    (pending : st.contents.failingIncrements = failing + 1) :
    a.ask st = (.error (.fault (.unavailable (.increment a.key))), a,
      { st.contents with failingIncrements := failing }) := by
  have inside := (contains_add_iff within.batchSize).mpr fits
  have held := Store.contents_counter?_eq_value_iff.mpr held
  exact Issues.ask_eq
    (.refused _ _ spent.segment (.failing n failing spent.reads held inside pending))

theorem renewed (spent : a.Spent st) (within : a.Within) (held : st.counterValue? a.key = some n)
    (fits : n.toInt + a.batchSize.toInt ≤ Int64.maxValue.toInt)
    (ready : st.contents.failingIncrements = 0) :
    ∃ sum : Int64, sum.toInt = n.toInt + a.batchSize.toInt ∧ (n + 1).toInt = n.toInt + 1 ∧
      a.ask st = (.ok (n + 1), { a with segment := ⟨n + 1, sum⟩ }, st.contents.write a.key sum) := by
  have inside := (contains_add_iff within.batchSize).mpr fits
  have held := Store.contents_counter?_eq_value_iff.mpr held
  have total := Counter.toInt_ofInt inside
  have positive := within.batchSize
  refine ⟨_, total, Counter.toInt_succ (b := Int64.ofInt (n.toInt + a.batchSize.toInt)) ?_, ?_⟩
  · omega
  · exact Issues.ask_eq
      (.renewed _ _ spent.segment (.reserved n _ spent.reads held total ready))

end Spent

/-- How the next identifier is decided on, whatever the store holds. -/
structure Decides (a : Allocator) (st : Store) : Prop where
  within : a.segment.current.toInt ≤ a.segment.reserved.toInt
  /-- An identifier at hand is issued without the store, and it is one more than the last. -/
  atHand : a.segment.current.toInt < a.segment.reserved.toInt →
    a.issueNext st = (.ok (a.segment.current + 1),
        { a with segment := { a.segment with current := a.segment.current + 1 } }, st) ∧
      (a.segment.current + 1).toInt = a.segment.current.toInt + 1
  crash : a.segment.reserved.toInt ≤ a.segment.current.toInt → a.key ∈ st.contents.crashing →
    a.ask st = (.error .crash, a, st.contents)
  missing : a.Spent st → st.counterBytes? a.key = none →
    a.ask st = (.error (.fault (.missing a.key)), a, st.contents)
  corrupt : a.Spent st → ∀ bytes, st.counterBytes? a.key = some bytes → bytes.length ≠ 8 →
    a.ask st = (.error (.fault (.corrupt a.key)), a, st.contents)
  /-- No failure to come is used up. -/
  overflow : a.Spent st → ∀ n, st.counterValue? a.key = some n →
    Int64.maxValue.toInt < n.toInt + a.batchSize.toInt →
    a.ask st = (.error (.fault (.overflow a.key)), a, st.contents)
  failing : a.Spent st → ∀ n, st.counterValue? a.key = some n →
    n.toInt + a.batchSize.toInt ≤ Int64.maxValue.toInt →
    ∀ failing, st.contents.failingIncrements = failing + 1 →
      a.ask st = (.error (.fault (.unavailable (.increment a.key))), a,
        { st.contents with failingIncrements := failing })
  /-- The counter moves on by a batch, and what lies in between is reserved. -/
  renewed : a.Spent st → ∀ n, st.counterValue? a.key = some n →
    n.toInt + a.batchSize.toInt ≤ Int64.maxValue.toInt → st.contents.failingIncrements = 0 →
    ∃ sum : Int64, sum.toInt = n.toInt + a.batchSize.toInt ∧ (n + 1).toInt = n.toInt + 1 ∧
      a.ask st = (.ok (n + 1), { a with segment := ⟨n + 1, sum⟩ }, st.contents.write a.key sum)

theorem issueNext_atHand (left : a.segment.current.toInt < a.segment.reserved.toInt)
    (st : Store) : a.issueNext st = (.ok (a.segment.current + 1),
      { a with segment := { a.segment with current := a.segment.current + 1 } }, st) := by
  have available : ¬ a.segment.isExhausted := mt (isExhausted_iff _).mp (Int.not_le.mpr left)
  rw [issueNext, if_neg available]
  rfl

theorem Within.decides (within : a.Within) (st : Store) : a.Decides st where
  within := within.segment
  atHand left := ⟨issueNext_atHand left st, Counter.toInt_succ left⟩
  crash used crashes := Issues.ask_eq (.refused _ _ used (.crash crashes))
  missing := Spent.missing
  corrupt spent _ := spent.corrupt
  overflow spent _ := spent.overflow within
  failing spent _ held fits _ := spent.failing within held fits
  renewed spent _ := spent.renewed within

/-- Only where the counter would pass the last one is there an overflow. -/
theorem Within.overflow_iff (within : a.Within) (st : Store) :
    (a.issueNext st).1 = .error (.fault (.overflow a.key)) ↔
      a.Spent st ∧ ∃ n, st.counterValue? a.key = some n ∧
        Int64.maxValue.toInt < n.toInt + a.batchSize.toInt := by
  constructor
  · intro overflows
    have issues := a.issueNext_issues st
    rw [overflows] at issues
    obtain ⟨-, used, reserves⟩ := issues.refusal
    generalize (a.issueNext st).2.2.contents = c' at reserves
    cases reserves with
    | overflow n reads held outside =>
        have past := mt (contains_add_iff within.batchSize).mpr outside
        exact ⟨⟨used, reads⟩, n, Store.contents_counter?_eq_value_iff.mp held, Int.not_le.mp past⟩
  · rintro ⟨spent, n, held, past⟩
    exact congrArg Prod.fst (spent.overflow within held past)

/-! ## Up to the last identifier -/

theorem issues_reserved (left : a.segment.current.toInt < a.segment.reserved.toInt) (st : Store) :
    ∃ a', Becomes a a' ∧ (a'.issueNext st).1 = .ok a.segment.reserved := by
  obtain ⟨more, distance⟩ := Int.eq_ofNat_of_zero_le (Int.sub_nonneg_of_le (Int.le_of_lt left))
  induction more generalizing a with
  | zero => omega
  | succ more ih =>
      have issued := issueNext_atHand left st
      have next := Counter.toInt_succ left
      by_cases last : a.segment.current.toInt + 1 = a.segment.reserved.toInt
      · have same : a.segment.current + 1 = a.segment.reserved :=
          Int64.toInt_inj.mp (next.trans last)
        exact ⟨a, .unused, by rw [issued, same]⟩
      · let a₁ := a.operate st .issueNext
        have shape : a₁ =
            { a with segment := { a.segment with current := a.segment.current + 1 } } := by
          simp only [a₁, operate, issued]
        have reserved : a₁.segment.reserved = a.segment.reserved := by rw [shape]
        have current : a₁.segment.current.toInt = a.segment.current.toInt + 1 := by
          rw [shape]
          exact next
        obtain ⟨a', becomes, issues⟩ := @ih a₁ (by rw [reserved]; omega) (by rw [reserved]; omega)
        exact ⟨a', .trans (.used .unused .issueNext st) becomes, reserved ▸ issues⟩

theorem Spent.issues_batch (spent : a.Spent st) (within : a.Within) {n sum : Int64}
    (held : st.counterValue? a.key = some n) (ready : st.contents.failingIncrements = 0)
    (total : sum.toInt = n.toInt + a.batchSize.toInt) :
    ∃ a', Becomes a a' ∧ (a'.issueNext st).1 = .ok sum := by
  have positive := within.batchSize
  have fits : n.toInt + a.batchSize.toInt ≤ Int64.maxValue.toInt :=
    total ▸ Int.le_of_lt_add_one sum.toInt_lt
  obtain ⟨sum', total', next, asked⟩ := spent.renewed within held fits ready
  obtain rfl : sum' = sum := Int64.toInt_inj.mp (total'.trans total.symm)
  have issued : (a.issueNext st).1 = .ok (n + 1) := congrArg Prod.fst asked
  by_cases single : a.batchSize.toInt = 1
  · have same : n + 1 = sum' := Int64.toInt_inj.mp (by omega)
    exact ⟨a, .unused, same ▸ issued⟩
  · have after : a.operate st .issueNext = { a with segment := ⟨n + 1, sum'⟩ } :=
      congrArg (·.2.1) asked
    have left : (n + 1).toInt < sum'.toInt := by omega
    obtain ⟨a', becomes, issues⟩ := @issues_reserved (a.operate st .issueNext) (after ▸ left) st
    rw [after] at issues
    exact ⟨a', .trans (.used .unused .issueNext st) becomes, issues⟩

/-- The last counter is an identifier like others: with the counter one batch below it, it is
issued. -/
theorem Within.issues_maxValue (within : a.Within) :
    ∃ a' st, Becomes a a' ∧ (a'.issueNext st).1 = .ok Int64.maxValue := by
  have last : Int64.maxValue.toInt = 9223372036854775807 := rfl
  have below : Range.int64.Contains (Int64.maxValue.toInt - a.batchSize.toInt) := by
    have positive := within.batchSize
    have high := a.batchSize.toInt_lt
    simp only [Range.Contains, Range.int64]
    omega
  let base := Int64.ofInt (Int64.maxValue.toInt - a.batchSize.toInt)
  let st : Store :=
    .persistent { counters := Table.insert {} (Text.utf8 a.key) (Counter.encode base) }
  -- a move leaves nothing at hand, wherever it goes
  let a₁ := a.operate st (.moveTo 0 false)
  have shape : a₁ = { a with segment := ⟨0, 0⟩ } := (a.moveTo_unforced 0 st).2.1
  have spent : a₁.Spent st := ⟨by simp [shape], List.not_mem_nil⟩
  have held : st.counterValue? a₁.key = some base := by
    simp [shape, st, Store.counterValue?, Store.counterBytes?, Store.counterBytes]
  have total : Int64.maxValue.toInt = base.toInt + a₁.batchSize.toInt := by
    have value : base.toInt = _ := Counter.toInt_ofInt below
    simp only [value, shape]
    omega
  obtain ⟨a', becomes, issues⟩ := spent.issues_batch (within.operate _) held rfl total
  exact ⟨a', st, .trans (.used .unused _ st) becomes, issues⟩

/-! ## The whole -/

/-- Whatever has been asked of an allocator since it was made, and however the stores were that it
found: it has not issued more than it has reserved, the next identifier is decided on by one condition
after the other, a batch is refused as too large exactly where the counter would pass the last one,
no step wraps, and the last counter can be issued. -/
theorem next_identifier_decided {key : String} {batchSize : Int64} {a₀ a : Allocator}
    (made : make key batchSize = .ok a₀) (becomes : Becomes a₀ a) :
    (∀ st, a.Decides st ∧
      ((a.issueNext st).1 = .error (.fault (.overflow a.key)) ↔
        a.Spent st ∧ ∃ n, st.counterValue? a.key = some n ∧
          Int64.maxValue.toInt < n.toInt + a.batchSize.toInt)) ∧
    ∃ a' st, Becomes a a' ∧ (a'.issueNext st).1 = .ok Int64.maxValue := by
  have within : a.Within := becomes.within (make_ok made).2.within
  exact ⟨fun st => ⟨within.decides st, within.overflow_iff st⟩, within.issues_maxValue⟩

/-- A store that keeps one counter, with so many increments that are going to fail. -/
def oneCounter (n : Int64) (failing : Nat) : Store :=
  .volatile { counters := Table.insert {} "k" n, failingIncrements := failing }

/-- A batch of five behind the last counter but four does not fit, and the failure that is to come
stays to come. Behind the last but five it ends at the last counter. -/
theorem topBatch_decided :
    let a : Allocator := { key := "k", batchSize := 5, segment := ⟨7, 7⟩ }
    let full := oneCounter (Int64.maxValue - 4) 1
    let room := oneCounter (Int64.maxValue - 5) 0
    a.ask full = (.error (.fault (.overflow "k")), a, full.contents) ∧
      (∃ sum : Int64, sum.toInt = Int64.maxValue.toInt ∧
        a.ask room = (.ok (Int64.maxValue - 4), { a with segment := ⟨Int64.maxValue - 4, sum⟩ },
          room.contents.write "k" sum)) ∧
      ∃ a' st, Becomes a a' ∧ (a'.issueNext st).1 = .ok Int64.maxValue := by
  intro a full room
  have made : make "k" 5 = .ok { key := "k", batchSize := 5 } := rfl
  have moved : Becomes { key := "k", batchSize := 5 } a := .used .unused (.moveTo 7 true) full
  obtain ⟨decides, last⟩ := next_identifier_decided made moved
  have spentFull : a.Spent full := ⟨by decide, by decide⟩
  have spentRoom : a.Spent room := ⟨by decide, by decide⟩
  have overflows :=
    (decides full).1.overflow spentFull (Int64.maxValue - 4) (by decide) (by decide)
  obtain ⟨sum, total, -, asked⟩ :=
    (decides room).1.renewed spentRoom (Int64.maxValue - 5) (by decide) (by decide) rfl
  have first : Int64.maxValue - 5 + 1 = Int64.maxValue - 4 := by decide
  rw [first] at asked
  exact ⟨overflows, ⟨sum, total, asked⟩, last⟩

end IdService.Allocator
