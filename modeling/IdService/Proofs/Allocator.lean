import IdService.Allocator
import IdService.Proofs.Store.Contents

/-! # What allocators do

Each way an operation of an allocator can end is one constructor, under the whole condition for
that end, in the order in which the conditions are looked at. The identifiers at hand and the
counter in the store meet in one number, the last identifier before the next one.
-/

namespace IdService.Allocator

open Numeral (Range)

/-- What comes of reserving a batch, and what the store holds then. -/
inductive Reserves (a : Allocator) (c : Contents) : Except Halt Segment → Contents → Prop where
  | crash : a.key ∈ c.crashing → Reserves a c (.error .crash) c
  | missing : a.key ∉ c.crashing → c.counter? a.key = none →
      Reserves a c (.error (.fault (.missing a.key))) c
  | corrupt : a.key ∉ c.crashing → c.counter? a.key = some .corrupt →
      Reserves a c (.error (.fault (.corrupt a.key))) c
  | overflow (n : Int64) : a.key ∉ c.crashing → c.counter? a.key = some (.value n) →
      ¬ Range.int64.Contains (n.toInt + a.batchSize.toInt) →
      Reserves a c (.error (.fault (.overflow a.key))) c
  | failing (n : Int64) (failing : Nat) : a.key ∉ c.crashing →
      c.counter? a.key = some (.value n) →
      Range.int64.Contains (n.toInt + a.batchSize.toInt) → c.failingIncrements = failing + 1 →
      Reserves a c (.error (.fault (.unavailable (.increment a.key))))
        { c with failingIncrements := failing }
  | reserved (n sum : Int64) : a.key ∉ c.crashing → c.counter? a.key = some (.value n) →
      sum.toInt = n.toInt + a.batchSize.toInt → c.failingIncrements = 0 →
      Reserves a c (.ok ⟨n, sum⟩) (c.write a.key sum)

private theorem read_of_value {c : Contents} {key : String} {n : Int64}
    (read : c.read key = .ok n) : key ∉ c.crashing ∧ c.counter? key = some (.value n) := by
  unfold Contents.read at read
  split at read
  · cases read
  · rename_i reads
    refine ⟨reads, ?_⟩
    split at read
    · cases read
    · cases read
    · rename_i held
      cases read
      exact held

theorem reserveBatch_reserves (a : Allocator) (st : Store) :
    a.Reserves st.contents (a.reserveBatch st).1 (a.reserveBatch st).2.contents := by
  have readResult := st.readCounter_fst a.key
  have readContents := st.contents_readCounter a.key
  unfold reserveBatch
  rcases reading : st.readCounter a.key with ⟨result, after⟩
  rw [reading] at readResult readContents
  cases result with
  | error halt =>
      dsimp only
      rw [readContents]
      unfold Contents.read at readResult
      split at readResult
      · cases readResult
        exact .crash ‹_›
      · split at readResult
        · cases readResult
          exact .missing ‹_› ‹_›
        · cases readResult
          exact .corrupt ‹_› ‹_›
        · cases readResult
  | ok base =>
      obtain ⟨reads, held⟩ := read_of_value readResult.symm
      dsimp only
      cases total : Counter.add? base a.batchSize with
      | none =>
          dsimp only
          rw [readContents]
          exact .overflow base reads held (Counter.add?_eq_none.mp total)
      | some reserved =>
          have sum := Counter.add?_eq_some.mp total
          have within : Range.int64.Contains (base.toInt + a.batchSize.toInt) :=
            sum ▸ Counter.contains_toInt reserved
          have advanced := after.advance_contents a.key a.batchSize
          rw [readContents] at advanced
          unfold Contents.advance at advanced
          dsimp only
          rcases advancing : after.advance a.key a.batchSize with ⟨outcome, moved⟩
          rw [advancing] at advanced
          cases pending : st.contents.failingIncrements with
          | succ failing =>
              simp only [pending] at advanced
              obtain ⟨rfl, stands⟩ := Prod.mk.inj advanced
              dsimp only
              rw [stands]
              exact .failing base failing reads held within pending
          | zero =>
              simp only [pending, held, total] at advanced
              obtain ⟨rfl, stands⟩ := Prod.mk.inj advanced
              dsimp only
              rw [stands]
              exact .reserved base reserved reads held sum pending

/-- Where no failure is to come, an allocator that has a counter is refused for one thing only: the
batch does not fit. -/
theorem Reserves.overflow_of_error {a : Allocator} {c c' : Contents} {halt : Halt} {n : Int64}
    (reserves : a.Reserves c (.error halt) c') (faultless : c.Faultless)
    (held : c.counter? a.key = some (.value n)) :
    halt = .fault (.overflow a.key) ∧ ¬ Range.int64.Contains (n.toInt + a.batchSize.toInt) := by
  cases reserves with
  | crash crashes =>
      rw [faultless.reads] at crashes
      cases crashes
  | missing _ held' | corrupt _ held' =>
      rw [held] at held'
      cases held'
  | overflow m _ held' outside =>
      rw [held] at held'
      cases held'
      exact ⟨rfl, outside⟩
  | failing _ _ _ _ _ pending =>
      rw [faultless.increments] at pending
      cases pending

/-- The conditions exclude one another. -/
theorem Reserves.unique {a : Allocator} {c c' c'' : Contents} {result other : Except Halt Segment}
    (one : a.Reserves c result c') (two : a.Reserves c other c'') : other = result ∧ c'' = c' := by
  have fits : ∀ {n sum : Int64}, sum.toInt = n.toInt + a.batchSize.toInt →
      Range.int64.Contains (n.toInt + a.batchSize.toInt) := fun total =>
    total ▸ Counter.contains_toInt _
  cases one with
  | crash | missing | corrupt => cases two <;> simp_all
  | overflow n reads entry outside =>
      cases two with
      | reserved _ _ _ held total =>
          rw [entry] at held
          cases held
          exact absurd (fits total) outside
      | _ => simp_all
  | failing n failing reads entry within pending => cases two <;> simp_all
  | reserved n sum reads entry total ready =>
      cases two with
      | overflow _ _ held outside =>
          rw [entry] at held
          cases held
          exact absurd (fits total) outside
      | reserved _ sum' _ held total' =>
          rw [entry] at held
          cases held
          obtain rfl : sum' = sum := Int64.toInt_inj.mp (total'.trans total.symm)
          exact ⟨rfl, rfl⟩
      | _ => simp_all

/-- What comes of asking for the next identifier: the answer, the allocator and what the store
holds then. -/
inductive Issues (a : Allocator) (c : Contents) :
    Except Halt Int64 → Allocator → Contents → Prop where
  | atHand : a.segment.current.toInt < a.segment.reserved.toInt →
      Issues a c (.ok (a.segment.current + 1))
        { a with segment := { a.segment with current := a.segment.current + 1 } } c
  | refused (halt : Halt) (c' : Contents) : a.segment.reserved.toInt ≤ a.segment.current.toInt →
      a.Reserves c (.error halt) c' → Issues a c (.error halt) a c'
  | renewed (s : Segment) (c' : Contents) : a.segment.reserved.toInt ≤ a.segment.current.toInt →
      a.Reserves c (.ok s) c' →
      Issues a c (.ok (s.current + 1)) { a with segment := { s with current := s.current + 1 } } c'

theorem Issues.unique {a a' a'' : Allocator} {c c' c'' : Contents}
    {result other : Except Halt Int64} (one : a.Issues c result a' c')
    (two : a.Issues c other a'' c'') : other = result ∧ a'' = a' ∧ c'' = c' := by
  cases one with
  | atHand left =>
      cases two with
      | atHand => exact ⟨rfl, rfl, rfl⟩
      | refused _ _ used | renewed _ _ used => omega
  | refused halt _ used reserves =>
      cases two with
      | atHand left => omega
      | refused _ _ _ reserves' =>
          obtain ⟨same, rfl⟩ := reserves.unique reserves'
          cases same
          exact ⟨rfl, rfl, rfl⟩
      | renewed _ _ _ reserves' => cases (reserves.unique reserves').1
  | renewed s _ used reserves =>
      cases two with
      | atHand left => omega
      | refused _ _ _ reserves' => cases (reserves.unique reserves').1
      | renewed _ _ _ reserves' =>
          obtain ⟨same, rfl⟩ := reserves.unique reserves'
          cases same
          exact ⟨rfl, rfl, rfl⟩

theorem isExhausted_iff (s : Segment) : s.isExhausted ↔ s.reserved.toInt ≤ s.current.toInt := by
  simp [Segment.isExhausted, Int64.le_iff_toInt_le]

theorem issueNext_issues (a : Allocator) (st : Store) :
    a.Issues st.contents (a.issueNext st).1 (a.issueNext st).2.1 (a.issueNext st).2.2.contents := by
  unfold issueNext
  by_cases exhausted : a.segment.isExhausted
  · have used := (isExhausted_iff a.segment).mp exhausted
    have reserves := a.reserveBatch_reserves st
    rw [if_pos exhausted]
    rcases reserving : a.reserveBatch st with ⟨result, after⟩
    rw [reserving] at reserves
    cases result with
    | error halt => exact .refused halt _ used reserves
    | ok s => exact .renewed s _ used reserves
  · rw [if_neg exhausted]
    have left := mt (isExhausted_iff a.segment).mpr exhausted
    exact .atHand (by omega)

/-! ## Moving and retiring -/

theorem moveTo_unforced (a : Allocator) (value : Int64) (st : Store) :
    (a.moveTo value false st).1 = .ok () ∧
      (a.moveTo value false st).2.1 = { a with segment := ⟨value, value⟩ } ∧
      (a.moveTo value false st).2.2.contents = st.contents.write a.key value := by
  have ensured := st.contents_ensureCounter a.key
  have overwritten := (st.ensureCounter a.key).overwriteCounter_contents a.key value
  have there : (st.contents.ensure a.key).counters.contains (Text.utf8 a.key) := by
    unfold Contents.ensure
    split
    · assumption
    · simp [Contents.contains_eq]
  have same : (st.contents.ensure a.key).write a.key value = st.contents.write a.key value := by
    unfold Contents.ensure
    split
    · rfl
    · simp [Contents.write]
  rw [ensured, Contents.overwrite, if_pos there, same] at overwritten
  have moved : a.moveTo value false st = a.overwrite value st := rfl
  rw [moved]
  unfold overwrite
  rcases overwriting : (st.ensureCounter a.key).overwriteCounter a.key value with ⟨result, after⟩
  rw [overwriting] at overwritten
  obtain ⟨rfl, stands⟩ := Prod.mk.inj overwritten
  exact ⟨rfl, rfl, stands⟩

theorem overwrite_eq_ok (a : Allocator) (value : Int64) (st : Store) :
    (a.overwrite value st).1 = .ok () := (a.moveTo_unforced value st).1

theorem overwrite_allocator (a : Allocator) (value : Int64) (st : Store) :
    (a.overwrite value st).2.1 = { a with segment := ⟨value, value⟩ } :=
  (a.moveTo_unforced value st).2.1

theorem overwrite_store (a : Allocator) (value : Int64) (st : Store) :
    (a.overwrite value st).2.2 = ((st.ensureCounter a.key).overwriteCounter a.key value).2 := by
  unfold overwrite
  rcases (st.ensureCounter a.key).overwriteCounter a.key value with ⟨_ | _, after⟩
  · rfl
  · rfl

theorem retire_contents (a : Allocator) (st : Store) :
    ((a.retire st).1, (a.retire st).2.contents) = st.contents.remove a.key :=
  st.removeCounter_contents a.key

end IdService.Allocator
