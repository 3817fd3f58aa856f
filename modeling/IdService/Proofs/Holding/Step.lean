import IdService.Proofs.Holding

/-! # The life of one key

Seen from one key, everything that happens to a server is one of a few steps: an identifier is
issued from those at hand or from a new batch, the counter is moved, the key is dropped, or the
server starts anew. `Sound` says how the three records of a key hang together at all times, and
`last?` is the one number by which a client can tell where the key stands.
-/

namespace IdService

/-- A key that counters may have: it is not empty and names no setting. -/
def Command.IsCounterKey (key : String) : Prop :=
  key ≠ "" ∧ Command.settingName? key = none

namespace Allocator

/-- The counter in the store is the last identifier reserved, and less than a batch is left. -/
def Settled (a : Allocator) (n : Int64) : Prop :=
  a.segment.reserved = n ∧ a.segment.current.toInt ≤ a.segment.reserved.toInt ∧
    a.segment.reserved.toInt - a.segment.current.toInt ≤ a.batchSize.toInt - 1

/-- The identifier before the next one, the counter being `n`. -/
def last (a : Allocator) (n : Int64) : Int :=
  if a.segment.isExhausted then n.toInt else a.segment.current.toInt

variable {a : Allocator} {n : Int64}

theorem last_of_exhausted (used : a.segment.reserved.toInt ≤ a.segment.current.toInt) :
    a.last n = n.toInt := if_pos ((isExhausted_iff _).mpr used)

theorem last_of_atHand (left : a.segment.current.toInt < a.segment.reserved.toInt) :
    a.last n = a.segment.current.toInt :=
  if_neg (mt (isExhausted_iff _).mp (Int.not_le.mpr left))

theorem Settled.last_eq (settled : a.Settled n) : a.last n = a.segment.current.toInt := by
  obtain ⟨rfl, le, -⟩ := settled
  by_cases left : a.segment.current.toInt < a.segment.reserved.toInt
  · exact last_of_atHand left
  · rw [last_of_exhausted (by omega)]
    omega

theorem Settled.last_le (settled : a.Settled n) : a.last n ≤ n.toInt := by
  rw [settled.last_eq]
  obtain ⟨rfl, le, -⟩ := settled
  exact le

theorem settled_issue (settled : a.Settled n)
    (left : a.segment.current.toInt < a.segment.reserved.toInt) :
    Settled { a with segment := { a.segment with current := a.segment.current + 1 } } n := by
  obtain ⟨same, -, small⟩ := settled
  have next := Counter.toInt_succ left
  refine ⟨same, ?_, ?_⟩ <;> dsimp only <;> omega

theorem settled_renew {sum : Int64} (positive : 0 < a.batchSize.toInt)
    (total : sum.toInt = n.toInt + a.batchSize.toInt) :
    Settled { a with segment := ⟨n + 1, sum⟩ } sum := by
  have next : (n + 1).toInt = n.toInt + 1 := Counter.toInt_succ (b := sum) (by omega)
  refine ⟨rfl, ?_, ?_⟩ <;> dsimp only <;> omega

theorem settled_move (value : Int64) (positive : 0 < a.batchSize.toInt) :
    Settled { a with segment := ⟨value, value⟩ } value := by
  refine ⟨rfl, ?_, ?_⟩ <;> dsimp only <;> omega

end Allocator

/-- What an event means to one key. -/
inductive Mark where
  | issued (id : Int)
  | moved (value : Int)
  | restarted
deriving Repr, DecidableEq

namespace Holding

/-- How the records of a key hang together: none is there, or all are, and the allocator is as it
was made at the start or settled on the counter. -/
inductive Sound (key : String) : Holding → Prop where
  | absent : Sound key {}
  | fresh (batchSize n : Int64) : Command.IsCounterKey key → 0 < batchSize.toInt →
      Sound key ⟨some { key, batchSize }, some (.value n), true⟩
  | settled (a : Allocator) (n : Int64) : Command.IsCounterKey key → a.key = key →
      0 < a.batchSize.toInt → a.Settled n → Sound key ⟨some a, some (.value n), true⟩

/-- The steps of one key, under what they mean to it. -/
inductive Step (key : String) : Option Mark → Holding → Holding → Prop where
  | stays (h : Holding) : Step key none h h
  | dropped (h : Holding) : Step key none h {}
  | issued (a : Allocator) (n : Int64) : a.segment.current.toInt < a.segment.reserved.toInt →
      Step key (some (.issued (a.segment.current.toInt + 1))) ⟨some a, some (.value n), true⟩
        ⟨some { a with segment := { a.segment with current := a.segment.current + 1 } },
          some (.value n), true⟩
  | renewed (a : Allocator) (n sum : Int64) :
      a.segment.reserved.toInt ≤ a.segment.current.toInt →
      sum.toInt = n.toInt + a.batchSize.toInt →
      Step key (some (.issued (n.toInt + 1))) ⟨some a, some (.value n), true⟩
        ⟨some { a with segment := ⟨n + 1, sum⟩ }, some (.value sum), true⟩
  | moved (h : Holding) (a : Allocator) (value : Int64) : Command.IsCounterKey key → a.key = key →
      0 < a.batchSize.toInt →
      Step key (some (.moved value.toInt)) h
        ⟨some { a with segment := ⟨value, value⟩ }, some (.value value), true⟩
  | restarted (a : Allocator) (n batchSize : Int64) : 0 < batchSize.toInt →
      Step key (some .restarted) ⟨some a, some (.value n), true⟩
        ⟨some { key, batchSize }, some (.value n), true⟩
  | restartedAbsent : Step key (some .restarted) {} {}

/-- The identifier before the next one, if the key is registered. -/
def last? (h : Holding) : Option Int :=
  match h.allocator?, h.counter? with
  | some a, some (.value n) => some (a.last n)
  | _, _ => none

variable {key : String} {h h' : Holding}

theorem Sound.cases_present {a : Allocator} {n : Int64}
    (sound : Sound key ⟨some a, some (.value n), true⟩) :
    Command.IsCounterKey key ∧ a.key = key ∧ 0 < a.batchSize.toInt ∧
      (a.segment = {} ∨ a.Settled n) := by
  cases sound with
  | fresh batchSize _ counterKey positive => exact ⟨counterKey, rfl, positive, .inl rfl⟩
  | settled _ _ counterKey same positive settled => exact ⟨counterKey, same, positive, .inr settled⟩

theorem Sound.settled_of_atHand {a : Allocator} {n : Int64}
    (sound : Sound key ⟨some a, some (.value n), true⟩)
    (left : a.segment.current.toInt < a.segment.reserved.toInt) : a.Settled n := by
  obtain ⟨-, -, -, start | settled⟩ := sound.cases_present
  · simp [start] at left
  · exact settled

theorem Step.sound {mark : Option Mark} (step : Step key mark h h') (sound : Sound key h) :
    Sound key h' := by
  cases step with
  | stays => exact sound
  | dropped => exact .absent
  | issued a n left =>
      obtain ⟨counterKey, same, positive, -⟩ := sound.cases_present
      exact .settled _ n counterKey same positive
        (Allocator.settled_issue (sound.settled_of_atHand left) left)
  | renewed a n sum used total =>
      obtain ⟨counterKey, same, positive, -⟩ := sound.cases_present
      exact .settled _ sum counterKey same positive (Allocator.settled_renew positive total)
  | moved _ a value counterKey same positive =>
      exact .settled _ value counterKey same positive (Allocator.settled_move value positive)
  | restarted a n batchSize positive =>
      obtain ⟨counterKey, -⟩ := sound.cases_present
      exact .fresh batchSize n counterKey positive
  | restartedAbsent => exact .absent

/-! ## What a client sees of a step -/

theorem Step.last_issued {id : Int} (step : Step key (some (.issued id)) h h')
    (sound : Sound key h) : h.last? = some (id - 1) ∧ h'.last? = some id := by
  cases step with
  | issued a n left =>
      have settled := sound.settled_of_atHand left
      have next := Counter.toInt_succ left
      have after := (Allocator.settled_issue settled left).last_eq
      simp only [last?, settled.last_eq, after, next]
      exact ⟨congrArg some (by omega), trivial⟩
  | renewed a n sum used total =>
      obtain ⟨-, -, positive, -⟩ := sound.cases_present
      have next : (n + 1).toInt = n.toInt + 1 := Counter.toInt_succ (b := sum) (by omega)
      have after := (Allocator.settled_renew positive total).last_eq
      simp only [last?, Allocator.last_of_exhausted used, after, next]
      exact ⟨congrArg some (by omega), trivial⟩

theorem Step.last_moved {value : Int} (step : Step key (some (.moved value)) h h') :
    h'.last? = some value := by
  cases step with
  | moved _ a value counterKey same positive =>
      exact congrArg some (Allocator.settled_move value positive).last_eq

theorem Step.last_none (step : Step key none h h') : h' = h ∨ h' = {} := by
  cases step with
  | stays => exact .inl rfl
  | dropped => exact .inr rfl

theorem Step.absent (step : Step key none {} h') : h' = {} := by
  rcases step.last_none with same | gone
  · exact same
  · exact gone

/-- A new start never goes back behind an identifier. -/
theorem Step.last_restarted (step : Step key (some .restarted) h h') (sound : Sound key h)
    {m : Int} (after : h'.last? = some m) : ∃ l, h.last? = some l ∧ l ≤ m := by
  cases step with
  | restarted a n batchSize positive =>
      cases after
      refine ⟨a.last n, rfl, ?_⟩
      have anew : Allocator.last { key, batchSize } n = n.toInt :=
        Allocator.last_of_exhausted (Int.le_refl _)
      rw [anew]
      obtain ⟨-, -, -, start | settled⟩ := sound.cases_present
      · exact Int.le_of_eq (Allocator.last_of_exhausted (by simp [start]))
      · exact settled.last_le
  | restartedAbsent => cases after

end Holding
end IdService
