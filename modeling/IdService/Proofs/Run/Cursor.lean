import IdService.Log.Plain
import IdService.Proofs.Run.Coupling
import IdService.Proofs.Service.Isolation

/-! # Where the cursor goes back

The cursor of an allocator is the last identifier that it has issued. A move puts it anywhere, and
whatever else happens leaves it or takes it on, with one exception. An allocator that a restart has
made has issued nothing, and its cursor is at zero wherever the counter is. With the first identifier
it gets to the counter, and where that is negative, this may be a way back.
-/

namespace IdService

open Text Wire

namespace Record

variable {key : String} {x : Record}

theorem moved?_eq_some_iff {value : Int} :
    x.moved? key = some value ↔ x.mark? key = some (.moved value) := by
  refine ⟨mark?_of_moved, fun mark => ?_⟩
  rw [moved?, mark]
  rfl

theorem issued?_eq_some_iff {id : Int} :
    x.issued? key = some id ↔ x.mark? key = some (.issued id) := by
  refine ⟨fun issued => ?_, fun mark => by rw [issued?, mark]; rfl⟩
  obtain ⟨mark, seen, means⟩ := Option.bind_eq_some_iff.mp issued
  cases mark with
  | issued => cases means; exact seen
  | moved | restarted => cases means

end Record

namespace Holding

variable {key : String} {h : Holding} {a a' : Allocator} {n n' : Int64}

theorem Step.current_issued {id : Int} (sound : Sound key h)
    (step : Step key (some (.issued id)) h ⟨some a', some (.value n'), true⟩) :
    a'.segment.current.toInt = id := by
  cases step with
  | issued b _ left => exact Counter.toInt_succ left
  | renewed b n _ used total =>
      obtain ⟨-, -, positive, -⟩ := sound.cases_present
      exact Counter.toInt_succ (b := n') (by omega)

theorem Step.current_moved {value : Int}
    (step : Step key (some (.moved value)) h ⟨some a', some (.value n'), true⟩) :
    a'.segment.current.toInt = value := by
  cases step with
  | moved => rfl

/-- An identifier is issued ahead of the cursor, or it is the first that a new allocator issues. -/
theorem Step.issued_ahead {id : Int} (sound : Sound key ⟨some a, some (.value n), true⟩)
    (step : Step key (some (.issued id)) ⟨some a, some (.value n), true⟩ h) :
    a.segment.current.toInt < id ∨ a.segment = {} ∧ id = n.toInt + 1 := by
  cases step with
  | issued _ _ left => exact .inl (Int.lt_add_one_of_le (Int.le_refl _))
  | renewed _ _ sum used total =>
      obtain ⟨-, -, -, anew | ⟨rfl, le, -⟩⟩ := sound.cases_present
      · exact .inr ⟨anew, rfl⟩
      · exact .inl (Int.lt_add_one_of_le le)

/-- What takes the cursor back, if the server goes on. -/
theorem Step.retreats_iff {mark : Option Mark} (sound : Sound key ⟨some a, some (.value n), true⟩)
    (step : Step key mark ⟨some a, some (.value n), true⟩ ⟨some a', some (.value n'), true⟩)
    (going : mark ≠ some .restarted) :
    a'.segment.current.toInt < a.segment.current.toInt ↔
      (∃ value, mark = some (.moved value) ∧ value < a.segment.current.toInt) ∨
      n.toInt < -1 ∧ a.segment = {} ∧ mark = some (.issued (n.toInt + 1)) := by
  cases mark with
  | none =>
      rcases step.last_none with same | gone
      · cases same
        simp
      · cases gone
  | some m =>
      cases m with
      | issued id =>
          have ahead := step.issued_ahead sound
          rw [step.current_issued sound]
          constructor
          · intro back
            rcases ahead with more | ⟨anew, rfl⟩
            · omega
            · have zero : a.segment.current.toInt = 0 := by rw [anew]; rfl
              exact .inr ⟨by omega, anew, rfl⟩
          · rintro (⟨value, other, -⟩ | ⟨low, anew, first⟩)
            · cases other
            · cases first
              have zero : a.segment.current.toInt = 0 := by rw [anew]; rfl
              omega
      | moved value =>
          rw [step.current_moved]
          simp
      | restarted => exact absurd rfl going

end Holding

theorem Service.find?_handle_get [Patterns] {s : Service} {r : Request} {key : String} {number : Nat}
    {a : Allocator} (numbered : s.issuer.Numbered) (about : r.counterKey? "GET" = some key)
    (found : s.issuer.find? key = some (number, a)) :
    ∃ a', (s.handle r).2.issuer.find? key = some (number, a') := by
  obtain ⟨a', -, finds, -⟩ := Issuer.issueNext_issues numbered found
  rw [handle_get_of_found about found]
  exact ⟨a', (finds key).trans (if_pos rfl)⟩

theorem Engine.run_coupled [Patterns] (engine : Engine) {c : Configuration}
    (runnable : 0 < c.batchSize.toInt) (events : List Event) (key : String) :
    ((engine.run c runnable events).2.issuer.holding key).Coupled key
      (engine.run c runnable events).1 := by
  obtain ⟨empty, sound⟩ := engine.launch_sound runnable
  have start : ((Service.launch c runnable engine.emptyStore).issuer.holding key).Coupled key [] := by
    intro a n present
    rw [empty] at present
    cases present
  exact Service.run_coupled sound start events

theorem Holding.Coupled.untouched {key : String} {journal : List Record} {a : Allocator} {n : Int64}
    (coupled : Coupled key journal ⟨some a, some (.value n), true⟩) (low : n.toInt < 0)
    (anew : a.segment = {}) : Untouched key journal := by
  rcases coupled a n rfl with ⟨rfl, -⟩ | ⟨-, untouched⟩
  · rw [anew] at low
    exact absurd low (by decide)
  · exact untouched

/-- In every state of a server a request takes the cursor of a registered key back for one of two
things only: the key is moved back, or it is asked for the first identifier after a restart and its
counter is below -1. Asking for an identifier, whatever comes of it, leaves the allocator where it
is. -/
theorem cursor_retreats_iff [Patterns] (engine : Engine) {c : Configuration}
    (runnable : 0 < c.batchSize.toInt) (events : List Event) (r : Request) (key : String) :
    let journal := (engine.run c runnable events).1
    let s := (engine.run c runnable events).2
    let x := (s.undergo (.request r)).1
    let s' := (s.undergo (.request r)).2
    ∀ number a, s.issuer.find? key = some (number, a) →
      (r.counterKey? "GET" = some key → ∃ a', s'.issuer.find? key = some (number, a')) ∧
      ∃ n : Int64, s.issuer.store.contents.counter? key = some (.value n) ∧
        ∀ number' a', s'.issuer.find? key = some (number', a') →
          (a'.segment.current.toInt < a.segment.current.toInt ↔
            (∃ value, x.moved? key = some value ∧ value < a.segment.current.toInt) ∨
            n.toInt < -1 ∧ a.segment = {} ∧ Untouched key journal ∧
              x.issued? key = some (n.toInt + 1)) := by
  intro journal s x s' number a found
  have sound : s.issuer.Sound := engine.run_sound runnable events
  have coupled : (s.issuer.holding key).Coupled key journal :=
    engine.run_coupled runnable events key
  obtain ⟨n, is⟩ := Issuer.holding_of_found sound found
  obtain ⟨steps, sound'⟩ := Service.undergo_steps sound (.request r)
  refine ⟨fun about => Service.find?_handle_get sound.numbered about found, n,
    congrArg Holding.counter? is, fun number' a' found' => ?_⟩
  obtain ⟨n', is'⟩ := Issuer.holding_of_found sound' found'
  have going : x.mark? key ≠ some .restarted := by
    intro mark
    have other : Record.answered r (s.handle r).1 = .restarted := Record.eq_restarted mark
    cases other
  have step := steps key
  have holding := sound.holdings key
  rw [is] at step holding coupled
  rw [is'] at step
  rw [step.retreats_iff holding going]
  simp only [Record.moved?_eq_some_iff, Record.issued?_eq_some_iff]
  refine or_congr_right (and_congr_right fun low => and_congr_right fun anew => ?_)
  rw [and_iff_right (coupled.untouched (by omega) anew)]

/-- A key whose counter is negative, and a restart. -/
def negativeRun : List Event :=
  [.ofTexts "SET" ["k", "-100"], .restart (.ofBatchSize 8) (by decide)]

/-- An identifier has been asked for and nothing been moved, and the cursor has gone from 0 to -99. -/
theorem negativeRun_retreats :
    let s := (Engine.volatile.run (.ofBatchSize 8) (by decide) negativeRun).2
    let x := (s.undergo (.ofTexts "GET" ["k"])).1
    let s' := (s.undergo (.ofTexts "GET" ["k"])).2
    ∃ a a', s.issuer.find? "k" = some (0, a) ∧ s'.issuer.find? "k" = some (0, a') ∧
      x.issued? "k" = some (-99) ∧ x.moved? "k" = none ∧
      ¬ a.segment.current.toInt ≤ a'.segment.current.toInt :=
  ⟨{ key := "k", batchSize := 8 }, { key := "k", batchSize := 8, segment := ⟨-99, -92⟩ },
    by decide +kernel, by decide +kernel, by decide +kernel, by decide +kernel, by decide⟩

/-- With the next one it goes on. -/
theorem negativeRun_advances :
    let events := negativeRun ++ [.ofTexts "GET" ["k"]]
    let s := (Engine.volatile.run (.ofBatchSize 8) (by decide) events).2
    ∃ a', (s.undergo (.ofTexts "GET" ["k"])).2.issuer.find? "k" = some (0, a') ∧
      -99 ≤ a'.segment.current.toInt := by
  intro events s
  have found : s.issuer.find? "k" =
      some (0, { key := "k", batchSize := 8, segment := ⟨-99, -92⟩ }) := by decide +kernel
  obtain ⟨stays, n, -, retreats⟩ := cursor_retreats_iff .volatile (c := .ofBatchSize 8) (by decide)
    events ⟨utf8 "GET", [utf8 "k"]⟩ "k" 0 _ found
  obtain ⟨a', found'⟩ := stays (by decide +kernel)
  refine ⟨a', found', Int.not_lt.mp fun back => ?_⟩
  rcases (retreats 0 a' found').mp back with ⟨value, moved, -⟩ | ⟨-, anew, -⟩
  · have still : (s.undergo (.ofTexts "GET" ["k"])).1.moved? "k" = none := by decide +kernel
    rw [show (s.undergo (.request ⟨utf8 "GET", [utf8 "k"]⟩)).1.moved? "k" = none from still] at moved
    cases moved
  · exact absurd anew (by decide)

end IdService
