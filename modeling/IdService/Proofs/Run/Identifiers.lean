import IdService.Log.Plain
import IdService.Proofs.Run

/-! # No identifier is issued twice

What a key has issued last never goes down unless the key is moved, and the next identifier is
above it. A restart may skip identifiers but goes back behind none, because the counter in the store
is the last one that was reserved.
-/

namespace IdService

open Wire

namespace Holding

variable {key : String} {h h' : Holding} {b : Int}

/-- The last identifier, if there is one, is not below `b`. -/
def Above (b : Int) (h : Holding) : Prop := ∀ l, h.last? = some l → b ≤ l

theorem Step.above_issued {id : Int} (step : Step key (some (.issued id)) h h')
    (sound : Sound key h) (above : h.Above b) : b < id ∧ h'.Above id := by
  obtain ⟨before, after⟩ := step.last_issued sound
  have reached := above (id - 1) before
  refine ⟨by omega, ?_⟩
  intro l last
  rw [after] at last
  cases last
  exact Int.le_refl id

theorem Step.above_none (step : Step key none h h') (above : h.Above b) : h'.Above b := by
  rcases step.last_none with same | gone
  · rw [same]
    exact above
  · rw [gone]
    intro l last
    cases last

theorem Step.above_restarted (step : Step key (some .restarted) h h') (sound : Sound key h)
    (above : h.Above b) : h'.Above b := by
  intro m after
  obtain ⟨l, last, le⟩ := step.last_restarted sound after
  exact Int.le_trans (above l last) le

end Holding

namespace Service

/-- Identifiers of a key that is not moved ascend, from where it stands. -/
theorem run_ascends [Patterns] {s : Service} (sound : s.issuer.Sound) {key : String} {b : Int}
    (above : (s.issuer.holding key).Above b) (events : List Event)
    (still : ∀ x ∈ (s.run events).1, x.moved? key = none) :
    (b :: (s.run events).1.filterMap (·.issued? key)).Pairwise (· < ·) := by
  induction events generalizing s b with
  | nil => exact List.pairwise_singleton _ b
  | cons e rest ih =>
      obtain ⟨steps, sound'⟩ := undergo_steps sound e
      have step := steps key
      have here := still (s.undergo e).1 (List.mem_cons_self ..)
      have later : ∀ x ∈ ((s.undergo e).2.run rest).1, x.moved? key = none := fun x member =>
        still x (List.mem_cons_of_mem _ member)
      have journal : (s.run (e :: rest)).1 = (s.undergo e).1 :: ((s.undergo e).2.run rest).1 := rfl
      rw [journal]
      cases mark : (s.undergo e).1.mark? key with
      | none =>
          rw [mark] at step
          have quiet : (s.undergo e).1.issued? key = none := by simp [Record.issued?, mark]
          rw [List.filterMap_cons_none quiet]
          exact ih sound' (step.above_none above) later
      | some m =>
          rw [mark] at step
          cases m with
          | issued id =>
              have issued : (s.undergo e).1.issued? key = some id := by
                simp [Record.issued?, mark, Mark.issued?]
              obtain ⟨less, above'⟩ := step.above_issued (sound.holdings key) above
              have ascends := ih sound' above' later
              rw [List.filterMap_cons_some issued]
              refine List.pairwise_cons.mpr ⟨?_, ascends⟩
              intro id' member
              rcases List.mem_cons.mp member with rfl | after
              · exact less
              · exact Int.lt_trans less (List.rel_of_pairwise_cons ascends after)
          | moved value =>
              simp [Record.moved?, mark, Mark.moved?] at here
          | restarted =>
              have quiet : (s.undergo e).1.issued? key = none := by
                simp [Record.issued?, mark, Mark.issued?]
              rw [List.filterMap_cons_none quiet]
              exact ih sound' (step.above_restarted (sound.holdings key) above) later

end Service

variable {engine : Engine} {c : Configuration} {runnable : 0 < c.batchSize.toInt}

/-- In every run from an empty store, the identifiers that a key is answered with after a
successful SET and before the next one ascend, and all are greater than the value that was set. -/
theorem identifiers_ascend [Patterns] {events : List Event} {key : String} {value : Int} {x : Record}
    {before middle after : List Record}
    (journal : (engine.run c runnable events).1 = before ++ x :: (middle ++ after))
    (moved : x.moved? key = some value) (still : ∀ y ∈ middle, y.moved? key = none) :
    (value :: middle.filterMap (·.issued? key)).Pairwise (· < ·) := by
  obtain ⟨first, rest, rfl, -, cut⟩ := Service.run_split journal
  let s := ((Service.launch c runnable engine.emptyStore).run first).2
  have sound : s.issuer.Sound := engine.run_sound runnable first
  cases rest with
  | nil => cases cut
  | cons e rest =>
      obtain ⟨here, later⟩ := List.cons.inj cut
      obtain ⟨second, third, rfl, rfl, -⟩ := Service.run_split later
      obtain ⟨steps, sound'⟩ := Service.undergo_steps sound e
      have step := steps key
      rw [show (s.undergo e).1 = x from here, Record.mark?_of_moved moved] at step
      have above : ((s.undergo e).2.issuer.holding key).Above value := by
        intro l last
        rw [step.last_moved] at last
        cases last
        exact Int.le_refl value
      exact Service.run_ascends sound' above second still

/-- A key that is moved and issued from, with a restart in the middle of a batch. -/
def interruptedRun : List Event :=
  [.ofTexts "SET" ["k", "10"], .ofTexts "GET" ["k"], .ofTexts "GET" ["k"],
    .restart (.ofBatchSize 2) (by decide), .ofTexts "GET" ["k"]]

theorem interruptedRun_ascends :
    let journal := (Engine.volatile.run (.ofBatchSize 3) (by decide) interruptedRun).1
    journal.map (·.mark? "k") = [some (.moved 10), some (.issued 11), some (.issued 12),
        some .restarted, some (.issued 14)] ∧
      (10 :: journal.tail.filterMap (·.issued? "k")).Pairwise (· < ·) := by
  intro journal
  have cut : journal = [] ++ .answered ⟨Text.utf8 "SET", [Text.utf8 "k", Text.utf8 "10"]⟩
      (.reply .ok) :: (journal.tail ++ []) := by decide +kernel
  exact ⟨by decide +kernel, identifiers_ascend cut (by decide +kernel) (by decide +kernel)⟩

end IdService
