import IdService.Proofs.Run.Identifiers

/-! # A restart wastes less than a batch

An allocator that has worked since the last restart stands on the counter: the last identifier it
has reserved is the counter in the store, and less than a batch is left to issue. One that has not
worked has nothing at hand. Whichever it is, a restart goes on behind the counter, so what is
skipped is what was left, and nothing if nothing was reserved.
-/

namespace IdService

/-- Since some restart, no identifier of the key was issued and the key was not moved. A batch is
reserved for nothing but to issue from it at once, so none was reserved either. -/
def Untouched (key : String) (journal : List Record) : Prop :=
  ∃ before after, journal = before ++ .restarted :: after ∧
    ∀ x ∈ after, x.issued? key = none ∧ x.moved? key = none

theorem Untouched.append {key : String} {journal : List Record} (untouched : Untouched key journal)
    {x : Record} (quiet : x.mark? key = none) : Untouched key (journal ++ [x]) := by
  obtain ⟨before, after, rfl, still⟩ := untouched
  refine ⟨before, after ++ [x], by simp, ?_⟩
  intro y member
  rcases List.mem_append.mp member with old | new
  · exact still y old
  · obtain rfl := List.mem_singleton.mp new
    simp [Record.issued?, Record.moved?, quiet]

theorem Record.eq_restarted {key : String} {x : Record} (mark : x.mark? key = some .restarted) :
    x = .restarted := by
  unfold mark? at mark
  split at mark
  · split at mark
    · obtain ⟨id, -, other⟩ := Option.map_eq_some_iff.mp mark
      cases other
    · cases mark
  · split at mark
    · obtain ⟨value, -, other⟩ := Option.map_eq_some_iff.mp mark
      cases other
    · cases mark
  · cases mark
  · cases mark
  · rfl

namespace Holding

variable {key : String} {h h' : Holding}

/-- A registered key has a settled allocator, or one that the journal says has not worked. -/
def Coupled (key : String) (journal : List Record) (h : Holding) : Prop :=
  ∀ a n, h = ⟨some a, some (.value n), true⟩ →
    a.Settled n ∨ a.segment = {} ∧ Untouched key journal

theorem Step.coupled {journal : List Record} {x : Record}
    (step : Step key (x.mark? key) h h') (sound : Sound key h) (coupled : h.Coupled key journal) :
    h'.Coupled key (journal ++ [x]) := by
  intro a n is
  cases mark : x.mark? key with
  | none =>
      rw [mark] at step
      rcases step.last_none with same | gone
      · rcases coupled a n (same ▸ is) with settled | ⟨start, untouched⟩
        · exact .inl settled
        · exact .inr ⟨start, untouched.append mark⟩
      · rw [gone] at is
        cases is
  | some m =>
      rw [mark] at step
      cases step with
      | issued b n' left =>
          cases is
          exact .inl (Allocator.settled_issue (sound.settled_of_atHand left) left)
      | renewed b n' sum used total =>
          cases is
          obtain ⟨-, -, positive, -⟩ := sound.cases_present
          exact .inl (Allocator.settled_renew positive total)
      | moved _ b value counterKey same positive =>
          cases is
          exact .inl (Allocator.settled_move n positive)
      | restarted b n' batchSize positive =>
          cases is
          refine .inr ⟨rfl, journal, [], ?_, ?_⟩
          · rw [Record.eq_restarted mark]
          · intro y member
            cases member
      | restartedAbsent => cases is

/-! ## Going on behind the counter -/

/-- The key is gone, or its counter is `n` and nothing is at hand. -/
def Rests (n : Int64) (h : Holding) : Prop :=
  h = {} ∨ ∃ a, h = ⟨some a, some (.value n), true⟩ ∧ a.segment = {}

theorem Rests.above {n : Int64} (rests : h.Rests n) : h.Above n.toInt := by
  intro l last
  rcases rests with rfl | ⟨a, rfl, start⟩
  · cases last
  · have used : a.segment.reserved.toInt ≤ a.segment.current.toInt := by simp [start]
    simp only [last?, Allocator.last_of_exhausted used, Option.some.injEq] at last
    exact Int.le_of_eq last

theorem Step.rests_issued {n : Int64} {id : Int} (step : Step key (some (.issued id)) h h')
    (rests : h.Rests n) : id = n.toInt + 1 := by
  rcases rests with rfl | ⟨a, rfl, start⟩
  · cases step
  · cases step with
    | issued _ _ left => simp [start] at left
    | renewed => rfl

theorem Step.rests_none {n : Int64} (step : Step key none h h') (rests : h.Rests n) :
    h'.Rests n := by
  rcases step.last_none with rfl | gone
  · exact rests
  · exact .inl gone

theorem Step.rests_restarted {n : Int64} (step : Step key (some .restarted) h h')
    (rests : h.Rests n) : h'.Rests n := by
  rcases rests with rfl | ⟨a, rfl, start⟩
  · cases step
    exact .inl rfl
  · cases step with
    | restarted _ _ batchSize positive => exact .inr ⟨_, rfl, rfl⟩

end Holding

namespace Service

variable [Patterns] {s : Service} {key : String}

theorem run_coupled (sound : s.issuer.Sound) {past : List Record}
    (coupled : (s.issuer.holding key).Coupled key past) (events : List Event) :
    ((s.run events).2.issuer.holding key).Coupled key (past ++ (s.run events).1) := by
  induction events generalizing s past with
  | nil =>
      rw [show (s.run []).1 = [] from rfl, List.append_nil]
      exact coupled
  | cons e rest ih =>
      obtain ⟨steps, sound'⟩ := undergo_steps sound e
      have here := (steps key).coupled (sound.holdings key) coupled
      have later := ih sound' here
      rw [List.append_assoc] at later
      exact later

/-- As long as the key is not moved, the next identifier of it is the one after `n`, and none up to
`n` is issued. -/
def Resumes (s : Service) (key : String) (n : Int) : Prop :=
  ∀ events, (∀ x ∈ (s.run events).1, x.moved? key = none) →
    (∀ id ∈ ((s.run events).1.filterMap (·.issued? key)).head?, id = n + 1) ∧
      ∀ id ∈ (s.run events).1.filterMap (·.issued? key), n < id

theorem run_first (sound : s.issuer.Sound) {n : Int64} (rests : (s.issuer.holding key).Rests n)
    (events : List Event) (still : ∀ x ∈ (s.run events).1, x.moved? key = none) :
    ∀ id ∈ ((s.run events).1.filterMap (·.issued? key)).head?, id = n.toInt + 1 := by
  induction events generalizing s with
  | nil =>
      intro id member
      cases member
  | cons e rest ih =>
      obtain ⟨steps, sound'⟩ := undergo_steps sound e
      have step := steps key
      have here := still (s.undergo e).1 (List.mem_cons_self ..)
      have later : ∀ x ∈ ((s.undergo e).2.run rest).1, x.moved? key = none := fun x member =>
        still x (List.mem_cons_of_mem _ member)
      have journal : (s.run (e :: rest)).1 = (s.undergo e).1 :: ((s.undergo e).2.run rest).1 := rfl
      rw [journal]
      cases mark : (s.undergo e).1.mark? key with
      | none =>
          rw [mark] at step
          rw [List.filterMap_cons_none (by simp [Record.issued?, mark])]
          exact ih sound' (step.rests_none rests) later
      | some m =>
          rw [mark] at step
          cases m with
          | issued id =>
              rw [List.filterMap_cons_some (b := id) (by simp [Record.issued?, mark, Mark.issued?])]
              intro id' member
              cases member
              exact step.rests_issued rests
          | moved value => simp [Record.moved?, mark, Mark.moved?] at here
          | restarted =>
              rw [List.filterMap_cons_none (by simp [Record.issued?, mark, Mark.issued?])]
              exact ih sound' (step.rests_restarted rests) later

theorem resumes_of_rests (sound : s.issuer.Sound) {n : Int64}
    (rests : (s.issuer.holding key).Rests n) : s.Resumes key n.toInt := by
  intro events still
  refine ⟨run_first sound rests events still, ?_⟩
  intro id member
  exact List.rel_of_pairwise_cons (run_ascends sound rests.above events still) member

theorem launch_resumes (sound : s.issuer.Sound) {number : Nat} {a : Allocator}
    (found : s.issuer.find? key = some (number, a)) {n : Int64}
    (held : s.issuer.store.contents.counter? key = some (.value n)) {c : Configuration}
    (runnable : 0 < c.batchSize.toInt) :
    (launch c runnable s.issuer.store).Resumes key n.toInt := by
  obtain ⟨steps, sound'⟩ := launch_restarts sound runnable
  obtain ⟨n', is⟩ := Issuer.holding_of_found sound found
  have held' : some (Entry.value n) = some (Entry.value n') :=
    held.symm.trans (congrArg Holding.counter? is)
  cases held'
  have step := steps key
  rw [is] at step
  refine resumes_of_rests sound' ?_
  generalize (launch c runnable s.issuer.store).issuer.holding key = h at step
  cases step with
  | restarted _ _ batchSize positive => exact .inr ⟨_, rfl, rfl⟩

end Service

variable {engine : Engine} {c : Configuration} {runnable : 0 < c.batchSize.toInt}

/-- At every moment of a run from an empty store, a registered key has an allocator and a counter.
The allocator has not worked since some restart and has nothing at hand, so that the key goes on
behind the counter; or the counter is the last identifier reserved, and less than a batch is left.
After a restart the key goes on behind the counter in either case. -/
theorem segment_coupled [Patterns] {events : List Event} {key : String}
    (registered : key ∈ (engine.run c runnable events).2.issuer.registry.keys) :
    ∃ number a, ∃ n : Int64,
      (engine.run c runnable events).2.issuer.find? key = some (number, a) ∧
      (engine.run c runnable events).2.issuer.store.contents.counter? key = some (.value n) ∧
      (a.segment = {} ∧ Untouched key (engine.run c runnable events).1 ∧
          (engine.run c runnable events).2.Resumes key n.toInt ∨
        n = a.segment.reserved ∧ 0 ≤ a.segment.reserved.toInt - a.segment.current.toInt ∧
          a.segment.reserved.toInt - a.segment.current.toInt ≤ a.batchSize.toInt - 1) ∧
      ∀ c' runnable', (Service.launch c' runnable'
        (engine.run c runnable events).2.issuer.store).Resumes key n.toInt := by
  obtain ⟨empty, soundStart⟩ := engine.launch_sound runnable
  have sound := engine.run_sound runnable events
  have found : ((engine.run c runnable events).2.issuer.find? key).isSome := by
    rw [Issuer.mem_registry_keys sound.numbered, Issuer.holding, Option.isSome_map] at registered
    exact registered
  obtain ⟨⟨number, a⟩, found⟩ := Option.isSome_iff_exists.mp found
  obtain ⟨n, is⟩ := Issuer.holding_of_found sound found
  have held : (engine.run c runnable events).2.issuer.store.contents.counter? key =
      some (.value n) := congrArg Holding.counter? is
  have start : ((Service.launch c runnable engine.emptyStore).issuer.holding key).Coupled key [] := by
    intro b m present
    rw [empty] at present
    cases present
  have coupled := Service.run_coupled soundStart start events
  refine ⟨number, a, n, found, held, ?_, fun c' runnable' =>
    Service.launch_resumes sound found held runnable'⟩
  rcases coupled a n is with ⟨same, le, small⟩ | ⟨anew, untouched⟩
  · exact .inr ⟨same.symm, Int.sub_nonneg_of_le le, small⟩
  · exact .inl ⟨anew, untouched, Service.resumes_of_rests sound (.inr ⟨a, is, anew⟩)⟩

/-- A key with part of a batch issued. -/
def partialRun : List Event := [.ofTexts "SET" ["k", "10"], .ofTexts "GET" ["k"]]

theorem partialRun_coupled :
    (Engine.persistent.run (.ofBatchSize 3) (by decide) partialRun).2.issuer.find? "k" =
        some (0, { key := "k", batchSize := 3, segment := ⟨11, 13⟩ }) ∧
      (Service.launch (.ofBatchSize 2) (by decide) (Engine.persistent.run (.ofBatchSize 3)
        (by decide) partialRun).2.issuer.store).Resumes "k" 13 := by
  have registered : "k" ∈ (Engine.persistent.run (.ofBatchSize 3) (by decide)
      partialRun).2.issuer.registry.keys := by decide +kernel
  have counter : (Engine.persistent.run (.ofBatchSize 3) (by decide)
      partialRun).2.issuer.store.contents.counter? "k" = some (.value 13) := by decide +kernel
  obtain ⟨number, a, n, found, held, -, resumes⟩ := segment_coupled registered
  rw [counter] at held
  cases held
  exact ⟨by decide +kernel, resumes _ _⟩

end IdService
