import IdService.Log.Plain
import IdService.Proofs.Service.Crashes

/-! # Settings over a run

A setting that is written is one that holds after a restart. What a request or a restart does to
settings is one of three things, and each keeps the store, the configuration and the registry of one
mind. The store goes by the last text that was written, so the next start does, too, whatever its
own command line says.
-/

namespace IdService

open Text Wire

variable {p q : Setting}

/-- The bytes that were written to a setting. -/
def Record.written? (p : Setting) : Record → Option Bytes
  | answered r (.reply (.status _)) =>
    if r.name = "SET" ∧ r.settingName? = some p.name then r.arg? 1 else none
  | _ => none

theorem Store.settings_disturb (st : Store) (d : Disturbance) :
    (st.disturb d).contents.settings = st.contents.settings := by
  cases st with
  | volatile st => cases d <;> rfl
  | persistent st => rfl

/-- The text saved for a setting: it has these bytes, and is a text of this value. -/
def Store.Saves [Patterns] (st : Store) (p : Setting) (bytes : Bytes) (v : p.Value) : Prop :=
  ∃ raw, utf8 raw = bytes ∧ st.saved? p = some raw ∧ p.kind.parse raw = .ok v

namespace Service

variable [Patterns]

/-- The bytes last written to a setting in a run, and the value it had right after. -/
def lastWritten? (p : Setting) (s : Service) : List Event → Option (Bytes × p.Value)
  | [] => none
  | e :: rest =>
    let (x, s') := s.undergo e
    (s'.lastWritten? p rest).or
      ((x.written? p).map fun bytes => (bytes, s'.settings.config.value p))

variable {s s' : Service} {x : Record}

/-! ## What an event does to settings -/

inductive Turn (s : Service) : Record → Service → Prop where
  | aside (x : Record) (s' : Service) : (∀ p, x.written? p = none) →
      s'.settings = s.settings → s.issuer.Aside s'.issuer → Turn s x s'
  | written (x : Record) (p : Setting) (v : p.Value) (raw : String) (s' : Service) :
      (∀ q, x.written? q = if q = p then some (utf8 raw) else none) → s.Written p v raw s' →
      Turn s x s'
  | restarted (c : Configuration) (runnable : 0 < c.batchSize.toInt) :
      Turn s .restarted (launch c runnable s.issuer.store)

omit [Patterns] in
private theorem written?_none {r : Request} {a : Answer}
    (other : r.name = "SET" → r.settingName? = none) (p : Setting) :
    (Record.answered r a).written? p = none := by
  unfold Record.written?
  split
  · rename_i same
    cases same
    refine if_neg ?_
    rintro ⟨named, about⟩
    rw [other named] at about
    cases about
  · rfl

theorem handle_turns (s : Service) (r : Request) :
    s.Turn (.answered r (s.handle r).1) (s.handle r).2 := by
  have configures := s.perform_configures r
  rw [handle_eq]
  generalize (s.perform r).1 = result, (s.perform r).2 = s' at configures
  cases configures with
  | refused halt =>
      refine .aside _ _ (fun _ => ?_) rfl (.refl _)
      cases halt <;> rfl
  | aside _ _ other same aside => exact .aside _ _ (written?_none other) same aside
  | written p v raw _ named about argument written =>
      refine .written _ p v raw _ ?_ written
      intro q
      simp only [Answer.ofResult, Reply.ok, Record.written?, named, about, argument, true_and,
        Option.some.injEq]
      by_cases here : q = p
      · rw [if_pos here, if_pos (congrArg Setting.name here.symm)]
      · rw [if_neg here, if_neg fun same => here (Setting.name_injective same.symm)]

theorem undergo_turns (s : Service) (e : Event) : s.Turn (s.undergo e).1 (s.undergo e).2 := by
  cases e with
  | request r => exact s.handle_turns r
  | disturb d =>
      refine .aside _ _ (fun _ => rfl) rfl ⟨?_, rfl⟩
      exact s.issuer.store.settings_disturb d
  | restart c runnable => exact .restarted c runnable

/-! ## What every event keeps -/

/-- The saved settings, the configuration and the registry are of one mind. -/
structure Settled (s : Service) : Prop where
  batchSize : s.issuer.registry.batchSize = s.settings.config.batchSize
  saved : ∀ p raw v, s.issuer.store.saved? p = some raw → p.kind.parse raw = .ok v →
    s.settings.config.cell p = (v, some raw)

theorem launch_settled {c : Configuration} (runnable : 0 < c.batchSize.toInt) (st : Store) :
    (launch c runnable st).Settled := by
  obtain ⟨config, batchSize, settings⟩ := launch_settings runnable st
  refine ⟨batchSize, ?_⟩
  intro p raw v saved parsed
  rw [Store.saved?_congr settings] at saved
  rw [config, Store.cell_overlay, saved]
  exact Configuration.lay_of_parse parsed _

theorem Written.cell_other {v : p.Value} {raw : String} (written : s.Written p v raw s')
    (other : q ≠ p) : s'.settings.config.cell q = s.settings.config.cell q := by
  rw [written.config, Configuration.cell_set_other _ other]

theorem Written.cell_same {v : p.Value} {raw : String} (written : s.Written p v raw s') :
    s'.settings.config.cell p = (v, some raw) := by
  rw [written.config, Configuration.cell_set_same]

theorem Written.saved?_same {v : p.Value} {raw : String} (written : s.Written p v raw s') :
    s'.issuer.store.saved? p = some raw := by
  rw [written.issuer]
  exact s.issuer.store.saved?_keepSetting_same p raw

theorem Written.saved?_other {v : p.Value} {raw : String} (written : s.Written p v raw s')
    (other : q ≠ p) : s'.issuer.store.saved? q = s.issuer.store.saved? q := by
  rw [written.issuer]
  exact s.issuer.store.saved?_keepSetting_other p raw other

theorem Turn.settled (turn : s.Turn x s') (settled : s.Settled) : s'.Settled := by
  cases turn with
  | aside _ _ _ same aside =>
      refine ⟨?_, ?_⟩
      · rw [aside.batchSize, same]
        exact settled.batchSize
      · intro p raw v saved parsed
        rw [Store.saved?_congr aside.settings] at saved
        rw [same]
        exact settled.saved p raw v saved parsed
  | written _ p v raw _ _ written =>
      refine ⟨?_, ?_⟩
      -- the registry is told of a new batch size and of nothing else
      · by_cases here : p = .batchSize
        · rw [written.issuer]
          exact if_pos here
        · have kept : s'.settings.config.batchSize = s.settings.config.batchSize :=
            congrArg Prod.fst (written.cell_other (Ne.symm here))
          rw [kept, ← settled.batchSize, written.issuer]
          exact if_neg here
      · intro q raw' v' saved parsed
        by_cases here : q = p
        · subst here
          rw [written.saved?_same] at saved
          cases saved
          rw [written.parsed] at parsed
          cases parsed
          exact written.cell_same
        · rw [written.saved?_other here] at saved
          rw [written.cell_other here]
          exact settled.saved q raw' v' saved parsed
  | restarted c runnable => exact launch_settled runnable _

theorem run_settled (settled : s.Settled) (events : List Event) : (s.run events).2.Settled := by
  induction events generalizing s with
  | nil => exact settled
  | cons e rest ih => exact ih ((s.undergo_turns e).settled settled)

/-- Every entry of a store is a text of the setting it goes by. -/
def Valid (s : Service) : Prop :=
  ∀ e ∈ s.issuer.store.savedSettings, Configuration.Valid e

theorem Turn.valid (turn : s.Turn x s') (valid : s.Valid) : s'.Valid := by
  intro e member
  cases turn with
  | aside _ _ _ _ aside =>
      rw [Store.savedSettings_congr aside.settings] at member
      exact valid e member
  | written _ p v raw _ _ written =>
      rw [written.issuer] at member
      rcases Store.mem_keepSetting _ p raw member with rfl | old
      · exact ⟨p, v, rfl, written.parsed⟩
      · exact valid e old
  | restarted c runnable =>
      obtain ⟨-, -, settings⟩ := launch_settings runnable s.issuer.store
      rw [Store.savedSettings_congr settings] at member
      exact valid e member

theorem run_valid (valid : s.Valid) (events : List Event) : (s.run events).2.Valid := by
  induction events generalizing s with
  | nil => exact valid
  | cons e rest ih => exact ih ((s.undergo_turns e).valid valid)

/-! ## What was written last -/

theorem Turn.unwritten (turn : s.Turn x s') (unwritten : x.written? p = none) :
    s'.issuer.store.saved? p = s.issuer.store.saved? p := by
  cases turn with
  | aside _ _ _ _ aside => exact Store.saved?_congr aside.settings p
  | written _ q v raw _ writes written =>
      have other : p ≠ q := by
        rintro rfl
        rw [writes, if_pos rfl] at unwritten
        cases unwritten
      exact written.saved?_other other
  | restarted c runnable =>
      obtain ⟨-, -, settings⟩ := launch_settings runnable s.issuer.store
      exact Store.saved?_congr settings p

theorem Turn.written_saves (turn : s.Turn x s') {bytes : Bytes}
    (written : x.written? p = some bytes) :
    s'.issuer.store.Saves p bytes (s'.settings.config.value p) := by
  cases turn with
  | aside _ _ none =>
      rw [none p] at written
      cases written
  | written _ q v raw _ writes took =>
      by_cases here : p = q
      · subst here
        rw [writes, if_pos rfl] at written
        cases written
        refine ⟨raw, rfl, took.saved?_same, ?_⟩
        rw [Configuration.value_of_cell took.cell_same]
        exact took.parsed
      · rw [writes, if_neg here] at written
        cases written
  | restarted => cases written

theorem run_unwritten {events : List Event} (unwritten : s.lastWritten? p events = none) :
    (s.run events).2.issuer.store.saved? p = s.issuer.store.saved? p := by
  induction events generalizing s with
  | nil => rfl
  | cons e rest ih =>
      obtain ⟨later, here⟩ := Option.or_eq_none_iff.mp unwritten
      have kept := (s.undergo_turns e).unwritten (Option.map_eq_none_iff.mp here)
      exact (ih later).trans kept

theorem run_saves {events : List Event} {bytes : Bytes} {v : p.Value}
    (written : s.lastWritten? p events = some (bytes, v)) :
    (s.run events).2.issuer.store.Saves p bytes v := by
  induction events generalizing s with
  | nil => cases written
  | cons e rest ih =>
      rcases Option.or_eq_some_iff.mp written with later | ⟨unwritten, here⟩
      · exact ih later
      · obtain ⟨bytes', written', same⟩ := Option.map_eq_some_iff.mp here
        cases same
        obtain ⟨raw, isRaw, saved, parsed⟩ := (s.undergo_turns e).written_saves written'
        exact ⟨raw, isRaw, (run_unwritten unwritten).trans saved, parsed⟩

/-! ## What clients see -/

/-- The setting has a value, and every request for its text is answered with these bytes. -/
structure InForce (s : Service) (p : Setting) (v : p.Value) (bytes : Bytes) : Prop where
  value : s.settings.config.value p = v
  answer : ∀ r : Request, r.name = "GET" → r.settingName? = some p.name →
    (s.handle r).1 = .reply (.bulk bytes)

theorem inForce (s : Service) (p : Setting) :
    s.InForce p (s.settings.config.value p) (utf8 (s.settings.config.text p)) :=
  ⟨rfl, fun _ named about => handle_get_setting named about s⟩

theorem inForce_of_cell {v : p.Value} {raw : String}
    (cell : s.settings.config.cell p = (v, some raw)) : s.InForce p v (utf8 raw) := by
  have shown := s.inForce p
  rw [Configuration.value_of_cell cell,
    Configuration.text_of_written (Configuration.written_of_cell cell)] at shown
  exact shown

/-- One setting is given a text, in the store, in the configuration and in the registry, and no
other setting is touched in any of them. -/
structure Changes (s : Service) (p : Setting) (raw : String) (v : p.Value) (s' : Service) :
    Prop where
  parsed : p.kind.parse raw = .ok v
  saved : s'.issuer.store.savedSettings.filter (·.1 = p.name) = [(p.name, raw)]
  inForce : s'.InForce p v (utf8 raw)
  registry : p = .batchSize → s'.issuer.registry.batchSize = s'.settings.config.batchSize
  otherSaved : s'.issuer.store.savedSettings.filter (·.1 ≠ p.name) =
    s.issuer.store.savedSettings.filter (·.1 ≠ p.name)
  otherValues : ∀ q, q ≠ p → s'.settings.config.value q = s.settings.config.value q
  otherTexts : ∀ q, q ≠ p → s'.settings.config.text q = s.settings.config.text q
  shutdownTimeout : s'.settings.config.shutdownTimeout = s.settings.config.shutdownTimeout
  otherRegistry : p ≠ .batchSize → s'.issuer.registry.batchSize = s.issuer.registry.batchSize

theorem Written.changes {v : p.Value} {raw : String} (written : s.Written p v raw s') :
    s.Changes p raw v s' where
  parsed := written.parsed
  saved := by rw [Store.savedSettings_filter, written.saved?_same]; rfl
  inForce := inForce_of_cell written.cell_same
  registry := by
    intro here
    rw [written.issuer]
    exact if_pos here
  otherSaved := by
    rw [written.issuer]
    exact s.issuer.store.keepSetting_others p raw
  otherValues := fun q other => congrArg Prod.fst (written.cell_other other)
  otherTexts := fun q other => Configuration.text_congr (written.cell_other other)
  shutdownTimeout := by rw [written.config]; rfl
  otherRegistry := by
    intro other
    rw [written.issuer]
    exact if_neg other

end Service

/-- From a store without settings, whatever is written to settings and however often a server is
started again: at the next start nothing that is saved is left out, and the registry has the batch
size that comes out. A setting that was ever written has the value it had after it was written last,
and is read as the very bytes; every other is what the command line and the environment of this
start say. Without events this is the first start, and `s` tells no more than the store. -/
theorem settings_survive_restart [Patterns] {s : Service}
    (unset : s.issuer.store.savedSettings = []) (events : List Event) {processors : UInt64}
    {words : List Bytes} {environment : String → Option Bytes} {c : Configuration}
    (accepted : Configuration.start processors words environment = .ok c)
    (allocators : Array Allocator) :
    ∃ booted st,
      Service.boot processors words environment (s.run events).2.issuer.store allocators =
        (.ok booted, st) ∧
      booted.overrides.rejected = [] ∧
      booted.service.issuer.registry.batchSize = booted.service.settings.config.batchSize ∧
      (∀ p bytes v, s.lastWritten? p events = some (bytes, v) → booted.service.InForce p v bytes) ∧
      ∀ p, s.lastWritten? p events = none →
        booted.service.InForce p (c.value p) (utf8 (c.text p)) := by
  let st := (s.run events).2.issuer.store
  have valid : s.Valid := by
    intro e member
    rw [unset] at member
    cases member
  have runnable := Configuration.start_batchSize accepted
  obtain ⟨booted, started, overrides, config, batchSize, -⟩ :=
    Service.start_settings runnable st allocators
  have rejected : (c.overrideAll st.savedSettings).1.rejected = [] :=
    Configuration.overrideAll_rejected (Service.run_valid valid events) c
  have calm : (c.overrideAll st.savedSettings).1.crashes = false := by
    rw [OverrideReport.crashes, rejected, List.any_nil]
  refine ⟨booted, booted.service.issuer.store, Service.boot_eq accepted calm started,
    overrides ▸ rejected, batchSize, ?_, ?_⟩
  · intro p bytes v written
    obtain ⟨raw, rfl, saved, parsed⟩ := Service.run_saves written
    apply Service.inForce_of_cell
    rw [config, Store.cell_overlay, saved]
    exact Configuration.lay_of_parse parsed _
  · intro p unwritten
    have unsaved : st.saved? p = none := by
      rw [Service.run_unwritten unwritten]
      refine Option.eq_none_iff_forall_ne_some.mpr ?_
      intro raw saved
      rw [Store.saved?_eq_some, unset] at saved
      cases saved
    have cell : booted.service.settings.config.cell p = c.cell p := by
      rw [config, Store.cell_overlay, unsaved]
      rfl
    have shown := booted.service.inForce p
    rw [show booted.service.settings.config.value p = c.value p from congrArg Prod.fst cell,
      Configuration.text_congr cell] at shown
    exact shown

/-- Settings are written and refused, the last of them after a restart. -/
def tunedRun : List Event :=
  [.ofTexts "SET" ["cfg.log_path", "/var/log"], .ofTexts "SET" ["cfg.batch_size", "4"],
    .ofTexts "SET" ["cfg.batch_size", "0"], .restart (.ofBatchSize 6) (by decide),
    .ofTexts "SET" ["cfg.batch_size", " 7 "], .ofTexts "SET" ["cfg.none", "1"]]

theorem tunedRun_survives :
    let s := Service.launch (.ofBatchSize 3) (by decide) Engine.persistent.emptyStore
    ∃ booted st, Service.boot 4 [utf8 "--batch-size=5"] (fun _ => none)
        (s.run tunedRun).2.issuer.store #[] = (.ok booted, st) ∧
      booted.service.InForce .batchSize (7 : Int64) (utf8 " 7 ") ∧
      booted.service.InForce .logPath (utf8 "/var/log") (utf8 "/var/log") := by
  intro s
  have unset : s.issuer.store.savedSettings = [] := by decide +kernel
  have accepts : (Configuration.start 4 [utf8 "--batch-size=5"] fun _ => none).toOption.isSome := by
    decide +kernel
  cases accepted : Configuration.start 4 [utf8 "--batch-size=5"] fun _ => none with
  | error fault =>
      rw [accepted] at accepts
      cases accepts
  | ok c =>
      obtain ⟨booted, st, boots, -, -, written, -⟩ :=
        settings_survive_restart unset tunedRun accepted #[]
      refine ⟨booted, st, boots, written .batchSize _ _ ?_, written .logPath _ _ ?_⟩
      · decide +kernel
      · decide +kernel

/-- In every state of a server, whatever its store held at its start, the registry has the batch
size of the configuration, and every saved text of a setting is what the setting is read as; what
was written to a setting last is saved. A request to write a setting is answered with an error and
changes nothing at all, or it is answered OK and changes this setting and no other. Where the reader
of log filters crashes at a text for the log level, nothing has changed either. -/
theorem settings_agree [Patterns] {c : Configuration} (runnable : 0 < c.batchSize.toInt) (st : Store)
    (events : List Event) :
    let s := ((Service.launch c runnable st).run events).2
    s.issuer.registry.batchSize = s.settings.config.batchSize ∧
      (∀ p raw v, (p.name, raw) ∈ s.issuer.store.savedSettings → p.kind.parse raw = .ok v →
        s.InForce p v (utf8 raw)) ∧
      (∀ p bytes v, (Service.launch c runnable st).lastWritten? p events = some (bytes, v) →
        ∃ raw, utf8 raw = bytes ∧ p.kind.parse raw = .ok v ∧
          s.issuer.store.savedSettings.filter (·.1 = p.name) = [(p.name, raw)]) ∧
      ∀ r : Request, r.name = "SET" → r.settingName?.isSome →
        (∃ message, (s.handle r).1 = .reply (.error message) ∧ (s.handle r).2 = s) ∨
        (r.settingName? = some Setting.logLevel.name ∧
          (s.handle r).1 = .crash ∧ (s.handle r).2 = s) ∨
        ∃ p raw v, r.settingName? = some p.name ∧ r.arg? 1 = some (utf8 raw) ∧
          (s.handle r).1 = .reply .ok ∧ s.Changes p raw v (s.handle r).2 := by
  intro s
  have settled : s.Settled := Service.run_settled (Service.launch_settled runnable st) events
  refine ⟨settled.batchSize, ?_, ?_, ?_⟩
  · intro p raw v saved parsed
    apply Service.inForce_of_cell
    exact settled.saved p raw v (Store.saved?_eq_some.mpr saved) parsed
  · intro p bytes v written
    obtain ⟨raw, isRaw, saved, parsed⟩ := Service.run_saves written
    refine ⟨raw, isRaw, parsed, ?_⟩
    rw [Store.savedSettings_filter, saved]
    rfl
  · intro r named about
    by_cases crash : (s.handle r).1 = .crash
    · obtain ⟨same, trips⟩ := Service.handle_crash crash
      exact .inr (.inl ⟨trips.of_set named, crash, same⟩)
    · have configures := s.perform_configures r
      rw [Service.handle_eq] at crash ⊢
      generalize (s.perform r).1 = result, (s.perform r).2 = s' at configures crash
      cases configures with
      | refused halt =>
          cases halt with
          | fault fault => exact .inl ⟨fault.message, rfl, rfl⟩
          | crash => exact absurd rfl crash
      | aside _ _ other =>
          rw [other named] at about
          cases about
      | written p v raw _ _ isName argument written =>
          exact .inr (.inr ⟨p, raw, v, isName, argument, rfl, written.changes⟩)

theorem tunedRun_agrees :
    let started := Service.launch (.ofBatchSize 3) (by decide) Engine.volatile.emptyStore
    let s := (started.run tunedRun).2
    s.issuer.registry.batchSize = 7 ∧
      s.issuer.store.savedSettings = [("batch_size", " 7 "), ("log_path", "/var/log")] ∧
      s.InForce .batchSize (7 : Int64) (utf8 " 7 ") := by
  intro started s
  obtain ⟨-, saved, -⟩ := settings_agree (c := .ofBatchSize 3) (by decide)
    Engine.volatile.emptyStore tunedRun
  refine ⟨by decide +kernel, by decide +kernel, saved .batchSize " 7 " (7 : Int64) ?_ rfl⟩
  decide +kernel

end IdService
