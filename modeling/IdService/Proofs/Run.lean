import IdService.Proofs.Holding.Restart
import IdService.Proofs.Service.Commands

/-! # Runs of a server

A server goes through events one after the other: requests, of whichever connection they come,
failures that its store is told to have, and restarts. What clients see of a run is its journal.
Every event is one step of every key, so whatever steps keep holds at every moment of a run.
-/

namespace IdService

open Wire

inductive Engine where
  | volatile
  | persistent
deriving Repr, DecidableEq

def Engine.emptyStore : Engine → Store
  | volatile => .volatile {}
  | persistent => .persistent {}

/-! ## Failures -/

/-- What a store can be told to go wrong with. The durable engine takes no such orders. -/
inductive Disturbance where
  /-- The next increments fail. -/
  | failIncrements (count : Nat)
  /-- The next drops fail. -/
  | failDrops (count : Nat)
  /-- From now on the store crashes when the counters of these keys are read, and no others. -/
  | crashReads (keys : List String)
deriving Repr, DecidableEq

def Store.disturb (st : Store) (d : Disturbance) : Store :=
  match st with
  | volatile st =>
    match d with
    | .failIncrements count => volatile { st with failingIncrements := count }
    | .failDrops count => volatile { st with failingDrops := count }
    | .crashReads keys => volatile { st with crashing := keys }
  | persistent st => persistent st

theorem Store.contents_disturb (st : Store) (d : Disturbance) :
    (st.disturb d).contents.counters = st.contents.counters ∧
      (st.disturb d).contents.known = st.contents.known := by
  cases st with
  | volatile st => cases d <;> exact ⟨rfl, rfl⟩
  | persistent st => exact ⟨rfl, rfl⟩

/-! ## Events and the journal -/

/-- What a server goes through. A restart is given the configuration to start with. -/
inductive Event where
  | request (r : Request)
  | disturb (d : Disturbance)
  | restart (c : Configuration) (runnable : 0 < c.batchSize.toInt)

/-- What is seen of an event. -/
inductive Record where
  | answered (r : Request) (a : Answer)
  | disturbed
  | restarted
deriving Repr, DecidableEq

namespace Service

variable [Patterns]

def undergo (s : Service) : Event → Record × Service
  | .request r => (.answered r (s.handle r).1, (s.handle r).2)
  | .disturb d =>
    (.disturbed, { s with issuer := { s.issuer with store := s.issuer.store.disturb d } })
  | .restart c runnable => (.restarted, launch c runnable s.issuer.store)

/-- The journal of a run, and the server at its end. -/
def run (s : Service) : List Event → List Record × Service
  | [] => ([], s)
  | e :: rest =>
    let (x, s') := s.undergo e
    let (journal, final) := s'.run rest
    (x :: journal, final)

end Service

namespace Mark

def issued? : Mark → Option Int
  | issued id => some id
  | _ => none

def moved? : Mark → Option Int
  | moved value => some value
  | _ => none

end Mark

namespace Record

/-- What an event that was seen means to a key: a GET of it was answered with an identifier, a SET
of it was successful, or the server was restarted. -/
def mark? (key : String) : Record → Option Mark
  | answered r (.reply (.bulk data)) =>
    if r.counterKey? "GET" = some key then (integer? data).map .issued else none
  | answered r (.reply (.status _)) =>
    if r.counterKey? "SET" = some key then ((r.arg? 1).bind integer?).map .moved else none
  | answered _ _ => none
  | disturbed => none
  | restarted => some .restarted

/-- The identifier that a GET of the key was answered with. -/
def issued? (key : String) (x : Record) : Option Int := (x.mark? key).bind Mark.issued?

/-- The value of a successful SET of the key. -/
def moved? (key : String) (x : Record) : Option Int := (x.mark? key).bind Mark.moved?

theorem mark?_of_moved {key : String} {x : Record} {value : Int}
    (moved : x.moved? key = some value) : x.mark? key = some (.moved value) := by
  unfold moved? at moved
  cases mark : x.mark? key with
  | none =>
      rw [mark] at moved
      cases moved
  | some m =>
      rw [mark] at moved
      cases m with
      | issued | restarted => cases moved
      | moved =>
          cases moved
          rfl

theorem mark?_of_other {r : Request} (notGet : r.name ≠ "GET") (notSet : r.name ≠ "SET")
    (a : Answer) (key : String) : (answered r a).mark? key = none := by
  have noGet : r.counterKey? "GET" = none := if_neg notGet
  have noSet : r.counterKey? "SET" = none := if_neg notSet
  unfold mark?
  split
  · rename_i same
    cases same
    rw [noGet, if_neg (by simp)]
  · rename_i same
    cases same
    rw [noSet, if_neg (by simp)]
  · rfl
  · rfl
  · rename_i same
    cases same

end Record

/-! ## Every event is a step of every key -/

/-- The answer to a request whose command comes to a result. -/
def Answer.ofResult : Except CommandHalt Reply → Answer
  | .ok answer => .reply answer
  | .error (.fault fault) => .reply (.error fault.message)
  | .error .crash => .crash

namespace Service

variable {s : Service} {r : Request}

/-- A result as clients see it goes with a step of every key. -/
def Shows (s : Service) (r : Request) (result : Except CommandHalt Reply) (s' : Service) : Prop :=
  s.issuer.Follows (fun key => (Record.answered r (.ofResult result)).mark? key) s'.issuer

theorem Shows.of_error {s' : Service} (follows : s.issuer.Follows (fun _ => none) s'.issuer)
    (halt : CommandHalt) : s.Shows r (.error halt) s' := by
  cases halt with
  | fault => exact follows
  | crash => exact follows

theorem Shows.of_other {s' : Service} (follows : s.issuer.Follows (fun _ => none) s'.issuer)
    (notGet : r.name ≠ "GET") (notSet : r.name ≠ "SET") (result : Except CommandHalt Reply) :
    s.Shows r result s' := by
  unfold Shows
  simp only [Record.mark?_of_other notGet notSet]
  exact follows

private theorem counterKey?_of_setting {key name command : String}
    (first : Command.firstKey r = .ok key) (setting : Command.settingName? key = some name)
    (k : String) : r.counterKey? command ≠ some k := by
  intro about
  obtain ⟨-, first', counter⟩ := Request.counterKey?_eq_some.mp about
  rw [first] at first'
  cases first'
  rw [setting] at counter
  cases counter

theorem get_shows (sound : s.issuer.Sound) (named : r.name = "GET") :
    s.Shows r (s.get r).1 (s.get r).2 := by
  have gets := get_gets sound r
  generalize (s.get r).1 = result, (s.get r).2 = s' at gets
  cases gets with
  | badKey fault => exact .of_error sound.follows _
  | setting key name first setting =>
      have quiet : ∀ k, r.counterKey? "GET" ≠ some k := counterKey?_of_setting first setting
      unfold Shows settingReply
      cases s.settings.text? name with
      | none => exact sound.follows
      | some text =>
          simp only [Answer.ofResult, Record.mark?, if_neg (quiet _)]
          exact sound.follows
  | absent => exact sound.follows
  | issued key id _ first counter takes =>
      have about : r.counterKey? "GET" = some key :=
        Request.counterKey?_eq_some.mpr ⟨named, first, counter⟩
      have marks : (fun k => (Record.answered r (.ofResult (.ok (.bulk
          ((Numeral.write id.toInt).map Byte.ofAscii))))).mark? k) =
          fun k => if k = key then some (.issued id.toInt) else none := by
        funext k
        simp only [Answer.ofResult, Record.mark?, about, Option.some.injEq,
          integer?_write (Counter.contains_toInt id), Option.map_some, eq_comm]
      unfold Shows
      rw [marks]
      exact takes.follows
  | refused key number a halt _ first counter found used reserves keeps =>
      exact .of_error keeps.follows _

section

variable [Patterns]

theorem handle_eq (s : Service) (r : Request) :
    s.handle r = (.ofResult (s.perform r).1, (s.perform r).2) := by
  unfold handle
  rcases s.perform r with ⟨(fault | -) | reply, s'⟩ <;> rfl

theorem set_shows (sound : s.issuer.Sound) (named : r.name = "SET") :
    s.Shows r (s.set r).1 (s.set r).2 := by
  have sets := set_sets sound r
  generalize (s.set r).1 = result, (s.set r).2 = s' at sets
  cases sets with
  | badKey | noValue | notInteger => exact .of_error sound.follows _
  | settingRefused key name fault _ first setting keeps => exact .of_error keeps.follows _
  | setting key name _ first setting keeps =>
      have quiet : ∀ k, r.counterKey? "SET" ≠ some k := counterKey?_of_setting first setting
      simp only [Shows, Answer.ofResult, Reply.ok, Record.mark?, if_neg (quiet _)]
      exact keeps.follows
  | moved key raw value _ first counter argument read takes =>
      have about : r.counterKey? "SET" = some key :=
        Request.counterKey?_eq_some.mpr ⟨named, first, counter⟩
      have marks : (fun k => (Record.answered r (.ofResult (.ok .ok))).mark? k) =
          fun k => if k = key then some (.moved value) else none := by
        funext k
        simp only [Answer.ofResult, Reply.ok, Record.mark?, about, Option.some.injEq,
          argument, Option.bind_some, read, Option.map_some, eq_comm]
      unfold Shows
      rw [marks]
      exact takes.follows

theorem perform_shows (sound : s.issuer.Sound) (r : Request) :
    s.Shows r (s.perform r).1 (s.perform r).2 := by
  unfold perform
  split
  · exact get_shows sound ‹_›
  · exact set_shows sound ‹_›
  · rename_i named
    have same : (s.exist r).2 = s := by
      unfold exist
      split
      · rfl
      · split <;> rfl
    rw [same]
    exact .of_other sound.follows (by simp [named]) (by simp [named]) _
  · rename_i named
    refine .of_other ?_ (by simp [named]) (by simp [named]) _
    unfold del
    split
    · exact sound.follows
    · have follows := (Command.deleteKeys_spec sound 0 r.args).1
      rcases deleting : Command.deleteKeys s.issuer 0 r.args with ⟨halt | count, issuer⟩
      · rw [deleting] at follows
        exact follows
      · rw [deleting] at follows
        exact follows
  · rename_i named
    exact .of_other sound.follows (by simp [named]) (by simp [named]) _
  · rename_i named
    exact .of_other sound.follows (by simp [named]) (by simp [named]) _
  · exact .of_error sound.follows _

theorem undergo_steps (sound : s.issuer.Sound) (e : Event) :
    (∀ key, Holding.Step key ((s.undergo e).1.mark? key) (s.issuer.holding key)
      ((s.undergo e).2.issuer.holding key)) ∧ (s.undergo e).2.issuer.Sound := by
  cases e with
  | request r =>
      have shows := perform_shows sound r
      simp only [undergo, handle_eq]
      exact ⟨shows.steps, shows.sound⟩
  | disturb d =>
      obtain ⟨counters, known⟩ := s.issuer.store.contents_disturb d
      have holdings : ∀ key, (s.undergo (.disturb d)).2.issuer.holding key =
          s.issuer.holding key := by
        intro key
        simp only [undergo, Issuer.holding, Contents.counter?, Contents.isKnown, counters, known]
        rfl
      refine ⟨?_, fun key => holdings key ▸ sound.holdings key, sound.numbered,
        ⟨counters ▸ sound.named.counters, known ▸ sound.named.known⟩, sound.batchSize⟩
      intro key
      rw [holdings]
      exact .stays _
  | restart c runnable => exact launch_restarts sound runnable

/-! ## Whole runs -/

/-- Where a journal is cut, the run can be cut. -/
theorem run_split {events : List Event} {before after : List Record}
    (journal : (s.run events).1 = before ++ after) :
    ∃ first second, events = first ++ second ∧ (s.run first).1 = before ∧
      ((s.run first).2.run second).1 = after := by
  induction before generalizing s events with
  | nil => exact ⟨[], events, rfl, rfl, journal⟩
  | cons x rest ih =>
      cases events with
      | nil => cases journal
      | cons e events =>
          obtain ⟨here, later⟩ := List.cons.inj journal
          obtain ⟨first, second, rfl, before, after⟩ := ih later
          refine ⟨e :: first, second, rfl, ?_, after⟩
          rw [← here, ← before]
          rfl

theorem run_sound (sound : s.issuer.Sound) (events : List Event) : (s.run events).2.issuer.Sound := by
  induction events generalizing s with
  | nil => exact sound
  | cons e rest ih => exact ih (undergo_steps sound e).2

end

end Service

namespace Engine

theorem contents_emptyStore (engine : Engine) : engine.emptyStore.contents = {} := by
  cases engine <;> rfl

variable [Patterns]

/-- A run from an empty store. -/
def run (engine : Engine) (c : Configuration) (runnable : 0 < c.batchSize.toInt)
    (events : List Event) : List Record × Service :=
  (Service.launch c runnable engine.emptyStore).run events

theorem launch_sound (engine : Engine) {c : Configuration} (runnable : 0 < c.batchSize.toInt) :
    (∀ key, (Service.launch c runnable engine.emptyStore).issuer.holding key = {}) ∧
      (Service.launch c runnable engine.emptyStore).issuer.Sound := by
  obtain ⟨numbered, named, -, positive, holdings⟩ :=
    Service.launch_spec runnable engine.emptyStore
  have empty : ∀ key, (Service.launch c runnable engine.emptyStore).issuer.holding key = {} := by
    intro key
    have nothing : engine.emptyStore.knownKeys = [] := by cases engine <;> rfl
    rw [holdings key, nothing, if_neg (by simp), Store.holding, contents_emptyStore]
    rfl
  refine ⟨empty, fun key => empty key ▸ .absent, numbered, named ?_, positive⟩
  rw [contents_emptyStore]
  exact Contents.Named.empty

theorem launch_faultless (engine : Engine) {c : Configuration}
    (runnable : 0 < c.batchSize.toInt) :
    (Service.launch c runnable engine.emptyStore).issuer.store.contents.Faultless := by
  obtain ⟨-, -, faultless, -⟩ := Service.launch_spec runnable engine.emptyStore
  apply faultless
  rw [contents_emptyStore]
  exact ⟨rfl, rfl, rfl⟩

theorem run_sound (engine : Engine) {c : Configuration} (runnable : 0 < c.batchSize.toInt)
    (events : List Event) : (engine.run c runnable events).2.issuer.Sound :=
  Service.run_sound (engine.launch_sound runnable).2 events

end Engine

/-! ## Runs to look at -/

/-- A configuration that says nothing but the batch size. -/
def Configuration.ofBatchSize (batchSize : Int64) : Configuration where
  value
    | .logLevel | .serverHost => ""
    | .logPath | .dataPath => []
    | .serverPort | .transPort => 0
    | .serverId | .heartbeatTimeOut | .heartbeatTimeInterval | .threads => 0
    | .nodes => []
    | .batchSize => batchSize
  written _ := none
  shutdownTimeout := 0

/-- A request whose parts are texts. -/
def Event.ofTexts (command : String) (args : List String) : Event :=
  .request ⟨Text.utf8 command, args.map Text.utf8⟩

end IdService
