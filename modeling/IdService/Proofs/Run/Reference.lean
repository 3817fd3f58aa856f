import IdService.Log.Plain
import IdService.Proofs.Run

/-! # Batches are not observable

The reference keeps the last identifier of every key and knows of no batches. Whatever a server
answers that is told of no failures, the reference would have answered too, except that a server
may refuse an identifier near the end of the 64-bit integers, where a whole batch no longer fits.
-/

namespace IdService

open Wire

/-- A server without batches: the last identifier of every key. -/
structure Reference where
  last : Table String Int := {}

namespace Reference

def get (t : Reference) (r : Request) : Except CommandHalt Reply × Reference :=
  match Command.firstKey r with
  | .error fault => (.error (.fault fault), t)
  | .ok key =>
    match t.last.get? key with
    | none => (.ok .nil, t)
    | some n =>
      (.ok (.bulk ((Numeral.write (n + 1)).map Byte.ofAscii)), ⟨t.last.insert key (n + 1)⟩)

def set (t : Reference) (r : Request) : Except CommandHalt Reply × Reference :=
  match Command.firstKey r with
  | .error fault => (.error (.fault fault), t)
  | .ok key =>
    match r.arg? 1 with
    | none => (.error (.fault (Command.notEnough r)), t)
    | some raw =>
      match integer? raw with
      | none => (.error (.fault .notInteger), t)
      | some n => (.ok .ok, ⟨t.last.insert key n⟩)

/-- How many of some keys are there, repeated ones counted again. -/
def countPresent (t : Reference) (count : Nat) : List Bytes → Except CommandFault Nat
  | [] => .ok count
  | raw :: rest =>
    match Command.key raw with
    | .error fault => .error fault
    | .ok key => t.countPresent (if t.last.contains key then count + 1 else count) rest

def exist (t : Reference) (r : Request) : Except CommandHalt Reply :=
  match r.args with
  | [] => .error (.fault (Command.notEnough r))
  | args =>
    match t.countPresent 0 args with
    | .error fault => .error (.fault fault)
    | .ok count => .ok (.integer (Int64.ofNat count))

/-- Removes keys one by one and counts those that were there. -/
def removeKeys (t : Reference) (count : Nat) : List Bytes → Except CommandFault Nat × Reference
  | [] => (.ok count, t)
  | raw :: rest =>
    match Command.key raw with
    | .error fault => (.error fault, t)
    | .ok key =>
      if t.last.contains key then removeKeys ⟨t.last.erase key⟩ (count + 1) rest
      else removeKeys t count rest

def del (t : Reference) (r : Request) : Except CommandHalt Reply × Reference :=
  match r.args with
  | [] => (.error (.fault (Command.notEnough r)), t)
  | args =>
    match t.removeKeys 0 args with
    | (.error fault, t) => (.error (.fault fault), t)
    | (.ok count, t) => (.ok (.integer (Int64.ofNat count)), t)

def perform (t : Reference) (r : Request) : Except CommandHalt Reply × Reference :=
  match r.name with
  | "GET" => t.get r
  | "SET" => t.set r
  | "EXISTS" => (t.exist r, t)
  | "DEL" => t.del r
  | "SELECT" => (Service.select r, t)
  | "PING" => (.ok (Service.ping r), t)
  | _ => (.error (.fault .notSupported), t)

end Reference

/-- A GET or SET of a setting. -/
def Wire.Request.IsSetting (r : Request) : Prop :=
  (r.name = "GET" ∨ r.name = "SET") ∧
    ∃ key name, Command.firstKey r = .ok key ∧ Command.settingName? key = some name

namespace Reference

/-- Which answer of the server the reference accepts, and where it is then. -/
inductive Accepts (t : Reference) (s : Service) (r : Request) : Answer → Reference → Prop where
  /-- Settings are nothing to the reference. -/
  | setting (a : Answer) : r.IsSetting → Accepts t s r a t
  | same : ¬ r.IsSetting → Accepts t s r (.ofResult (t.perform r).1) (t.perform r).2
  /-- A batch reaches beyond the end of the integers. -/
  | overflow (key : String) (number : Nat) (a : Allocator) (n : Int) :
      r.counterKey? "GET" = some key → s.issuer.find? key = some (number, a) →
      t.last.get? key = some n → Numeral.Range.int64.high - a.batchSize.toInt < n →
      Accepts t s r (.reply (.error (CounterFault.overflow key).message)) t

/-- Every answer to a sequence of requests is accepted. -/
inductive Explains [Patterns] : Reference → Service → List Request → Prop where
  | done (t : Reference) (s : Service) : Explains t s []
  | next (t t' : Reference) (s : Service) (r : Request) (rest : List Request) :
      Accepts t s r (s.handle r).1 t' → Explains t' (s.handle r).2 rest →
      Explains t s (r :: rest)

/-- The reference knows where every key of a sound server stands that is told of no failures. -/
structure Mirrors (t : Reference) (s : Issuer) : Prop where
  last : ∀ key, t.last.get? key = (s.holding key).last?
  sound : s.Sound
  faultless : s.store.contents.Faultless

variable {t : Reference} {s s' : Issuer} {key : String}

namespace Mirrors

theorem present (mirrors : t.Mirrors s) {number : Nat} {a : Allocator}
    (found : s.find? key = some (number, a)) : t.last.contains key := by
  obtain ⟨n, is⟩ := Issuer.holding_of_found mirrors.sound found
  rw [Table.contains, mirrors.last, is]
  rfl

theorem get?_absent (mirrors : t.Mirrors s) (absent : s.find? key = none) :
    t.last.get? key = none := by
  rw [mirrors.last, Issuer.holding_of_absent mirrors.sound absent]
  rfl

theorem contains_eq (mirrors : t.Mirrors s) (key : String) :
    s.registry.contains key = t.last.contains key := by
  rw [Issuer.contains_eq mirrors.sound.numbered, Issuer.holding, Option.isSome_map]
  cases found : s.find? key with
  | none => rw [Table.contains, mirrors.get?_absent found]; rfl
  | some entry =>
      obtain ⟨number, a⟩ := entry
      exact (mirrors.present found).symm

theorem keeps (mirrors : t.Mirrors s) (keeps : s.Keeps s') : t.Mirrors s' where
  last := by
    intro key
    rw [keeps.holdings]
    exact mirrors.last key
  sound := keeps.sound
  faultless := keeps.faultless mirrors.faultless

/-- A step that gives a key its last identifier is an insertion. -/
theorem insert (mirrors : t.Mirrors s) {mark : Option Mark} (takes : s.Takes key mark s') {n : Int}
    (last : (s'.holding key).last? = some n) : Mirrors ⟨t.last.insert key n⟩ s' where
  last := by
    intro k
    rw [Table.get?_insert]
    by_cases here : k = key
    · rw [if_pos here, here, last]
    · rw [if_neg here, takes.others k here]
      exact mirrors.last k
  sound := takes.sound
  faultless := takes.faultless mirrors.faultless

theorem erase (mirrors : t.Mirrors s) {mark : Option Mark} (takes : s.Takes key mark s')
    (gone : s'.holding key = {}) : Mirrors ⟨t.last.erase key⟩ s' where
  last := by
    intro k
    rw [Table.get?_erase]
    by_cases here : k = key
    · rw [if_pos here, here, gone]
      rfl
    · rw [if_neg here, takes.others k here]
      exact mirrors.last k
  sound := takes.sound
  faultless := takes.faultless mirrors.faultless

/-! ## Counting and deleting -/

theorem countRegistered_eq (mirrors : t.Mirrors s) (count : Nat) (args : List Bytes) :
    Command.countRegistered s.registry count args = t.countPresent count args := by
  induction args generalizing count with
  | nil => rfl
  | cons raw rest ih =>
      unfold Command.countRegistered countPresent
      cases Command.key raw with
      | error fault => rfl
      | ok key =>
          dsimp only [bind, Except.bind]
          rw [mirrors.contains_eq key]
          exact ih _

theorem deleteKeys (mirrors : t.Mirrors s) (count : Nat) (args : List Bytes) :
    (t.removeKeys count args).2.Mirrors (Command.deleteKeys s count args).2 ∧
      (Command.deleteKeys s count args).1 =
        (t.removeKeys count args).1.mapError CommandHalt.fault := by
  induction args generalizing t s count with
  | nil => exact ⟨mirrors, rfl⟩
  | cons raw rest ih =>
      unfold Command.deleteKeys removeKeys
      cases Command.key raw with
      | error fault => exact ⟨mirrors, rfl⟩
      | ok key =>
          dsimp only
          cases found : s.find? key with
          | none =>
              have absent : ¬ t.last.contains key := by
                rw [Table.contains, mirrors.get?_absent found]
                exact Bool.false_ne_true
              rw [if_neg absent]
              exact ih mirrors count
          | some entry =>
              obtain ⟨number, a⟩ := entry
              have spec := Issuer.retire_spec mirrors.sound found
              rw [if_pos (mirrors.present found)]
              dsimp only
              rcases retiring : s.retire a with ⟨result, s₁⟩
              rw [retiring] at spec
              dsimp only at spec
              rcases spec with ⟨halt, -, -, faulty⟩ | ⟨rfl, takes, gone⟩
              · exact absurd mirrors.faultless faulty
              · exact ih (mirrors.erase takes gone) (count + 1)

end Mirrors

/-! ## Every request -/

variable {s : Service} {r : Request}

theorem Accepts.of_perform {result : Except CommandHalt Reply} {t' : Reference}
    (counter : ¬ r.IsSetting) (performs : t.perform r = (result, t')) :
    Accepts t s r (.ofResult result) t' := by
  have same := Accepts.same (t := t) (s := s) counter
  rw [performs] at same
  exact same

private theorem not_setting_of_fault {fault : CommandFault}
    (first : Command.firstKey r = .error fault) : ¬ r.IsSetting := by
  rintro ⟨-, key, name, first', -⟩
  rw [first] at first'
  cases first'

private theorem not_setting_of_counter (first : Command.firstKey r = .ok key)
    (counter : Command.settingName? key = none) : ¬ r.IsSetting := by
  rintro ⟨-, key', name, first', setting⟩
  rw [first] at first'
  cases first'
  rw [counter] at setting
  cases setting

/-- What can stop a healthy allocator is that a whole batch does not fit. -/
private theorem overflow_of_reserves {a : Allocator} {n : Int64} {c c' : Contents} {halt : Halt}
    (faultless : c.Faultless) (held : c.counter? a.key = some (.value n))
    (positive : 0 < a.batchSize.toInt) (reserves : a.Reserves c (.error halt) c') :
    halt = .fault (.overflow a.key) ∧
      Numeral.Range.int64.high - a.batchSize.toInt < n.toInt := by
  obtain ⟨rfl, outside⟩ := reserves.overflow_of_error faultless held
  have within := Counter.contains_toInt n
  refine ⟨rfl, ?_⟩
  unfold Numeral.Range.Contains at outside within
  omega

theorem get_accepts (mirrors : t.Mirrors s.issuer) (named : r.name = "GET") :
    ∃ t', Accepts t s r (.ofResult (s.get r).1) t' ∧ t'.Mirrors (s.get r).2.issuer := by
  have performs : t.perform r = t.get r := by simp only [perform, named]
  have gets := Service.get_gets mirrors.sound r
  generalize (s.get r).1 = result, (s.get r).2 = s' at gets
  cases gets with
  | badKey fault first =>
      refine ⟨t, .of_perform (not_setting_of_fault first) ?_, mirrors⟩
      simp only [performs, get, first]
  | setting key name first setting =>
      exact ⟨t, .setting _ ⟨.inl named, key, name, first, setting⟩, mirrors⟩
  | absent key first counter absent =>
      refine ⟨t, .of_perform (not_setting_of_counter first counter) ?_, mirrors⟩
      simp only [performs, get, first, mirrors.get?_absent absent]
  | issued key id _ first counter takes =>
      obtain ⟨before, after⟩ := takes.step.last_issued (mirrors.sound.holdings key)
      rw [← mirrors.last] at before
      refine ⟨_, .of_perform (not_setting_of_counter first counter) ?_, mirrors.insert takes after⟩
      simp only [performs, get, first, before, Int.sub_add_cancel]
  | refused key number a halt _ first counter found used reserves keeps =>
      obtain ⟨n, is⟩ := Issuer.holding_of_found mirrors.sound found
      obtain ⟨-, isKey, positive, -⟩ := (is ▸ mirrors.sound.holdings key).cases_present
      have held : s.issuer.store.contents.counter? a.key = some (.value n) :=
        isKey ▸ congrArg Holding.counter? is
      obtain ⟨rfl, near⟩ := overflow_of_reserves mirrors.faultless held positive reserves
      have last : t.last.get? key = some n.toInt := by
        rw [mirrors.last, is]
        simp only [Holding.last?, Allocator.last_of_exhausted used]
      have about : r.counterKey? "GET" = some key :=
        Request.counterKey?_eq_some.mpr ⟨named, first, counter⟩
      have accepts := Accepts.overflow (t := t) key number a n.toInt about found last near
      rw [← isKey] at accepts
      exact ⟨t, accepts, mirrors.keeps keeps⟩

theorem set_accepts [Patterns] (mirrors : t.Mirrors s.issuer) (named : r.name = "SET") :
    ∃ t', Accepts t s r (.ofResult (s.set r).1) t' ∧ t'.Mirrors (s.set r).2.issuer := by
  have performs : t.perform r = t.set r := by simp only [perform, named]
  have sets := Service.set_sets mirrors.sound r
  generalize (s.set r).1 = result, (s.set r).2 = s' at sets
  cases sets with
  | badKey fault first =>
      refine ⟨t, .of_perform (not_setting_of_fault first) ?_, mirrors⟩
      simp only [performs, set, first]
  | noValue key first argument =>
      cases counter : Command.settingName? key with
      | none =>
          refine ⟨t, .of_perform (not_setting_of_counter first counter) ?_, mirrors⟩
          simp only [performs, set, first, argument]
      | some name => exact ⟨t, .setting _ ⟨.inr named, key, name, first, counter⟩, mirrors⟩
  | settingRefused key name fault _ first setting keeps =>
      exact ⟨t, .setting _ ⟨.inr named, key, name, first, setting⟩, mirrors.keeps keeps⟩
  | setting key name _ first setting keeps =>
      exact ⟨t, .setting _ ⟨.inr named, key, name, first, setting⟩, mirrors.keeps keeps⟩
  | notInteger key raw first counter argument read =>
      refine ⟨t, .of_perform (not_setting_of_counter first counter) ?_, mirrors⟩
      simp only [performs, set, first, argument, read]
  | moved key raw value _ first counter argument read takes =>
      refine ⟨_, .of_perform (not_setting_of_counter first counter) ?_,
        mirrors.insert takes takes.step.last_moved⟩
      simp only [performs, set, first, argument, read]

theorem exist_accepts (mirrors : t.Mirrors s.issuer) (named : r.name = "EXISTS") :
    Accepts t s r (.ofResult (s.exist r).1) t ∧ t.Mirrors (s.exist r).2.issuer := by
  have unset : ¬ r.IsSetting := by
    rintro ⟨name, -⟩
    simp [named] at name
  have performs : t.perform r = (t.exist r, t) := by simp only [perform, named]
  have same : s.exist r = (t.exist r, s) := by
    unfold Service.exist exist
    cases args : r.args with
    | nil => rfl
    | cons raw rest =>
        dsimp only
        rw [mirrors.countRegistered_eq]
        cases t.countPresent 0 (raw :: rest) <;> rfl
  rw [same]
  exact ⟨.of_perform unset performs, mirrors⟩

theorem del_accepts (mirrors : t.Mirrors s.issuer) (named : r.name = "DEL") :
    Accepts t s r (.ofResult (s.del r).1) (t.del r).2 ∧ (t.del r).2.Mirrors (s.del r).2.issuer := by
  have unset : ¬ r.IsSetting := by
    rintro ⟨name, -⟩
    simp [named] at name
  have performs : t.perform r = t.del r := by simp only [perform, named]
  obtain ⟨after, same⟩ : (t.del r).2.Mirrors (s.del r).2.issuer ∧ (s.del r).1 = (t.del r).1 := by
    unfold Service.del del
    cases args : r.args with
    | nil => exact ⟨mirrors, rfl⟩
    | cons raw rest =>
        obtain ⟨after, same⟩ := mirrors.deleteKeys 0 (raw :: rest)
        dsimp only
        rcases deleting : Command.deleteKeys s.issuer 0 (raw :: rest) with ⟨result, issuer⟩
        rcases removing : t.removeKeys 0 (raw :: rest) with ⟨outcome, t'⟩
        rw [deleting, removing] at after same
        dsimp only at after same
        subst same
        cases outcome with
        | error fault => exact ⟨after, rfl⟩
        | ok count => exact ⟨after, rfl⟩
  rw [same]
  exact ⟨.of_perform unset performs, after⟩

/-- The server's answer is accepted, and the reference stays where the server is. -/
theorem handle_accepts [Patterns] (mirrors : t.Mirrors s.issuer) (r : Request) :
    ∃ t', Accepts t s r (s.handle r).1 t' ∧ t'.Mirrors (s.handle r).2.issuer := by
  have unset : r.name ≠ "GET" → r.name ≠ "SET" → ¬ r.IsSetting := by
    rintro notGet notSet ⟨isGet | isSet, -⟩
    · exact notGet isGet
    · exact notSet isSet
  rw [Service.handle_eq]
  unfold Service.perform
  split
  · exact get_accepts mirrors ‹_›
  · exact set_accepts mirrors ‹_›
  · exact ⟨t, exist_accepts mirrors ‹_›⟩
  · exact ⟨_, del_accepts mirrors ‹_›⟩
  · rename_i named
    have performs : t.perform r = (Service.select r, t) := by simp only [perform, named]
    exact ⟨t, .of_perform (unset (by simp [named]) (by simp [named])) performs, mirrors⟩
  · rename_i named
    have performs : t.perform r = (.ok (Service.ping r), t) := by simp only [perform, named]
    exact ⟨t, .of_perform (unset (by simp [named]) (by simp [named])) performs, mirrors⟩
  · rename_i notGet notSet notExists notDel notSelect notPing
    have performs : t.perform r = (.error (.fault .notSupported), t) := by
      unfold perform
      split
      · exact absurd ‹_› notGet
      · exact absurd ‹_› notSet
      · exact absurd ‹_› notExists
      · exact absurd ‹_› notDel
      · exact absurd ‹_› notSelect
      · exact absurd ‹_› notPing
      · rfl
    exact ⟨t, .of_perform (unset notGet notSet) performs, mirrors⟩

theorem explains [Patterns] (mirrors : t.Mirrors s.issuer) (requests : List Request) :
    Explains t s requests := by
  induction requests generalizing t s with
  | nil => exact .done t s
  | cons r rest ih =>
      obtain ⟨t', accepts, mirrors'⟩ := handle_accepts mirrors r
      exact .next t t' s r rest accepts (ih mirrors')

/-- From an empty store on, whatever the batch size is at the start and is changed to, the reference
accepts every answer to every sequence of requests. -/
theorem batching_unobservable [Patterns] (engine : Engine) {c : Configuration}
    (runnable : 0 < c.batchSize.toInt) (requests : List Request) :
    Explains {} (Service.launch c runnable engine.emptyStore) requests := by
  obtain ⟨empty, sound⟩ := engine.launch_sound runnable
  have mirrors : Mirrors {} (Service.launch c runnable engine.emptyStore).issuer := by
    refine ⟨?_, sound, engine.launch_faultless runnable⟩
    intro key
    rw [empty]
    rfl
  exact explains mirrors requests

/-- A key that stands one below the end: the last identifier would fit, but no batch does. -/
def lastIdentifier : List Request :=
  [⟨Text.utf8 "SET", [Text.utf8 "k", Text.utf8 "9223372036854775806"]⟩,
    ⟨Text.utf8 "GET", [Text.utf8 "k"]⟩]

theorem lastIdentifier_explained :
    ((Engine.volatile.run (.ofBatchSize 3) (by decide)
        (lastIdentifier.map .request)).1.map fun x => x.mark? "k") =
        [some (.moved 9223372036854775806), none] ∧
      Explains {} (Service.launch (.ofBatchSize 3) (by decide) Engine.volatile.emptyStore)
        lastIdentifier := by
  refine ⟨by decide +kernel, ?_⟩
  exact batching_unobservable .volatile (by decide) lastIdentifier

end Reference
end IdService
