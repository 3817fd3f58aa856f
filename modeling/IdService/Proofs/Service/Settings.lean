import IdService.Proofs.Allocator.Moving
import IdService.Proofs.Holding.Enrolling
import IdService.Proofs.Service.Commands
import IdService.Proofs.Store.Settings

/-! # What requests do to settings

A setting is kept in three places: its text in the store, its value and text in the configuration,
and the batch size also in the registry. A request that writes a setting changes all of them at
once or none; every other request, whatever it does to keys, leaves all of them as they are. A start
fills the configuration and the registry from the store.
-/

namespace IdService

open Text Wire

/-! ## Keys -/

namespace Allocator

theorem settings_issueNext (a : Allocator) (st : Store) :
    (a.issueNext st).2.2.contents.settings = st.contents.settings := by
  have issues := a.issueNext_issues st
  generalize (a.issueNext st).1 = result, (a.issueNext st).2.1 = a',
    (a.issueNext st).2.2.contents = c at issues
  cases issues with
  | atHand => rfl
  | refused halt _ used reserves => cases reserves <;> rfl
  | renewed segment _ used reserves =>
      cases reserves
      rfl

theorem settings_moveTo (a : Allocator) (value : Int64) (force : Bool) (st : Store) :
    (a.moveTo value force st).2.2.contents.settings = st.contents.settings := by
  apply a.moveTo_preserves value force (P := fun c => c.settings = st.contents.settings)
  · intro c same
    exact (c.settings_ensure a.key).trans same
  · intro c same
    exact (c.settings_overwrite a.key value).trans same
  · intro c same
    exact (c.settings_remove a.key).trans same
  · rfl

theorem settings_retire (a : Allocator) (st : Store) :
    (a.retire st).2.contents.settings = st.contents.settings := by
  unfold retire
  rw [Store.contents_removeCounter, Contents.settings_remove]

end Allocator

namespace Issuer

/-- The saved settings and the batch size are as they were. -/
structure Aside (s s' : Issuer) : Prop where
  settings : s'.store.contents.settings = s.store.contents.settings
  batchSize : s'.registry.batchSize = s.registry.batchSize

namespace Aside

variable {s s' s'' : Issuer}

theorem refl (s : Issuer) : s.Aside s := ⟨rfl, rfl⟩

theorem trans (first : s.Aside s') (second : s'.Aside s'') : s.Aside s'' :=
  ⟨second.settings.trans first.settings, second.batchSize.trans first.batchSize⟩

theorem issueNext (s : Issuer) (number : Nat) (a : Allocator) :
    s.Aside (s.issueNext number a).2 :=
  ⟨a.settings_issueNext s.store, rfl⟩

theorem moveTo (s : Issuer) (number : Nat) (a : Allocator) (value : Int64) (force : Bool) :
    s.Aside (s.moveTo number a value force).2 :=
  ⟨a.settings_moveTo value force s.store, rfl⟩

theorem retire (s : Issuer) (a : Allocator) : s.Aside (s.retire a).2 :=
  ⟨a.settings_retire s.store, rfl⟩

theorem enrol (s : Issuer) (a : Allocator) : s.Aside (s.enrol a) := ⟨rfl, rfl⟩

theorem restore (batchSize : Int64) (keys : List String) (s : Issuer) (count : Nat) :
    s.Aside (s.restore batchSize count keys).2 := by
  apply Issuer.restore_leads
  · exact .refl
  · intro s s' s'' first second
    exact first.trans second
  · intro s key
    have contents := s.store.contents_ensureCounter key
    exact ⟨(congrArg Contents.settings contents).trans (Contents.settings_ensure ..), rfl⟩
  · intro s a _
    exact .enrol s a

theorem moveKey (s : Issuer) (key : String) (value : Int64) :
    s.Aside (Command.moveKey s key value).2 := by
  apply Command.moveKey_leads
  · exact .refl
  · intro s s' s'' first second
    exact first.trans second
  · intro s a _
    exact .enrol s a
  · intro s key
    have contents := s.store.contents_addKnown key
    exact ⟨(congrArg Contents.settings contents).trans rfl, rfl⟩
  · intro s number a value
    exact .moveTo s number a value false

theorem deleteKeys (s : Issuer) (count : Nat) (args : List Bytes) :
    s.Aside (Command.deleteKeys s count args).2 := by
  apply Command.deleteKeys_leads
  · exact .refl
  · intro s s' s'' first second
    exact first.trans second
  · exact .retire
  · intro s key
    have contents := s.store.contents_removeKnown key
    exact ⟨(congrArg Contents.settings contents).trans rfl, rfl⟩

end Aside
end Issuer

/-! ## Writing a setting -/

/-- A text of a setting is passed on to the registry where it is a batch size, and that cannot
fail. -/
theorem LiveEffect.batchSize_eq [Patterns] {p : Setting} {v : p.Value} {raw : String}
    (parsed : p.kind.parse raw = .ok v) (c : Configuration) (r : Registry) :
    batchSize p (c.set p v raw) r = .ok { r with
      batchSize := if p = .batchSize then (c.set p v raw).batchSize else r.batchSize } := by
  unfold batchSize
  by_cases here : p = .batchSize
  · subst here
    have positive : 0 < (c.set .batchSize v raw).batchSize.toInt := Kind.parse_batch parsed
    have notLow : ¬ (c.set .batchSize v raw).batchSize ≤ 0 := by
      rw [Int64.le_iff_toInt_le]
      exact Int.not_le.mpr positive
    rw [if_pos rfl, if_pos rfl, Registry.withBatchSize, if_neg notLow]
  · rw [if_neg here, if_neg here]

namespace Service

variable [Patterns] {s s' : Service} {r : Request} {p : Setting}

/-- A text is taken over for a setting: it is saved, it is in force, and the registry has it if it
is the batch size. Nothing else has changed but the log filter. -/
structure Written (s : Service) (p : Setting) (v : p.Value) (raw : String) (s' : Service) :
    Prop where
  parsed : p.kind.parse raw = .ok v
  config : s'.settings.config = s.settings.config.set p v raw
  issuer : s'.issuer = { s.issuer with
    store := s.issuer.store.keepSetting p.name raw
    registry := { s.issuer.registry with
      batchSize :=
        if p = .batchSize then s'.settings.config.batchSize else s.issuer.registry.batchSize } }

/-- What comes of writing a text to the setting of a name. -/
inductive Writes (s : Service) (name raw : String) :
    Except WriteFault Setting → Service → Prop where
  | refused (reason : SettingFault) : s.settings.config.override name raw = .error reason →
      Writes s name raw (.error (.setting reason)) s
  | written (p : Setting) (v : p.Value) (s' : Service) : name = p.name → s.Written p v raw s' →
      Writes s name raw (.ok p) s'

theorem writeSetting_writes (s : Service) (name raw : String) :
    s.Writes name raw (s.writeSetting .batchSize name raw).1
      (s.writeSetting .batchSize name raw).2 := by
  unfold writeSetting Settings.write
  cases taken : s.settings.config.override name raw with
  | error reason => exact .refused reason taken
  | ok entry =>
      obtain ⟨p, config⟩ := entry
      obtain ⟨named, v, parsed, rfl⟩ := Configuration.override_eq_ok.mp taken
      simp only [LiveEffect.batchSize_eq parsed]
      exact .written p v _ named ⟨parsed, rfl, rfl⟩

/-! ## Requests -/

end Service

/-- The name of a setting that stands in the place of the request's first key. -/
def Wire.Request.settingName? (r : Request) : Option String :=
  match Command.firstKey r with
  | .ok key => Command.settingName? key
  | .error _ => none

theorem Wire.Request.settingName?_of_first {r : Request} {key : String}
    (first : Command.firstKey r = .ok key) : r.settingName? = Command.settingName? key := by
  simp only [settingName?, first]

namespace Service

theorem get_aside (s : Service) (r : Request) :
    (s.get r).2.settings = s.settings ∧ s.issuer.Aside (s.get r).2.issuer := by
  have ways := s.get_cases r
  generalize s.get r = outcome at ways
  cases ways with
  | badKey | setting | absent => exact ⟨rfl, .refl _⟩
  | asked key number a => exact ⟨rfl, .issueNext s.issuer number a⟩

theorem exist_eq (s : Service) (r : Request) : (s.exist r).2 = s := by
  unfold exist
  split
  · rfl
  · split <;> rfl

theorem del_aside (s : Service) (r : Request) :
    (s.del r).2.settings = s.settings ∧ s.issuer.Aside (s.del r).2.issuer := by
  unfold del
  split
  · exact ⟨rfl, .refl _⟩
  · have deleted := Issuer.Aside.deleteKeys s.issuer 0 r.args
    rcases deleting : Command.deleteKeys s.issuer 0 r.args with ⟨halt | count, issuer⟩
    all_goals rw [deleting] at deleted
    · exact ⟨rfl, deleted⟩
    · exact ⟨rfl, deleted⟩

variable [Patterns] {s s' : Service} {r : Request} {p : Setting}

theorem handle_get_setting (named : r.name = "GET") (about : r.settingName? = some p.name)
    (s : Service) : (s.handle r).1 = .reply (.bulk (utf8 (s.settings.config.text p))) := by
  unfold Request.settingName? at about
  cases first : Command.firstKey r with
  | error fault =>
      rw [first] at about
      cases about
  | ok key =>
      rw [first] at about
      have setting : Command.settingName? key = some p.name := about
      simp only [handle, perform, named, get, first, setting, settingReply, Settings.text?,
        Setting.ofName?_name, Option.map_some]

/-- What a request does to settings. -/
inductive Configures (s : Service) (r : Request) : Except CommandHalt Reply → Service → Prop where
  /-- A setting cannot be written. -/
  | refused (halt : CommandHalt) : Configures s r (.error halt) s
  /-- The request is about something else. -/
  | aside (result : Except CommandHalt Reply) (s' : Service) :
      (r.name = "SET" → r.settingName? = none) → s'.settings = s.settings →
      s.issuer.Aside s'.issuer → Configures s r result s'
  | written (p : Setting) (v : p.Value) (raw : String) (s' : Service) : r.name = "SET" →
      r.settingName? = some p.name → r.arg? 1 = some (utf8 raw) → s.Written p v raw s' →
      Configures s r (.ok .ok) s'

theorem set_configures (named : r.name = "SET") (s : Service) :
    s.Configures r (s.set r).1 (s.set r).2 := by
  have ways := s.set_cases r
  generalize s.set r = outcome at ways
  cases ways with
  | badKey | noValue | notText | notInteger => exact .refused _
  | setting key name text first setting argument =>
      have writes := s.writeSetting_writes name text
      dsimp only
      generalize (s.writeSetting .batchSize name text).1 = result,
        (s.writeSetting .batchSize name text).2 = s' at writes
      cases writes with
      | refused reason => exact .refused _
      | written p v _ isName written =>
          have about := (Request.settingName?_of_first first).trans setting
          exact .written p v text s' named (isName ▸ about) argument written
  | moved key raw value first counter =>
      have notSetting := (Request.settingName?_of_first first).trans counter
      exact .aside _ _ (fun _ => notSetting) rfl (.moveKey s.issuer key (Int64.ofInt value))

theorem perform_configures (s : Service) (r : Request) :
    s.Configures r (s.perform r).1 (s.perform r).2 := by
  have other : ∀ {name : String}, r.name = name → name ≠ "SET" →
      r.name = "SET" → r.settingName? = none := by
    rintro name rfl notSet named
    exact absurd named notSet
  unfold perform
  split
  · obtain ⟨same, aside⟩ := s.get_aside r
    exact .aside _ _ (other ‹_› (by decide)) same aside
  · exact set_configures ‹_› s
  · rw [exist_eq]
    exact .aside _ _ (other ‹_› (by decide)) rfl (.refl _)
  · obtain ⟨same, aside⟩ := s.del_aside r
    exact .aside _ _ (other ‹_› (by decide)) same aside
  · exact .aside _ _ (other ‹_› (by decide)) rfl (.refl _)
  · exact .aside _ _ (other ‹_› (by decide)) rfl (.refl _)
  · exact .refused _

/-! ## Starts -/

/-- What a start makes of the saved settings. It does not fail where the batch size is positive. -/
theorem start_settings {c : Configuration} (runnable : 0 < c.batchSize.toInt) (st : Store)
    (allocators : Array Allocator) :
    ∃ booted, start c st allocators = (.ok booted, booted.service.issuer.store) ∧
      booted.overrides = (c.overrideAll st.savedSettings).1 ∧
      booted.service.settings.config = (c.overrideAll st.savedSettings).2 ∧
      booted.service.issuer.registry.batchSize = booted.service.settings.config.batchSize ∧
      booted.service.issuer.store.contents.settings = st.contents.settings := by
  have positive := Configuration.overrideAll_batchSize runnable st.savedSettings
  unfold start
  rcases overlaid : c.overrideAll st.savedSettings with ⟨overrides, config⟩
  rw [overlaid] at positive
  dsimp only at positive ⊢
  rw [Registry.make_eq positive]
  let s : Issuer := { store := st, allocators, registry := { batchSize := config.batchSize } }
  have numbered : s.Numbered := by
    intro key number registered
    cases registered
  have aside : s.Aside s.restoreKnown.2 := .restore config.batchSize st.knownKeys s 0
  obtain ⟨total, s', restores, -⟩ := Issuer.restore_spec positive st.knownKeys numbered 0
  have restoresKnown : s.restoreKnown = (.ok total, s') := restores
  rw [restoresKnown] at aside
  simp only [s] at restoresKnown
  simp only [restoresKnown]
  exact ⟨_, rfl, rfl, rfl, aside.batchSize, aside.settings⟩

theorem boot_eq {processors : UInt64} {words : List Bytes} {environment : String → Option Bytes}
    {c : Configuration} (accepted : Configuration.start processors words environment = .ok c)
    {st st' : Store} {allocators : Array Allocator} {booted : Booted}
    (calm : (c.overrideAll st.savedSettings).1.crashes = false)
    (started : start c st allocators = (.ok booted, st')) :
    boot processors words environment st allocators = (.ok booted, st') := by
  simp only [boot, accepted, calm, started, Bool.false_eq_true, if_false]

theorem launch_eq {c : Configuration} {runnable : 0 < c.batchSize.toInt} {st : Store}
    {booted : Booted} (started : (start c st #[]).1 = .ok booted) :
    launch c runnable st = booted.service := by
  unfold launch
  split
  · rename_i started'
    rw [started] at started'
    cases started'
    rfl
  · rename_i started'
    rw [started] at started'
    cases started'

theorem launch_settings {c : Configuration} (runnable : 0 < c.batchSize.toInt) (st : Store) :
    (launch c runnable st).settings.config = (c.overrideAll st.savedSettings).2 ∧
      (launch c runnable st).issuer.registry.batchSize =
        (launch c runnable st).settings.config.batchSize ∧
      (launch c runnable st).issuer.store.contents.settings = st.contents.settings := by
  obtain ⟨booted, started, -, config, batchSize, settings⟩ := start_settings runnable st #[]
  rw [launch_eq (congrArg Prod.fst started)]
  exact ⟨config, batchSize, settings⟩

end Service

/-- What a command line must say to be accepted, and the configuration it makes then. -/
theorem Configuration.ofLaunch_eq_ok [Patterns] {l : Launch} {c : Configuration}
    (made : ofLaunch l = .ok c) :
    0 < (l.value (.setting .batchSize) : Int64).toInt ∧
      (l.value (.setting .threads) : UInt64) ≠ 0 ∧
      (∃ filter, LogFilter.parse (l.value (.setting .logLevel) : String) = .ok filter) ∧
      ∃ nodes, Node.parseList (l.value (.setting .nodes) : String) = .ok nodes ∧
        c = { value := l.settingValue nodes, written := fun _ => none,
              shutdownTimeout := l.value .shutdownTimeout } := by
  unfold ofLaunch at made
  by_cases low : (l.value (.setting .batchSize) : Int64) ≤ 0
  · simp only [if_pos low] at made
    cases made
  by_cases idle : (l.value (.setting .threads) : UInt64) = 0
  · simp only [if_neg low, if_pos idle] at made
    cases made
  simp only [if_neg low, if_neg idle] at made
  rw [Int64.le_iff_toInt_le] at low
  refine ⟨Int.not_le.mp low, idle, ?_⟩
  cases filter : LogFilter.parse (l.value (.setting .logLevel) : String) with
  | error fault =>
      simp only [filter] at made
      cases made
  | ok parsed =>
      simp only [filter] at made
      cases listed : Node.parseList (l.value (.setting .nodes) : String) with
      | error fault =>
          simp only [listed] at made
          cases made
      | ok nodes =>
          simp only [listed] at made
          cases made
          exact ⟨⟨parsed, rfl⟩, nodes, rfl, rfl⟩

/-- An accepted command line asks for a positive batch size. -/
theorem Configuration.start_batchSize [Patterns] {processors : UInt64} {words : List Bytes}
    {environment : String → Option Bytes} {c : Configuration}
    (accepted : start processors words environment = .ok c) : 0 < c.batchSize.toInt := by
  unfold start at accepted
  split at accepted
  · cases accepted
  · split at accepted
    · cases accepted
    · rename_i launched
      cases accepted
      obtain ⟨positive, -, -, nodes, -, rfl⟩ := ofLaunch_eq_ok launched
      exact positive

end IdService
