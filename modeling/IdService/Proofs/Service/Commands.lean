import IdService.Proofs.Holding.Effect
import IdService.Proofs.Holding.Enrolling
import IdService.Proofs.Settings
import IdService.Proofs.Text.Decoding
import IdService.Service

/-! # What commands do to keys

A command is about the key in its first argument, or about all its arguments. What it answers goes
with one step of that key; a refusal keeps every key as it was, except that keys may have been
deleted before the argument at which a deletion stops.
-/

namespace IdService

open Wire

/-- The key a command of a name is about, if counters may have it. -/
def Wire.Request.counterKey? (r : Request) (name : String) : Option String :=
  if r.name = name then
    match Command.firstKey r with
    | .ok key => if Command.settingName? key = none then some key else none
    | .error _ => none
  else none

theorem Wire.Request.counterKey?_eq_some {r : Request} {name key : String} :
    r.counterKey? name = some key ↔
      r.name = name ∧ Command.firstKey r = .ok key ∧ Command.settingName? key = none := by
  unfold counterKey?
  by_cases named : r.name = name
  · rw [if_pos named]
    cases Command.firstKey r with
    | error fault => simp
    | ok first =>
        by_cases counter : Command.settingName? first = none
        · simp only [if_pos counter, Option.some.injEq, Except.ok.injEq]
          constructor
          · rintro rfl
            exact ⟨named, rfl, counter⟩
          · rintro ⟨-, rfl, -⟩
            rfl
        · simp only [if_neg counter, reduceCtorEq, Except.ok.injEq, false_iff]
          rintro ⟨-, rfl, none⟩
          exact counter none
  · rw [if_neg named]
    simp [named]

namespace Command

theorem key_eq_ok {raw : Bytes} {k : String} (read : key raw = .ok k) :
    Text.ofUtf8? raw = some k ∧ k ≠ "" := by
  unfold key at read
  split at read
  · cases read
  · rename_i decoded
    split at read
    · cases read
    · rename_i filled
      cases read
      exact ⟨decoded, fun empty => filled (String.isEmpty_iff.mpr empty)⟩

theorem firstKey_ne_empty {r : Request} {k : String} (first : firstKey r = .ok k) : k ≠ "" := by
  unfold firstKey at first
  split at first
  · cases first
  · exact (key_eq_ok first).2

end Command

namespace Service

variable {s : Service}

/-! ## The ways of a GET and of a SET

What follows about these two goes by their cases, whatever is known of the service. -/

/-- What a GET answers once an identifier has been asked for. -/
def issueReply : Except Halt Int64 → Except CommandHalt Reply
  | .error halt => .error (.ofHalt halt)
  | .ok id => .ok (.bulk ((Numeral.write id.toInt).map Byte.ofAscii))

/-- What a SET answers once a text has been written to a setting. -/
def writeReply : Except WriteFault Setting → Except CommandHalt Reply
  | .error fault => .error (.ofWriteFault fault)
  | .ok _ => .ok .ok

/-- What a SET answers once a key has been moved. -/
def moveReply : Except CommandHalt Unit → Except CommandHalt Reply
  | .error halt => .error halt
  | .ok () => .ok .ok

theorem issueReply_eq_error {result : Except Halt Int64} {halt : CommandHalt} :
    issueReply result = .error halt ↔ ∃ reason, result = .error reason ∧ halt = .ofHalt reason := by
  cases result with
  | error reason => simp [issueReply, eq_comm]
  | ok id => simp [issueReply]

theorem moveReply_eq_error {result : Except CommandHalt Unit} {halt : CommandHalt} :
    moveReply result = .error halt ↔ result = .error halt := by
  cases result with
  | error reason => simp [moveReply]
  | ok _ => simp [moveReply]

inductive GetCases (s : Service) (r : Request) : Except CommandHalt Reply × Service → Prop where
  | badKey (fault : CommandFault) : Command.firstKey r = .error fault →
      GetCases s r (.error (.fault fault), s)
  | setting (key name : String) : Command.firstKey r = .ok key →
      Command.settingName? key = some name → GetCases s r (.ok (s.settingReply name), s)
  | absent (key : String) : Command.firstKey r = .ok key → Command.settingName? key = none →
      s.issuer.find? key = none → GetCases s r (.ok .nil, s)
  | asked (key : String) (number : Nat) (a : Allocator) : Command.firstKey r = .ok key →
      Command.settingName? key = none → s.issuer.find? key = some (number, a) →
      GetCases s r (issueReply (s.issuer.issueNext number a).1,
        { s with issuer := (s.issuer.issueNext number a).2 })

theorem get_cases (s : Service) (r : Request) : s.GetCases r (s.get r) := by
  unfold get
  cases first : Command.firstKey r with
  | error fault => exact .badKey fault first
  | ok key =>
      dsimp only
      cases setting : Command.settingName? key with
      | some name => exact .setting key name first setting
      | none =>
          dsimp only
          cases found : s.issuer.find? key with
          | none => exact .absent key first setting found
          | some entry =>
              obtain ⟨number, a⟩ := entry
              have asked := GetCases.asked key number a first setting found
              dsimp only
              rcases issuing : s.issuer.issueNext number a with ⟨halt | id, issuer⟩
              all_goals rw [issuing] at asked
              · exact asked
              · exact asked

inductive SetCases [Patterns] (s : Service) (r : Request) :
    Except CommandHalt Reply × Service → Prop where
  | badKey (fault : CommandFault) : Command.firstKey r = .error fault →
      SetCases s r (.error (.fault fault), s)
  | noValue (key : String) : Command.firstKey r = .ok key → r.arg? 1 = none →
      SetCases s r (.error (.fault (Command.notEnough r)), s)
  | notText (key name : String) (raw : Bytes) : Command.firstKey r = .ok key →
      Command.settingName? key = some name → r.arg? 1 = some raw → Text.ofUtf8? raw = none →
      SetCases s r (.error (.fault .notUtf8), s)
  | setting (key name text : String) : Command.firstKey r = .ok key →
      Command.settingName? key = some name → r.arg? 1 = some (Text.utf8 text) →
      SetCases s r (writeReply (s.writeSetting .batchSize name text).1,
        (s.writeSetting .batchSize name text).2)
  | notInteger (key : String) (raw : Bytes) : Command.firstKey r = .ok key →
      Command.settingName? key = none → r.arg? 1 = some raw → integer? raw = none →
      SetCases s r (.error (.fault .notInteger), s)
  | moved (key : String) (raw : Bytes) (value : Int) : Command.firstKey r = .ok key →
      Command.settingName? key = none → r.arg? 1 = some raw → integer? raw = some value →
      SetCases s r (moveReply (Command.moveKey s.issuer key (Int64.ofInt value)).1,
        { s with issuer := (Command.moveKey s.issuer key (Int64.ofInt value)).2 })

theorem set_cases [Patterns] (s : Service) (r : Request) : s.SetCases r (s.set r) := by
  unfold set
  cases first : Command.firstKey r with
  | error fault => exact .badKey fault first
  | ok key =>
      dsimp only
      cases argument : r.arg? 1 with
      | none => exact .noValue key first argument
      | some raw =>
          dsimp only
          cases setting : Command.settingName? key with
          | some name =>
              dsimp only
              cases decoded : Text.ofUtf8? raw with
              | none => exact .notText key name raw first setting argument decoded
              | some text =>
                  obtain rfl := Text.ofUtf8?_eq_some.mp decoded
                  have written := SetCases.setting (s := s) key name text first setting argument
                  dsimp only
                  rcases writing : s.writeSetting .batchSize name text with ⟨fault | p, s'⟩
                  all_goals rw [writing] at written
                  · exact written
                  · exact written
          | none =>
              dsimp only
              cases read : integer? raw with
              | none => exact .notInteger key raw first setting argument read
              | some value =>
                  have moved := SetCases.moved (s := s) key raw value first setting argument read
                  dsimp only
                  rcases moving : Command.moveKey s.issuer key (Int64.ofInt value) with
                    ⟨halt | _, issuer⟩
                  all_goals rw [moving] at moved
                  · exact moved
                  · exact moved

/-! ## Getting -/

/-- What a GET comes to. -/
inductive Gets (s : Service) (r : Request) : Except CommandHalt Reply → Service → Prop where
  | badKey (fault : CommandFault) : Command.firstKey r = .error fault →
      Gets s r (.error (.fault fault)) s
  | setting (key name : String) : Command.firstKey r = .ok key →
      Command.settingName? key = some name → Gets s r (.ok (s.settingReply name)) s
  | absent (key : String) : Command.firstKey r = .ok key → Command.settingName? key = none →
      s.issuer.find? key = none → Gets s r (.ok .nil) s
  | issued (key : String) (id : Int64) (s' : Service) : Command.firstKey r = .ok key →
      Command.settingName? key = none → s.issuer.Takes key (some (.issued id.toInt)) s'.issuer →
      Gets s r (.ok (.bulk ((Numeral.write id.toInt).map Byte.ofAscii))) s'
  | refused (key : String) (number : Nat) (a : Allocator) (halt : Halt) (s' : Service) :
      Command.firstKey r = .ok key → Command.settingName? key = none →
      s.issuer.find? key = some (number, a) →
      a.segment.reserved.toInt ≤ a.segment.current.toInt →
      a.Reserves s.issuer.store.contents (.error halt) s'.issuer.store.contents →
      s.issuer.Keeps s'.issuer → Gets s r (.error (.ofHalt halt)) s'

theorem get_gets (sound : s.issuer.Sound) (r : Request) : s.Gets r (s.get r).1 (s.get r).2 := by
  have ways := s.get_cases r
  generalize s.get r = outcome at ways
  cases ways with
  | badKey fault first => exact .badKey fault first
  | setting key name first setting => exact .setting key name first setting
  | absent key first counter absent => exact .absent key first counter absent
  | asked key number a first counter found =>
      dsimp only
      rcases Issuer.issueNext_spec sound found with
        ⟨id, issued, takes⟩ | ⟨halt, refused, keeps, used, reserves⟩
      · rw [issued]
        exact .issued key id _ first counter takes
      · rw [refused]
        exact .refused key number a halt _ first counter found used reserves keeps

/-! ## Setting -/

theorem writeSetting_keeps [Patterns] (sound : s.issuer.Sound) (name raw : String) :
    s.issuer.Keeps (s.writeSetting .batchSize name raw).2.issuer := by
  rcases written : s.settings.write .batchSize s.issuer.store s.issuer.registry name raw with
    ⟨result, settings, store, registry⟩
  obtain ⟨kept, registered, positive⟩ := Settings.write_frame _ _ _ _ _ sound.batchSize written
  have issuer : (s.writeSetting .batchSize name raw).2.issuer =
      { s.issuer with store, registry } := by
    simp only [writeSetting, written]
  rw [issuer]
  have counters : store.contents.counters = s.issuer.store.contents.counters := by
    rcases kept with rfl | ⟨name', rfl⟩
    · rfl
    · rw [Store.contents_keepSetting]
  have known : store.contents.known = s.issuer.store.contents.known := by
    rcases kept with rfl | ⟨name', rfl⟩
    · rfl
    · rw [Store.contents_keepSetting]
  have finds : ∀ k, ({ s.issuer with store, registry } : Issuer).find? k = s.issuer.find? k := by
    intro k
    exact Issuer.find?_congr (congrArg (Table.get? · k) registered) fun _ _ => rfl
  have holdings : ∀ k,
      ({ s.issuer with store, registry } : Issuer).holding k = s.issuer.holding k := by
    intro k
    simp only [Issuer.holding, finds, Contents.counter?, Contents.isKnown, counters, known]
  have numbered : ({ s.issuer with store, registry } : Issuer).Numbered := by
    intro k number there
    exact sound.numbered k number ((congrArg (Table.get? · k) registered).symm.trans there)
  have named : store.contents.Named := ⟨counters ▸ sound.named.counters, known ▸ sound.named.known⟩
  refine ⟨holdings, ⟨fun k => holdings k ▸ sound.holdings k, numbered, named, positive⟩, ?_⟩
  intro faultless
  rcases kept with rfl | ⟨name', rfl⟩
  · exact faultless
  · dsimp only
    rw [Store.contents_keepSetting]
    exact ⟨faultless.increments, faultless.drops, faultless.reads⟩

/-- What a SET comes to. -/
inductive Sets (s : Service) (r : Request) : Except CommandHalt Reply → Service → Prop where
  | badKey (fault : CommandFault) : Command.firstKey r = .error fault →
      Sets s r (.error (.fault fault)) s
  | noValue (key : String) : Command.firstKey r = .ok key → r.arg? 1 = none →
      Sets s r (.error (.fault (Command.notEnough r))) s
  | settingRefused (key name : String) (halt : CommandHalt) (s' : Service) :
      Command.firstKey r = .ok key → Command.settingName? key = some name →
      s.issuer.Keeps s'.issuer → Sets s r (.error halt) s'
  | setting (key name : String) (s' : Service) : Command.firstKey r = .ok key →
      Command.settingName? key = some name → s.issuer.Keeps s'.issuer → Sets s r (.ok .ok) s'
  | notInteger (key : String) (raw : Bytes) : Command.firstKey r = .ok key →
      Command.settingName? key = none → r.arg? 1 = some raw → integer? raw = none →
      Sets s r (.error (.fault .notInteger)) s
  | moved (key : String) (raw : Bytes) (value : Int) (s' : Service) :
      Command.firstKey r = .ok key → Command.settingName? key = none → r.arg? 1 = some raw →
      integer? raw = some value → s.issuer.Takes key (some (.moved value)) s'.issuer →
      Sets s r (.ok .ok) s'

theorem set_sets [Patterns] (sound : s.issuer.Sound) (r : Request) :
    s.Sets r (s.set r).1 (s.set r).2 := by
  have ways := s.set_cases r
  generalize s.set r = outcome at ways
  cases ways with
  | badKey fault first => exact .badKey fault first
  | noValue key first missing => exact .noValue key first missing
  | notText key name _ first setting =>
      exact .settingRefused key name _ _ first setting sound.keeps
  | setting key name text first setting =>
      have keeps := writeSetting_keeps sound name text
      dsimp only
      cases (s.writeSetting .batchSize name text).1 with
      | error fault => exact .settingRefused key name _ _ first setting keeps
      | ok p => exact .setting key name _ first setting keeps
  | notInteger key raw first counter argument unread =>
      exact .notInteger key raw first counter argument unread
  | moved key raw value first counter argument read =>
      have counterKey : Command.IsCounterKey key := ⟨Command.firstKey_ne_empty first, counter⟩
      obtain ⟨moves, takes⟩ := Issuer.moveKey_takes sound counterKey (Int64.ofInt value)
      rw [Counter.toInt_ofInt (contains_of_integer? read)] at takes
      dsimp only
      rw [moves]
      exact .moved key raw value _ first counter argument read takes

end Service

/-! ## Step by step -/

namespace Command

section leads

variable {R : Issuer → Issuer → Prop} (refl : ∀ s, R s s)
  (trans : ∀ s s' s'', R s s' → R s' s'' → R s s'')

include refl trans

theorem moveKey_leads (enrols : ∀ s a, a.Fresh → R s (s.enrol a))
    (adds : ∀ s key, R s { s with store := s.store.addKnown key })
    (moves : ∀ s number a value, R s (s.moveTo number a value false).2) (s : Issuer)
    (key : String) (value : Int64) : R s (moveKey s key value).2 := by
  have obtained : R s (s.obtain key).2 := by
    rcases s.obtain_cases key with same | ⟨a, fresh, enrolled⟩
    · rw [same]
      exact refl s
    · rw [enrolled]
      exact enrols s a fresh
  unfold moveKey
  rcases obtaining : s.obtain key with ⟨fault | ⟨number, a⟩, s₁⟩
  all_goals rw [obtaining] at obtained
  · exact obtained
  · let s₂ : Issuer := { s₁ with store := s₁.store.addKnown key }
    have moved := trans s s₂ _ (trans s s₁ s₂ obtained (adds s₁ key)) (moves s₂ number a value)
    dsimp only
    rcases moving : s₂.moveTo number a value false with ⟨halt | _, s₃⟩
    all_goals rw [moving] at moved
    · exact moved
    · exact moved

theorem deleteKeys_leads (retires : ∀ s a, R s (s.retire a).2)
    (forgets : ∀ s key, R s (s.forget key)) (s : Issuer) (count : Nat) (args : List Bytes) :
    R s (deleteKeys s count args).2 := by
  induction args generalizing s count with
  | nil => exact refl s
  | cons raw rest ih =>
      unfold deleteKeys
      cases key raw with
      | error fault => exact refl s
      | ok key =>
          dsimp only
          cases s.find? key with
          | none => exact ih s count
          | some entry =>
              obtain ⟨number, a⟩ := entry
              have retired := retires s a
              dsimp only
              rcases retiring : s.retire a with ⟨halt | _, s₁⟩
              all_goals rw [retiring] at retired
              · exact retired
              · exact trans s s₁ _ retired (trans s₁ (s₁.forget key) _ (forgets s₁ key) (ih _ _))

end leads

end Command

/-! ## Deleting -/

namespace Command

/-- Every key stays or is dropped; a deletion that gets to its end has dropped all that it lists. -/
theorem deleteKeys_spec {s : Issuer} (sound : s.Sound) (count : Nat) (args : List Bytes) :
    s.Follows (fun _ => none) (deleteKeys s count args).2 ∧
      ∀ total, (deleteKeys s count args).1 = .ok total →
        ∀ raw ∈ args, ∀ k, key raw = .ok k → (deleteKeys s count args).2.holding k = {} := by
  induction args generalizing s count with
  | nil =>
      refine ⟨sound.follows, ?_⟩
      intro total ends raw member
      cases member
  | cons raw rest ih =>
      unfold deleteKeys
      cases read : key raw with
      | error fault =>
          refine ⟨sound.follows, ?_⟩
          intro total ends
          cases ends
      | ok k =>
          dsimp only
          cases found : s.find? k with
          | none =>
              obtain ⟨follows, dropped⟩ := ih sound count
              refine ⟨follows, ?_⟩
              intro total ends raw' member k' read'
              rcases List.mem_cons.mp member with rfl | later
              · rw [read] at read'
                cases read'
                have step := follows.steps k
                rw [Issuer.holding_of_absent sound found] at step
                exact step.absent
              · exact dropped total ends raw' later k' read'
          | some entry =>
              obtain ⟨number, a⟩ := entry
              have spec := Issuer.retire_spec sound found
              dsimp only
              rcases retiring : s.retire a with ⟨result, s₁⟩
              rw [retiring] at spec
              dsimp only at spec
              rcases spec with ⟨halt, rfl, keeps, -⟩ | ⟨rfl, takes, gone⟩
              · refine ⟨keeps.follows, ?_⟩
                intro total ends
                cases ends
              · have first : s.Follows (fun _ => none) (s₁.forget k) := by
                  have follows := takes.follows
                  simpa only [ite_self] using follows
                obtain ⟨follows, dropped⟩ := ih takes.sound (count + 1)
                refine ⟨first.trans follows, ?_⟩
                intro total ends raw' member k' read'
                rcases List.mem_cons.mp member with rfl | later
                · rw [read] at read'
                  cases read'
                  have step := follows.steps k
                  rw [gone] at step
                  exact step.absent
                · exact dropped total ends raw' later k' read'

end Command

theorem Service.del_eq (s : Service) (r : Request) :
    (s.del r).2 = { s with issuer := (Command.deleteKeys s.issuer 0 r.args).2 } := by
  unfold del
  cases args : r.args with
  | nil => rfl
  | cons raw rest =>
      dsimp only
      rcases Command.deleteKeys s.issuer 0 (raw :: rest) with ⟨reason | count, issuer⟩
      · rfl
      · rfl

end IdService
