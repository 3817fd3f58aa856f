import IdService.Log.Plain
import IdService.Proofs.Run
import IdService.Proofs.Service.Settings

/-! # What requests leave alone

Keys and settings share one syntax and one store, but a request is about the ones or the others. A
request about keys changes nothing of the keys that it does not name and no setting, a request about
a setting changes no key, and all other requests change nothing. None of this depends on what is
answered.
-/

namespace IdService

open Text Wire

/-- The arguments in which a request names keys: GET and SET name one, DEL any number of them. -/
def Wire.Request.keyArgs (r : Request) : List Bytes :=
  if r.name = "GET" ∨ r.name = "SET" then r.args.take 1
  else if r.name = "DEL" then r.args
  else []

/-- A request that asks for something only: it has none of the names of commands that change keys,
or it is a GET, and if that names a key other than a setting, this is not registered. -/
def Wire.Request.Asks (r : Request) (registry : Registry) : Prop :=
  (r.name ≠ "GET" ∧ r.name ≠ "SET" ∧ r.name ≠ "DEL") ∨
    (r.name = "GET" ∧ ∀ key, Command.firstKey r = .ok key → Command.settingName? key = none →
      registry.contains key = false)

namespace Command

theorem utf8_of_key {raw : Bytes} {k : String} (read : key raw = .ok k) : utf8 k = raw :=
  ofUtf8?_eq_some.mp (key_eq_ok read).1

theorem ne_firstKey {r : Request} {key k : String} (unnamed : utf8 key ∉ r.args.take 1)
    (first : firstKey r = .ok k) : key ≠ k := by
  rintro rfl
  unfold firstKey at first
  split at first
  · cases first
  · rename_i raw rest args
    simp [args, utf8_of_key first] at unnamed

theorem holding_deleteKeys_other {s : Issuer} (sound : s.Sound) (count : Nat) {args : List Bytes}
    {k : String} (unlisted : utf8 k ∉ args) :
    (deleteKeys s count args).2.holding k = s.holding k := by
  induction args generalizing s count with
  | nil => rfl
  | cons raw rest ih =>
      obtain ⟨notFirst, notLater⟩ := List.ne_and_not_mem_of_not_mem_cons unlisted
      unfold deleteKeys
      cases read : key raw with
      | error fault => rfl
      | ok listed =>
          have apart : k ≠ listed := by
            rintro rfl
            exact notFirst (utf8_of_key read)
          dsimp only
          cases found : s.find? listed with
          | none => exact ih sound count notLater
          | some entry =>
              obtain ⟨number, a⟩ := entry
              have spec := Issuer.retire_spec sound found
              dsimp only
              rcases retiring : s.retire a with ⟨result, s₁⟩
              rw [retiring] at spec
              rcases spec with ⟨halt, rfl, keeps, -⟩ | ⟨rfl, takes, -⟩
              · exact keeps.holdings k
              · exact (ih takes.sound (count + 1) notLater).trans (takes.others k apart)

end Command

namespace Service

variable {s : Service} {r : Request}

/-- What a request must not change, from state to state. -/
structure Confined (s : Service) (r : Request) (s' : Service) : Prop where
  /-- Keys that it does not name keep all their records. -/
  keys : ∀ key, utf8 key ∉ r.keyArgs → s'.issuer.holding key = s.issuer.holding key
  /-- Where it does not name a setting, the settings and the batch size stay. -/
  settings : r.name ≠ "SET" ∨ r.settingName? = none →
    s'.settings = s.settings ∧ s.issuer.Aside s'.issuer
  /-- Where it does, every counter, known key, registration and allocator stays. -/
  counters : r.name = "GET" ∨ r.name = "SET" → r.settingName? ≠ none →
    s'.issuer.store.contents.counters = s.issuer.store.contents.counters ∧
      s'.issuer.store.contents.known = s.issuer.store.contents.known ∧
      s'.issuer.registry.registered = s.issuer.registry.registered ∧
      s'.issuer.allocators = s.issuer.allocators
  /-- Where it only asks for something, there is no change at all. -/
  asking : r.Asks s.issuer.registry → s' = s

/-! ## One command after the other -/

theorem get_keeps_others (sound : s.issuer.Sound) {key : String}
    (unnamed : utf8 key ∉ r.args.take 1) :
    (s.get r).2.issuer.holding key = s.issuer.holding key := by
  have gets := get_gets sound r
  generalize (s.get r).1 = result, (s.get r).2 = s' at gets
  cases gets with
  | badKey | setting | absent => rfl
  | issued k id _ first _ takes => exact takes.others key (Command.ne_firstKey unnamed first)
  | refused k number a halt _ _ _ _ _ _ keeps => exact keeps.holdings key

theorem set_keeps_others [Patterns] (sound : s.issuer.Sound) {key : String}
    (unnamed : utf8 key ∉ r.args.take 1) :
    (s.set r).2.issuer.holding key = s.issuer.holding key := by
  have sets := set_sets sound r
  generalize (s.set r).1 = result, (s.set r).2 = s' at sets
  cases sets with
  | badKey | noValue | notInteger => rfl
  | settingRefused _ _ _ _ _ _ keeps | setting _ _ _ _ _ keeps => exact keeps.holdings key
  | moved k _ _ _ first _ _ _ takes => exact takes.others key (Command.ne_firstKey unnamed first)

theorem perform_keeps_others [Patterns] (sound : s.issuer.Sound) {key : String}
    (unnamed : utf8 key ∉ r.keyArgs) :
    (s.perform r).2.issuer.holding key = s.issuer.holding key := by
  unfold Request.keyArgs at unnamed
  unfold perform
  split
  · rename_i named
    rw [if_pos (.inl named)] at unnamed
    exact get_keeps_others sound unnamed
  · rename_i named
    rw [if_pos (.inr named)] at unnamed
    exact set_keeps_others sound unnamed
  · rw [exist_eq]
  · rename_i named
    simp only [named] at unnamed
    rw [del_eq]
    exact Command.holding_deleteKeys_other sound 0 unnamed
  · rfl
  · rfl
  · rfl

theorem get_of_unregistered (numbered : s.issuer.Numbered)
    (unregistered : ∀ key, Command.firstKey r = .ok key → Command.settingName? key = none →
      s.issuer.registry.contains key = false) : (s.get r).2 = s := by
  have ways := s.get_cases r
  generalize s.get r = outcome at ways
  cases ways with
  | badKey | setting | absent => rfl
  | asked key number a first counter found =>
      have absent : s.issuer.registry.get? key = none := by
        simpa [Registry.contains, Table.contains, Registry.get?]
          using unregistered key first counter
      rw [(Issuer.find?_eq_none numbered).mpr absent] at found
      cases found

theorem perform_of_asks [Patterns] (numbered : s.issuer.Numbered)
    (asks : r.Asks s.issuer.registry) : (s.perform r).2 = s := by
  rcases asks with ⟨notGet, notSet, notDel⟩ | ⟨named, unregistered⟩
  · unfold perform
    split
    · exact absurd ‹_› notGet
    · exact absurd ‹_› notSet
    · exact s.exist_eq r
    · exact absurd ‹_› notDel
    · rfl
    · rfl
    · rfl
  · have gets : s.perform r = s.get r := by simp only [perform, named]
    rw [gets]
    exact get_of_unregistered numbered unregistered

theorem perform_confined [Patterns] (sound : s.issuer.Sound) (r : Request) :
    s.Confined r (s.perform r).2 where
  keys _ := perform_keeps_others sound
  settings := by
    intro noSetting
    have configures := s.perform_configures r
    generalize (s.perform r).1 = result, (s.perform r).2 = s' at configures
    cases configures with
    | refused => exact ⟨rfl, .refl _⟩
    | aside _ _ _ same aside => exact ⟨same, aside⟩
    | written p v raw _ named about _ _ =>
        rcases noSetting with notSet | none
        · exact absurd named notSet
        · rw [about] at none
          cases none
  counters := by
    intro getOrSet isSetting
    have configures := s.perform_configures r
    rcases getOrSet with get | set
    · have asks : r.Asks s.issuer.registry := by
        refine .inr ⟨get, fun key first none => absurd ?_ isSetting⟩
        simp only [Request.settingName?, first, none]
      rw [perform_of_asks sound.numbered asks]
      exact ⟨rfl, rfl, rfl, rfl⟩
    · generalize (s.perform r).1 = result, (s.perform r).2 = s' at configures
      cases configures with
      | refused => exact ⟨rfl, rfl, rfl, rfl⟩
      | aside _ _ notSetting _ _ => exact absurd (notSetting set) isSetting
      | written p v raw _ _ _ _ written =>
          rw [written.issuer]
          simp
  asking := perform_of_asks sound.numbered

end Service

/-! ## Runs -/

/-- In every state of a server a request changes nothing but what it names, whatever is answered. -/
theorem requests_confined [Patterns] (engine : Engine) {c : Configuration}
    (runnable : 0 < c.batchSize.toInt) (events : List Event) (r : Request) :
    let s := (engine.run c runnable events).2
    s.Confined r (s.handle r).2 := by
  intro s
  rw [Service.handle_eq]
  exact Service.perform_confined (engine.run_sound runnable events) r

def twoKeys : List Event := [.ofTexts "SET" ["a", "1"], .ofTexts "SET" ["b", "5"]]

/-- A deletion of one key, a write to a setting, and a GET of a key that there is not. -/
theorem twoKeys_confined :
    let s := (Engine.volatile.run (.ofBatchSize 3) (by decide) twoKeys).2
    (s.handle ⟨utf8 "DEL", [utf8 "a"]⟩).2.issuer.holding "b" = s.issuer.holding "b" ∧
      (s.handle ⟨utf8 "DEL", [utf8 "a"]⟩).2.settings = s.settings ∧
      (s.handle ⟨utf8 "SET", [utf8 "cfg.batch_size", utf8 "9"]⟩).2.issuer.allocators =
        s.issuer.allocators ∧
      (s.handle ⟨utf8 "GET", [utf8 "c"]⟩).2 = s := by
  intro s
  have confined := requests_confined .volatile (c := .ofBatchSize 3) (by decide) twoKeys
  have deletes := confined ⟨utf8 "DEL", [utf8 "a"]⟩
  have tunes := confined ⟨utf8 "SET", [utf8 "cfg.batch_size", utf8 "9"]⟩
  have asks := confined ⟨utf8 "GET", [utf8 "c"]⟩
  refine ⟨deletes.keys "b" (by decide +kernel), (deletes.settings (.inl (by decide +kernel))).1,
    (tunes.counters (.inr (by decide +kernel)) (by decide +kernel)).2.2.2, asks.asking ?_⟩
  refine .inr ⟨by decide +kernel, fun key first _ => ?_⟩
  obtain rfl : "c" = key := Except.ok.inj first
  decide +kernel

end IdService
