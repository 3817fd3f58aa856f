import IdService.Log.Plain
import IdService.Proofs.Holding.Striking

/-! # Deleting many keys

A deletion of many keys is a row of deletions of one key each, up to the first whose counter cannot
be dropped. It strikes out the keys in front of that one and leaves all others alone. Sent again, it
passes over those that are gone and comes to the one that it had stopped at, so that in the end all
are gone as if nothing had failed.
-/

namespace IdService

open Text Wire

/-- How many drops to come will fail. -/
def Issuer.failing (s : Issuer) : Nat := s.store.contents.failingDrops

/-- How a deletion ends that could not drop the counter of a key. -/
def CommandHalt.dropRefused (key : String) : CommandHalt :=
  .fault (.counter (.unavailable (.drop key)))

/-- How it is answered. -/
def Answer.dropRefused (key : String) : Answer :=
  .reply (.error (CommandFault.counter (.unavailable (.drop key))).message)

/-! ## One key -/

namespace Command

variable {s : Issuer}

theorem key_utf8 {key : String} (notEmpty : key ≠ "") : Command.key (utf8 key) = .ok key := by
  have filled : ¬ key.isEmpty := by simpa using notEmpty
  simp only [Command.key, ofUtf8?_utf8, if_neg filled]

/-- What a deletion of one key comes to. The key is struck out and counted if it was registered, or
its counter could not be dropped and there is one failure less to come. -/
inductive DeletesOne (s : Issuer) (key : String) : Except CommandHalt Nat → Issuer → Prop where
  | struck (s' : Issuer) : s'.records = s.strike key →
      ((s.find? key).isSome → s.failing = 0) → s'.failing = s.failing →
      DeletesOne s key (.ok (if (s.find? key).isSome then 1 else 0)) s'
  | kept (s' : Issuer) : (s.find? key).isSome → s'.records = s.records →
      s.failing = s'.failing + 1 → DeletesOne s key (.error (.dropRefused key)) s'

theorem deletesOne (numbered : s.Numbered) {key : String} (notEmpty : key ≠ "") :
    DeletesOne s key (deleteKeys s 0 [utf8 key]).1 (deleteKeys s 0 [utf8 key]).2 := by
  simp only [deleteKeys, key_utf8 notEmpty]
  cases found : s.find? key with
  | none =>
      have passed : DeletesOne s key (.ok (if (s.find? key).isSome then 1 else 0)) s :=
        .struck s (Issuer.strike_of_absent found).symm (by simp [found]) rfl
      simpa [found] using passed
  | some entry =>
      obtain ⟨number, a⟩ := entry
      have registered : (s.find? key).isSome := by rw [found]; rfl
      obtain rfl := numbered.key_eq found
      have retire : s.retire a = ((s.store.removeCounter a.key).1,
          { s with store := (s.store.removeCounter a.key).2 }) := rfl
      rcases s.store.removeCounter_cases a.key with
        ⟨calm, removes, same, calm'⟩ | ⟨failing, pending, fails, same, left⟩
      · let s' : Issuer := Issuer.forget { s with store := (s.store.removeCounter a.key).2 } a.key
        have struck : s'.records = s.strike a.key := by
          rw [Issuer.strike_of_found found]
          simp only [s', Issuer.records, Issuer.forget, Issuer.retire, Allocator.retire,
            Store.records_removeKnown, same]
        have failing : s'.failing = s.failing := by
          simp only [Issuer.failing, s', Issuer.forget, Store.contents_removeKnown, calm', calm]
        have deleted := DeletesOne.struck s' struck (fun _ => calm) failing
        rw [if_pos registered] at deleted
        simp only [retire, removes]
        exact deleted
      · simp only [retire, fails]
        refine .kept _ registered ?_ ?_
        · simp only [Issuer.records, same]
        · simp only [Issuer.failing, pending, left]

theorem deleteKeys_cons (s : Issuer) (count : Nat) (raw : Bytes) (rest : List Bytes) :
    deleteKeys s count (raw :: rest) =
      match deleteKeys s 0 [raw] with
      | (.error halt, s) => (.error halt, s)
      | (.ok n, s) => deleteKeys s (count + n) rest := by
  simp only [deleteKeys]
  cases key raw with
  | error fault => rfl
  | ok key =>
      dsimp only
      cases s.find? key with
      | none => rfl
      | some entry =>
          obtain ⟨number, a⟩ := entry
          dsimp only
          rcases s.retire a with ⟨halt | _, s₁⟩
          · rfl
          · rfl

theorem deleteKeys_total (sound : s.Sound) {keys : List String} (named : ∀ key ∈ keys, key ≠ "")
    {count total : Nat} (ends : (deleteKeys s count (keys.map utf8)).1 = .ok total) :
    total = count + s.countListed keys := by
  induction keys generalizing s count with
  | nil =>
      cases ends
      rfl
  | cons key rest ih =>
      obtain ⟨first, later⟩ := List.forall_mem_cons.mp named
      rw [List.map_cons, deleteKeys_cons] at ends
      have one := deletesOne sound.numbered first
      generalize deleteKeys s 0 [utf8 key] = deleted at one ends
      obtain ⟨result, s'⟩ := deleted
      cases one with
      | struck _ same =>
          have sound' : s'.Sound := sound.of_strike same
          have rest_total := ih sound' later ends
          rw [Issuer.countListed_of_records (same.trans (s.records_strike key).symm)] at rest_total
          rw [rest_total, Issuer.countListed_cons sound]
          omega
      | kept => cases ends

end Command

namespace Service

variable {s : Service} {keys : List String}

/-! ## One request after the other -/

/-- The service once its store has been told what is to go wrong. -/
def told (s : Service) (orders : List Disturbance) : Service :=
  { s with issuer := { s.issuer with store := orders.foldl Store.disturb s.issuer.store } }

theorem records_told (s : Service) (orders : List Disturbance) :
    (s.told orders).issuer.records = s.issuer.records := by
  simp only [told, Issuer.records, Store.records_disturbed]

theorem failing_told (s : Service) (failures : Nat) :
    (s.told [.failDrops failures]).issuer.failing ≤ failures := by
  obtain ⟨⟨store, allocators, registry⟩, settings⟩ := s
  cases store with
  | volatile st => exact Nat.le_refl _
  | persistent st => exact Nat.zero_le _

/-- The keys, and nothing told to the store. -/
def calmly (keys : List String) : List (List Disturbance × String) := keys.map fun key => ([], key)

theorem calmly_keys (keys : List String) : (calmly keys).map Prod.snd = keys := by
  simp [calmly, Function.comp_def]

variable [Patterns]

theorem perform_deletion (s : Service) (keys : List String) :
    s.perform (deletion keys) = s.del (deletion keys) := by
  have closed : (⟨utf8 "DEL", []⟩ : Request).name = "DEL" := by decide +kernel
  have named : (deletion keys).name = "DEL" := closed
  simp only [perform, named]

theorem handle_deletion_nil (s : Service) :
    s.handle (deletion []) =
      (.reply (.error (Command.notEnough (deletion [])).message), s) := by
  rw [handle_eq, perform_deletion]
  rfl

theorem handle_deletion (s : Service) (filled : keys ≠ []) :
    s.handle (deletion keys) =
      (.ofResult ((Command.deleteKeys s.issuer 0 (keys.map utf8)).1.map fun count =>
          .integer (.ofNat count)),
        { s with issuer := (Command.deleteKeys s.issuer 0 (keys.map utf8)).2 }) := by
  obtain ⟨key, rest, rfl⟩ := List.exists_cons_of_ne_nil filled
  rw [handle_eq, perform_deletion]
  simp only [del, deletion, List.map_cons]
  rcases Command.deleteKeys s.issuer 0 (utf8 key :: rest.map utf8) with ⟨halt | count, issuer⟩
  · rfl
  · rfl

/-- Deletions of one key each, one after the other up to the first that is refused. Before each the
store is told what is to go wrong. Gives the refusal, if there is one. -/
def deleteEach (s : Service) : List (List Disturbance × String) → Option Answer × Service
  | [] => (none, s)
  | (orders, key) :: rest =>
    match (s.told orders).handle (deletion [key]) with
    | (.reply (.integer _), s) => s.deleteEach rest
    | (refusal, s) => (some refusal, s)

theorem deleteEach_cons (s : Service) (orders : List Disturbance) (key : String)
    (rest : List (List Disturbance × String)) :
    s.deleteEach ((orders, key) :: rest) =
      match Command.deleteKeys (s.told orders).issuer 0 [utf8 key] with
      | (.ok _, issuer) => deleteEach { s with issuer } rest
      | (.error halt, issuer) => (some (.ofResult (.error halt)), { s with issuer }) := by
  rw [deleteEach, handle_deletion _ (List.cons_ne_nil key [])]
  simp only [List.map_cons, List.map_nil]
  rcases Command.deleteKeys (s.told orders).issuer 0 [utf8 key] with ⟨halt | count, issuer⟩
  · cases halt <;> rfl
  · rfl

/-- One request for many keys is as many requests for one key. -/
theorem deleteKeys_eq_deleteEach (s : Service) (count : Nat) (keys : List String) :
    s.deleteEach (calmly keys) =
      (match (Command.deleteKeys s.issuer count (keys.map utf8)).1 with
        | .ok _ => none
        | .error halt => some (.ofResult (.error halt)),
        { s with issuer := (Command.deleteKeys s.issuer count (keys.map utf8)).2 }) := by
  induction keys generalizing s count with
  | nil => rfl
  | cons key rest ih =>
      have calm : (s.told []).issuer = s.issuer := rfl
      rw [calmly, List.map_cons, deleteEach_cons, calm, List.map_cons,
        Command.deleteKeys_cons s.issuer count]
      rcases Command.deleteKeys s.issuer 0 [utf8 key] with ⟨halt | n, issuer⟩
      · rfl
      · exact ih _ (count + n)

theorem handle_eq_deleteEach (sound : s.issuer.Sound) (named : ∀ key ∈ keys, key ≠ "") :
    (s.handle (deletion keys)).2 = (s.deleteEach (calmly keys)).2 ∧
      (keys ≠ [] → (s.handle (deletion keys)).1 = (s.deleteEach (calmly keys)).1.getD
        (.reply (.integer (.ofNat (s.issuer.countListed keys))))) := by
  by_cases empty : keys = []
  · subst empty
    rw [handle_deletion_nil]
    exact ⟨rfl, fun filled => absurd rfl filled⟩
  · rw [handle_deletion s empty, s.deleteKeys_eq_deleteEach 0]
    refine ⟨rfl, fun _ => ?_⟩
    have total := @Command.deleteKeys_total s.issuer sound keys named 0
    dsimp only
    cases ends : (Command.deleteKeys s.issuer 0 (keys.map utf8)).1 with
    | error halt => rfl
    | ok n =>
        rw [total ends, Nat.zero_add]
        rfl

end Service

/-! ## What a row of deletions does -/

/-- Some keys have been deleted, and nothing else has changed. -/
structure Issuer.Without (s : Issuer) (keys : List String) (s' : Issuer) : Prop where
  records : s'.records = s.strikes keys
  gone : ∀ key ∈ keys, s'.registry.contains key = false ∧ s'.holding key = {}
  others : ∀ key, key ∉ keys →
    s'.registry.contains key = s.registry.contains key ∧ s'.holding key = s.holding key

theorem Issuer.Sound.without {s s' : Issuer} {keys : List String} (sound : s.Sound)
    (same : s'.records = s.strikes keys) : s.Without keys s' := by
  obtain ⟨-, holdings⟩ := sound.strikes keys
  have numbered : s'.Numbered := (sound.of_strikes same).numbered
  have held : ∀ key, s'.holding key = (s.strikes keys).holding key :=
    Issuer.holding_of_records (by rw [same, Issuer.records_strikes])
  refine ⟨same, fun key listed => ?_, fun key unlisted => ?_⟩
  · have gone : s'.holding key = {} := by
      rw [held, holdings, if_pos listed]
    rw [Issuer.contains_eq numbered, gone]
    exact ⟨rfl, rfl⟩
  · have kept : s'.holding key = s.holding key := by
      rw [held, holdings, if_neg unlisted]
    rw [Issuer.contains_eq numbered, Issuer.contains_eq sound.numbered, kept]
    exact ⟨rfl, rfl⟩

namespace Service

variable {s s' : Service} {keys : List String} {plan : List (List Disturbance × String)}

/-- What a row of deletions comes to. All keys are gone; or those in front of one that is still
registered, whose counter could not be dropped. -/
inductive Deletes (s : Service) (keys : List String) : Option Answer → Service → Prop where
  | all (s' : Service) : s.issuer.Without keys s'.issuer → Deletes s keys none s'
  | upTo (taken rest : List String) (key : String) (s' : Service) : keys = taken ++ key :: rest →
      key ∉ taken → s.issuer.registry.contains key → s.issuer.Without taken s'.issuer →
      Deletes s keys (some (.dropRefused key)) s'

theorem Deletes.cons {t : Service} {key : String} {refusal : Option Answer}
    (sound : s.issuer.Sound) (struck : t.issuer.records = s.issuer.strike key)
    (later : t.Deletes keys refusal s') : s.Deletes (key :: keys) refusal s' := by
  have whole : ∀ taken, t.issuer.Without taken s'.issuer →
      s.issuer.Without (key :: taken) s'.issuer := by
    intro taken without
    apply sound.without
    rw [Issuer.strikes_cons, without.records, Issuer.strikes_of_records]
    rw [struck, Issuer.records_strike]
  cases later with
  | all _ without => exact .all s' (whole keys without)
  | upTo taken rest last _ split notTaken registered without =>
      have sound' : t.issuer.Sound := sound.of_strike struck
      have finds : t.issuer.find? last = if last = key then none else s.issuer.find? last := by
        rw [← Issuer.find?_records, struck, Issuer.find?_strike]
      rw [Issuer.contains_eq_find? sound'.numbered, finds] at registered
      have apart : last ≠ key := by
        intro here
        simp [here] at registered
      rw [if_neg apart, ← Issuer.contains_eq_find? sound.numbered] at registered
      refine .upTo (key :: taken) rest last s' (by rw [split, List.cons_append]) ?_ registered
        (whole taken without)
      simp [apart, notTaken]

theorem named_of_map (named : ∀ key ∈ keys, key ≠ "") (same : plan.map Prod.snd = keys) :
    ∀ e ∈ plan, e.2 ≠ "" := by
  intro e member
  exact named e.2 (same ▸ List.mem_map_of_mem member)

variable [Patterns]

theorem deleteEach_deletes (sound : s.issuer.Sound) (named : ∀ e ∈ plan, e.2 ≠ "") :
    s.Deletes (plan.map Prod.snd) (s.deleteEach plan).1 (s.deleteEach plan).2 := by
  induction plan generalizing s with
  | nil => exact .all s (sound.without rfl)
  | cons e rest ih =>
      obtain ⟨orders, key⟩ := e
      obtain ⟨first, later⟩ := List.forall_mem_cons.mp named
      have same := s.records_told orders
      have one := Command.deletesOne (sound.of_records same).numbered first
      rw [deleteEach_cons, List.map_cons]
      generalize Command.deleteKeys (s.told orders).issuer 0 [utf8 key] = deleted at one
      obtain ⟨result, issuer⟩ := deleted
      cases one with
      | struck _ struck =>
          have struck : issuer.records = s.issuer.strike key := by
            rw [struck, ← Issuer.strike_records, same, Issuer.strike_records]
          exact .cons sound struck (ih (sound.of_strike struck) later)
      | kept _ registered kept =>
          rw [Issuer.find?_of_records same, ← Issuer.contains_eq_find? sound.numbered] at registered
          exact .upTo [] _ key _ rfl List.not_mem_nil registered
            (sound.without (kept.trans same))

/-- A row that nothing is told in between comes to its end, or stops before it has changed
anything, and there is one failure less to come. -/
theorem deleteEach_calmly (sound : s.issuer.Sound) (named : ∀ key ∈ keys, key ≠ "") :
    (s.deleteEach (calmly keys)).1 = none ∨
      (∃ key, (s.deleteEach (calmly keys)).1 = some (.dropRefused key)) ∧
        (s.deleteEach (calmly keys)).2.issuer.records = s.issuer.records ∧
        s.issuer.failing = (s.deleteEach (calmly keys)).2.issuer.failing + 1 := by
  induction keys generalizing s with
  | nil => exact .inl rfl
  | cons key rest ih =>
      obtain ⟨first, later⟩ := List.forall_mem_cons.mp named
      have one := Command.deletesOne sound.numbered first
      have calm : (s.told []).issuer = s.issuer := rfl
      rw [calmly, List.map_cons, deleteEach_cons, calm]
      generalize Command.deleteKeys s.issuer 0 [utf8 key] = deleted at one
      obtain ⟨result, issuer⟩ := deleted
      cases one with
      | struck _ struck calm failing =>
          rcases ih (s := { s with issuer }) (sound.of_strike struck) later with
            ends | ⟨stops, same, pending⟩
          · exact .inl ends
          · refine .inr ⟨stops, ?_, failing.symm.trans pending⟩
            -- a failure is to come, so the first key was not registered
            have absent : s.issuer.find? key = none := by
              cases found : s.issuer.find? key with
              | none => rfl
              | some entry =>
                  have none_pending : s.issuer.failing = 0 := calm (by rw [found]; rfl)
                  rw [← failing, pending] at none_pending
                  cases none_pending
            exact same.trans (struck.trans (Issuer.strike_of_absent absent))
      | kept _ registered kept pending => exact .inr ⟨⟨key, rfl⟩, kept, pending⟩

/-! ## Again and again -/

/-- So many attempts to delete the same keys, all of which were refused. -/
inductive Attempts (s : Service) (keys : List String) : Nat → Service → Prop where
  | none : Attempts s keys 0 s
  | again {n : Nat} {s' : Service} {refusal : Answer} (before : Attempts s keys n s')
      (plan : List (List Disturbance × String)) : plan.map Prod.snd = keys →
      (s'.deleteEach plan).1 = some refusal → Attempts s keys (n + 1) (s'.deleteEach plan).2

/-- Attempts that were refused have struck out the keys in front of one of them. -/
theorem Attempts.without {n : Nat} (attempts : Attempts s keys n s') (sound : s.issuer.Sound)
    (named : ∀ key ∈ keys, key ≠ "") :
    ∃ taken rest, keys = taken ++ rest ∧ s.issuer.Without taken s'.issuer := by
  induction attempts with
  | none => exact ⟨[], keys, rfl, sound.without rfl⟩
  | @again n t refusal before plan same refused ih =>
      obtain ⟨taken, rest, split, without⟩ := ih
      have deletes := deleteEach_deletes (sound.of_strikes without.records)
        (named_of_map named same)
      rw [refused, same] at deletes
      generalize (t.deleteEach plan).2 = after at deletes
      cases deletes with
      | upTo taken' rest' key _ split' notTaken registered without' =>
          have left : key ∉ taken := by
            intro member
            rw [(without.gone key member).1] at registered
            cases registered
          -- the key that is still there lies behind those that are gone
          obtain ⟨more, rfl⟩ : ∃ more, taken' = taken ++ more := by
            rcases List.append_eq_append_iff.mp (split.symm.trans split') with
              ⟨more, shape, -⟩ | ⟨more, shape, tail⟩
            · exact ⟨more, shape⟩
            · cases more with
              | nil => exact ⟨[], by simpa using shape.symm⟩
              | cons k more =>
                  obtain ⟨rfl, -⟩ := List.cons.inj tail
                  exact absurd (by simp [shape]) left
          refine ⟨taken ++ more, key :: rest', split', sound.without ?_⟩
          rw [without'.records, Issuer.strikes_again without.records]

/-- The attempt that comes to its end leaves what one without failures would have left. -/
theorem Attempts.succeeds {n : Nat} (attempts : Attempts s keys n s') (sound : s.issuer.Sound)
    (named : ∀ key ∈ keys, key ≠ "") (same : plan.map Prod.snd = keys)
    (ends : (s'.deleteEach plan).1 = .none) :
    (s'.deleteEach plan).2.issuer.records = s.issuer.strikes keys := by
  obtain ⟨taken, rest, split, without⟩ := attempts.without sound named
  have deletes := deleteEach_deletes (sound.of_strikes without.records) (named_of_map named same)
  rw [ends, same] at deletes
  generalize (s'.deleteEach plan).2 = after at deletes
  cases deletes with
  | all _ all => rw [all.records, split, Issuer.strikes_again without.records]

/-- A deletion is answered with the number of the keys that were registered, and they are gone; or
with an error, nothing has changed, and there is one failure less to come. -/
theorem handle_deletion_cases (sound : s.issuer.Sound) (named : ∀ key ∈ keys, key ≠ "")
    (filled : keys ≠ []) :
    ((s.handle (deletion keys)).1 = .reply (.integer (.ofNat (s.issuer.countListed keys))) ∧
        (s.handle (deletion keys)).2.issuer.records = s.issuer.strikes keys) ∨
      (∃ key, (s.handle (deletion keys)).1 = .dropRefused key) ∧
        (s.handle (deletion keys)).2.issuer.records = s.issuer.records ∧
        s.issuer.failing = (s.handle (deletion keys)).2.issuer.failing + 1 := by
  obtain ⟨state, answer⟩ := handle_eq_deleteEach sound named
  have deletes := deleteEach_deletes sound (named_of_map named (calmly_keys keys))
  rw [answer filled, state]
  rw [calmly_keys] at deletes
  rcases deleteEach_calmly sound named with ends | ⟨⟨key, stops⟩, same, pending⟩
  · rw [ends] at deletes ⊢
    generalize (s.deleteEach (calmly keys)).2 = after at deletes ⊢
    cases deletes with
    | all _ without => exact .inl ⟨rfl, without.records⟩
  · rw [stops]
    exact .inr ⟨⟨key, rfl⟩, same, pending⟩

/-- The same deletion, sent again after each error, so many times at most. -/
def resend (s : Service) (keys : List String) : Nat → Answer × Service
  | 0 => s.handle (deletion keys)
  | n + 1 =>
    match s.handle (deletion keys) with
    | (.reply (.error _), s) => s.resend keys n
    | answered => answered

theorem resend_nil (s : Service) (n : Nat) : (s.resend [] n).2 = s := by
  induction n with
  | zero => rw [resend, handle_deletion_nil]
  | succ n ih =>
      rw [resend, handle_deletion_nil]
      exact ih

/-- To send it again as many times as drops are going to fail is enough. -/
theorem resend_ends (sound : s.issuer.Sound) (named : ∀ key ∈ keys, key ≠ "") {n : Nat}
    (enough : s.issuer.failing ≤ n) :
    (s.resend keys n).2.issuer.records = s.issuer.strikes keys ∧
      (keys ≠ [] → (s.resend keys n).1 =
        .reply (.integer (.ofNat (s.issuer.countListed keys)))) := by
  by_cases empty : keys = []
  · subst empty
    rw [resend_nil]
    exact ⟨rfl, fun filled => absurd rfl filled⟩
  · simp only [ne_eq, empty, not_false_eq_true, forall_const]
    induction n generalizing s with
    | zero =>
        rcases handle_deletion_cases sound named empty with ⟨answer, struck⟩ | ⟨-, -, pending⟩
        · exact ⟨struck, answer⟩
        · omega
    | succ n ih =>
        have attempt := handle_deletion_cases sound named empty
        rw [resend]
        generalize s.handle (deletion keys) = handled at attempt
        obtain ⟨answer, after⟩ := handled
        rcases attempt with ⟨rfl, struck⟩ | ⟨⟨key, rfl⟩, same, pending⟩
        · exact ⟨struck, rfl⟩
        · dsimp only at same pending
          have again := ih (sound.of_records same) (by omega)
          rw [Issuer.strikes_of_records same, Issuer.countListed_of_records same] at again
          exact again

/-- What a deletion leaves behind, where the drops to come fail and it is sent often enough. -/
theorem resend_told (sound : s.issuer.Sound) (named : ∀ key ∈ keys, key ≠ "") {failures n : Nat}
    (enough : failures ≤ n) :
    ((s.told [.failDrops failures]).resend keys n).2.issuer.records = s.issuer.strikes keys ∧
      (keys ≠ [] → ((s.told [.failDrops failures]).resend keys n).1 =
        .reply (.integer (.ofNat (s.issuer.countListed keys)))) := by
  have same := s.records_told [.failDrops failures]
  have ends := resend_ends (sound.of_records same) named ((s.failing_told failures).trans enough)
  rwa [Issuer.strikes_of_records same, Issuer.countListed_of_records same] at ends

end Service

/-! ## Runs -/

/-- In every state of a server, a deletion of many keys is as many deletions of one key, up to the
first that is refused. Without failures it is answered with the number of the keys that were
registered, and all are gone. Whatever fails, and wherever, the keys in front of the one that it
stops at are gone and all others are as they were. Attempts that were refused can be repeated: the
first that comes to its end leaves what one without failures would have left, and it comes as soon
as the failures are used up. -/
theorem deletions_resume [Patterns] (engine : Engine) {c : Configuration}
    (runnable : 0 < c.batchSize.toInt) (events : List Event) {keys : List String}
    (named : ∀ key ∈ keys, key ≠ "") :
    let s := (engine.run c runnable events).2
    let counted : Answer := .reply (.integer (.ofNat (s.issuer.countListed keys)))
    let calm := (s.told [.failDrops 0]).handle (deletion keys)
    (s.handle (deletion keys)).2 = (s.deleteEach (Service.calmly keys)).2 ∧
      (keys ≠ [] →
        (s.handle (deletion keys)).1 = (s.deleteEach (Service.calmly keys)).1.getD counted) ∧
      (s.issuer.failing = 0 → (s.deleteEach (Service.calmly keys)).1 = none ∧
        s.issuer.Without keys (s.handle (deletion keys)).2.issuer) ∧
      (∀ plan : List (List Disturbance × String), plan.map Prod.snd = keys →
        s.Deletes keys (s.deleteEach plan).1 (s.deleteEach plan).2) ∧
      (∀ n s', s.Attempts keys n s' →
        ∀ plan : List (List Disturbance × String), plan.map Prod.snd = keys →
          (s'.deleteEach plan).1 = none →
          (s'.deleteEach plan).2.issuer.records = calm.2.issuer.records) ∧
      ∀ failures n, failures ≤ n →
        let resent := (s.told [.failDrops failures]).resend keys n
        resent.2.issuer.records = calm.2.issuer.records ∧ (keys ≠ [] → resent.1 = counted) := by
  intro s counted calm
  have sound := engine.run_sound runnable events
  obtain ⟨state, answer⟩ := Service.handle_eq_deleteEach sound named
  have left : calm.2.issuer.records = s.issuer.strikes keys :=
    (Service.resend_told sound named (Nat.le_refl 0)).1
  refine ⟨state, answer, fun none_pending => ⟨?_, sound.without ?_⟩, fun plan same => ?_,
    fun n s' attempts plan same ends => ?_, fun failures n enough => ?_⟩
  · rcases Service.deleteEach_calmly sound named with ends | ⟨-, -, pending⟩
    · exact ends
    · rw [none_pending] at pending
      cases pending
  · exact (Service.resend_ends sound named (Nat.le_of_eq none_pending)).1
  · have row := Service.deleteEach_deletes sound (Service.named_of_map named same)
    rwa [same] at row
  · rw [left]
    exact attempts.succeeds sound named same ends
  · rw [left]
    exact Service.resend_told sound named enough

/-- Two keys that are registered, one of them listed twice, and one that is not. -/
def listedKeys : List String := ["a", "c", "a", "b"]

/-- Once the counter of the last key cannot be dropped, once it is the first drops that fail. -/
theorem listedKeys_resume :
    let s := (Engine.volatile.run (.ofBatchSize 3) (by decide)
      [.ofTexts "SET" ["a", "1"], .ofTexts "SET" ["b", "5"]]).2
    let stopped := s.deleteEach [([], "a"), ([], "c"), ([], "a"), ([.failDrops 1], "b")]
    let calm := (s.told [.failDrops 0]).handle (deletion listedKeys)
    (s.handle (deletion listedKeys)).1 = .reply (.integer 2) ∧
      s.issuer.Without listedKeys (s.handle (deletion listedKeys)).2.issuer ∧
      s.Deletes listedKeys (some (.dropRefused "b")) stopped.2 ∧
      (stopped.2.deleteEach (Service.calmly listedKeys)).2.issuer.records = calm.2.issuer.records ∧
      ((s.told [.failDrops 3]).resend listedKeys 3).1 = .reply (.integer 2) := by
  intro s stopped calm
  have filled : listedKeys ≠ [] := by decide
  have two : s.issuer.countListed listedKeys = 2 := by decide +kernel
  obtain ⟨-, answer, faultless, row, again, resent⟩ := @deletions_resume _ .volatile
    (.ofBatchSize 3) (by decide) [.ofTexts "SET" ["a", "1"], .ofTexts "SET" ["b", "5"]] listedKeys
    (by decide)
  obtain ⟨ends, without⟩ := faultless (by decide +kernel)
  have stops : stopped.1 = some (.dropRefused "b") := by decide +kernel
  have attempt : s.Attempts listedKeys 1 stopped.2 := .again .none _ rfl stops
  refine ⟨?_, without, stops ▸ row _ rfl, again 1 _ attempt _ rfl (by decide +kernel), ?_⟩
  · rw [answer filled, ends]
    exact congrArg (fun n => Answer.reply (.integer (.ofNat n))) two
  · rw [(resent 3 3 (Nat.le_refl 3)).2 filled]
    exact congrArg (fun n => Answer.reply (.integer (.ofNat n))) two

end IdService
