import IdService.Proofs.Run
import IdService.Proofs.Service.Settings
import IdService.Proofs.Settings.Reading

/-! # Crashes

Only the read of a counter and that of a log filter can crash. The one is the first thing that an
allocator does for a new batch, the other the first thing that is done with the text of a setting.
So a crash comes of a GET, or of a SET of the log level, before anything has changed.
-/

namespace IdService

open Wire

/-! ## Stores -/

namespace Store

variable {st : Store} {key : String}

theorem readCounter_of_crash (crash : (st.readCounter key).1 = .error .crash) :
    (st.readCounter key).2 = st := by
  cases st with
  | persistent st => rfl
  | volatile st =>
      simp only [readCounter, VolatileStore.readCounter] at crash ⊢
      split at crash
      · rename_i crashes
        rw [if_pos crashes]
      · split at crash <;> cases crash

theorem removeCounter_ne_crash (st : Store) (key : String) :
    (st.removeCounter key).1 ≠ .error .crash := by
  have result := congrArg Prod.fst (st.removeCounter_contents key)
  rw [show (st.removeCounter key).1 = _ from result]
  unfold Contents.remove
  split <;> simp

end Store

/-! ## Allocators -/

namespace Allocator

variable {a : Allocator} {st : Store}

theorem reserveBatch_of_crash (crash : (a.reserveBatch st).1 = .error .crash) :
    (a.reserveBatch st).2 = st := by
  have reserves := a.reserveBatch_reserves st
  rw [crash] at reserves
  generalize (a.reserveBatch st).2.contents = after at reserves
  cases reserves with
  | crash crashes =>
      have read : (st.readCounter a.key).1 = .error .crash := by
        rw [st.readCounter_fst, Contents.read, if_pos crashes]
      have kept := Store.readCounter_of_crash read
      unfold reserveBatch
      rcases reading : st.readCounter a.key with ⟨result, st'⟩
      rw [reading] at read kept
      obtain rfl := read
      exact kept

theorem issueNext_of_crash (crash : (a.issueNext st).1 = .error .crash) :
    (a.issueNext st).2 = (a, st) := by
  unfold issueNext at crash ⊢
  split at crash
  · rename_i exhausted
    have reserve := @reserveBatch_of_crash a st
    rw [if_pos exhausted]
    rcases reserving : a.reserveBatch st with ⟨halt | segment, after⟩
    · rw [reserving] at crash reserve
      cases crash
      rw [show after = st from reserve rfl]
    · rw [reserving] at crash
      cases crash
  · cases crash

end Allocator

/-! ## Issuers -/

namespace Issuer

variable {s : Issuer} {key : String} {number : Nat} {a : Allocator}

theorem update_self (found : s.find? key = some (number, a)) : s.update number a s.store = s := by
  obtain ⟨-, there⟩ := find?_eq_some.mp found
  obtain ⟨inside, rfl⟩ := Array.getElem?_eq_some_iff.mp there
  have same : s.allocators.setIfInBounds number s.allocators[number] = s.allocators := by
    apply Array.ext_getElem?
    intro n
    rw [Array.getElem?_setIfInBounds]
    split
    · rename_i here
      subst here
      simp [inside]
    · rfl
  rw [update, same]

theorem issueNext_of_crash (found : s.find? key = some (number, a))
    (crash : (s.issueNext number a).1 = .error .crash) : (s.issueNext number a).2 = s := by
  have nothing : (a.issueNext s.store).2 = (a, s.store) := Allocator.issueNext_of_crash crash
  have after : (s.issueNext number a).2 =
      s.update number (a.issueNext s.store).2.1 (a.issueNext s.store).2.2 := rfl
  rw [after, nothing]
  exact update_self found

end Issuer

namespace Command

theorem moveKey_ne_crash (s : Issuer) (key : String) (value : Int64) :
    (moveKey s key value).1 ≠ .error .crash := by
  unfold moveKey
  rcases s.obtain key with ⟨fault | ⟨number, a⟩, s'⟩
  · simp
  · dsimp only
    have moves : (({ s' with store := s'.store.addKnown key } : Issuer).moveTo number a value
        false).1 = .ok () := (a.moveTo_unforced value (s'.store.addKnown key)).1
    split
    · rename_i halt _ moving
      rw [moving] at moves
      cases moves
    · simp

theorem deleteKeys_ne_crash (s : Issuer) (count : Nat) (args : List Bytes) :
    (deleteKeys s count args).1 ≠ .error .crash := by
  induction args generalizing s count with
  | nil => simp [deleteKeys]
  | cons raw rest ih =>
      unfold deleteKeys
      split
      · simp
      · split
        · exact ih s count
        · rename_i a _
          have removes := s.store.removeCounter_ne_crash a.key
          split
          · rename_i halt _ retires
            have halts : (s.store.removeCounter a.key).1 = .error halt := congrArg Prod.fst retires
            rw [halts] at removes
            cases halt with
            | crash => exact absurd rfl removes
            | fault reason => simp [CommandHalt.ofHalt]
          · exact ih _ _

end Command

/-! ## Settings -/

theorem Setting.eq_logLevel {p : Setting} (filter : p.kind = .filter) : p = .logLevel := by
  cases p <;> first | rfl | cases filter

theorem Configuration.override_crash [Patterns] {c : Configuration} {name raw : String}
    {fault : SettingFault} (refused : c.override name raw = .error fault) (crash : fault.isCrash) :
    name = Setting.logLevel.name ∧
      ∃ fault, LogFilter.parse (Text.trim raw) = .error fault ∧ fault.isCrash := by
  unfold override at refused
  split at refused
  · cases refused
    cases crash
  · rename_i p found
    unfold write at refused
    cases read : p.kind.parse raw with
    | ok v =>
        rw [read] at refused
        cases refused
    | error reason =>
        rw [read] at refused
        cases refused
        obtain ⟨filter, crashes⟩ := Kind.parse_crash read crash
        have named := Setting.ofName?_eq_some.mp found
        rw [Setting.eq_logLevel filter] at named
        exact ⟨named, crashes⟩

theorem CommandHalt.isCrash_of_write {fault : WriteFault} (crash : ofWriteFault fault = .crash) :
    fault.isCrash := by
  unfold ofWriteFault at crash
  split at crash
  · assumption
  · cases crash

/-! ## Commands -/

namespace Service

variable {s : Service} {r : Request}

theorem get_crash (crash : (s.get r).1 = .error .crash) :
    (s.get r).2 = s ∧ ∃ key, Command.firstKey r = .ok key ∧ Command.settingName? key = none ∧
      (s.issuer.find? key).isSome := by
  have ways := s.get_cases r
  generalize s.get r = outcome at ways crash
  cases ways with
  | badKey | setting | absent => cases crash
  | asked key number a first counter found =>
      obtain ⟨halt, issued, isCrash⟩ := issueReply_eq_error.mp crash
      cases halt with
      | fault reason => cases isCrash
      | crash =>
          have same := Issuer.issueNext_of_crash found issued
          refine ⟨?_, key, first, counter, by rw [found]; rfl⟩
          dsimp only
          rw [same]

theorem exist_ne_crash (s : Service) (r : Request) : (s.exist r).1 ≠ .error .crash := by
  unfold exist
  split
  · simp
  · split <;> simp

theorem del_ne_crash (s : Service) (r : Request) : (s.del r).1 ≠ .error .crash := by
  unfold del
  split
  · simp
  · have deletes := Command.deleteKeys_ne_crash s.issuer 0 r.args
    split
    · rename_i deleting
      rw [deleting] at deletes
      simpa using deletes
    · simp

section

variable [Patterns]

theorem writeSetting_crash {name raw : String} {fault : WriteFault} {s' : Service}
    (wrote : s.writeSetting .batchSize name raw = (.error fault, s')) (crash : fault.isCrash) :
    s' = s ∧ name = Setting.logLevel.name ∧
      ∃ fault, LogFilter.parse (Text.trim raw) = .error fault ∧ fault.isCrash := by
  have writes := s.writeSetting_writes name raw
  rw [wrote] at writes
  cases writes with
  | refused reason taken =>
      exact ⟨rfl, Configuration.override_crash taken crash⟩

/-- The requests that a service can crash at: the store does when the counter of a registered key is
read, the reader of log filters at a text. -/
inductive Trips (s : Service) (r : Request) : Prop where
  | read (key : String) : r.counterKey? "GET" = some key → (s.issuer.find? key).isSome → Trips s r
  | filter (raw : String) (fault : LogFilter.Fault) : r.name = "SET" →
      r.settingName? = some Setting.logLevel.name → r.arg? 1 = some (Text.utf8 raw) →
      LogFilter.parse (Text.trim raw) = .error fault → fault.isCrash → Trips s r

/-- A SET that it can crash at is one of the log level. -/
theorem Trips.of_set (trips : s.Trips r) (named : r.name = "SET") :
    r.settingName? = some Setting.logLevel.name := by
  cases trips with
  | read key about =>
      obtain ⟨other, -⟩ := Request.counterKey?_eq_some.mp about
      rw [named] at other
      exact absurd other (by decide)
  | filter raw fault _ about => exact about

theorem set_crash (named : r.name = "SET") (crash : (s.set r).1 = .error .crash) :
    (s.set r).2 = s ∧ s.Trips r := by
  have ways := s.set_cases r
  generalize s.set r = outcome at ways crash
  cases ways with
  | badKey | noValue | notText | notInteger => cases crash
  | setting key name text first setting argument =>
      have about := (Request.settingName?_of_first first).trans setting
      dsimp only at crash ⊢
      rcases writing : s.writeSetting .batchSize name text with ⟨fault | p, s'⟩
      all_goals rw [writing] at crash
      · have crashes := CommandHalt.isCrash_of_write (Except.error.inj crash)
        obtain ⟨same, isName, fault, found, cut⟩ := writeSetting_crash writing crashes
        exact ⟨same, .filter text fault named (isName ▸ about) argument found cut⟩
      · cases crash
  | moved key raw value =>
      exact absurd (moveReply_eq_error.mp crash)
        (Command.moveKey_ne_crash s.issuer key (Int64.ofInt value))

/-- A request at which a server crashes has changed nothing: not the key's allocator, not its
counter, and nothing else. -/
theorem handle_crash (crash : (s.handle r).1 = .crash) : (s.handle r).2 = s ∧ s.Trips r := by
  rw [handle_eq] at crash ⊢
  dsimp only at crash ⊢
  have crashed : (s.perform r).1 = .error .crash := by
    rcases performing : (s.perform r).1 with (fault | -) | reply
    · rw [performing] at crash
      cases crash
    · rfl
    · rw [performing] at crash
      cases crash
  unfold perform at crashed ⊢
  split at crashed
  · rename_i named
    obtain ⟨same, key, first, setting, found⟩ := get_crash crashed
    exact ⟨same, .read key (Request.counterKey?_eq_some.mpr ⟨named, first, setting⟩) found⟩
  · exact set_crash ‹_› crashed
  · exact absurd crashed (exist_ne_crash s r)
  · exact absurd crashed (del_ne_crash s r)
  · unfold select at crashed
    split at crashed <;> cases crashed
  · cases crashed
  · cases crashed

end

end Service
end IdService
