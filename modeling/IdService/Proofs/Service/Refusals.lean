import IdService.Log.Plain
import IdService.Proofs.Run
import IdService.Proofs.Service.Settings
import Mathlib.Control.Monad.Basic

/-! # What a refused request leaves behind

A request is refused for what it says: too few arguments, one that is no key or no text, a value
that is no integer, a command or a setting that there is not, a text that is no value. Commands look
at what they are given before they act, so that such a request changes nothing. Only a deletion
looks at its arguments one by one, and has acted on those in front of the one that it stops at.
-/

namespace IdService

open Wire

/-- The fault is one of the request itself. Those of counters are not, nor is a setting that could
not be stored. -/
def CommandFault.OfRequest : CommandFault → Prop
  | notEnoughArguments _ | emptyKey | notUtf8 | notInteger | notSupported | setting (.setting _) =>
    True
  | setting (.store _) | counter _ => False

/-- The command ends for what the request says, and not for what the store does. -/
def CommandHalt.OfRequest : CommandHalt → Prop
  | .fault reason => reason.OfRequest
  | .crash => False

theorem CommandHalt.not_ofRequest (halt : Halt) : ¬ (ofHalt halt).OfRequest := by
  cases halt with
  | fault reason => exact not_false
  | crash => exact not_false

/-! ## Deleting -/

namespace Command

/-- The keys in the arguments in front of the first that is no key. -/
def leadingKeys : List Bytes → List String
  | [] => []
  | raw :: rest =>
    match key raw with
    | .error _ => []
    | .ok k => k :: leadingKeys rest

variable {s : Issuer}

theorem deleteKeys_absent (count : Nat) {args : List Bytes}
    (absent : ∀ k ∈ leadingKeys args, s.find? k = none) : (deleteKeys s count args).2 = s := by
  induction args with
  | nil => rfl
  | cons raw rest ih =>
      unfold deleteKeys
      unfold leadingKeys at absent
      cases read : key raw with
      | error fault => rfl
      | ok k =>
          rw [read] at absent
          simp only [absent k (List.mem_cons_self ..)]
          exact ih fun k' member => absent k' (List.mem_cons_of_mem k member)

theorem find?_retire (s : Issuer) (a : Allocator) (k : String) :
    (s.retire a).2.find? k = s.find? k :=
  Issuer.find?_congr rfl fun _ _ => rfl

theorem deleteKeys_find?_none {k : String} (absent : s.find? k = none) (count : Nat)
    (args : List Bytes) : (deleteKeys s count args).2.find? k = none := by
  induction args generalizing s count with
  | nil => exact absent
  | cons raw rest ih =>
      unfold deleteKeys
      cases key raw with
      | error fault => exact absent
      | ok k' =>
          dsimp only
          cases s.find? k' with
          | none => exact ih absent count
          | some entry =>
              obtain ⟨number, a⟩ := entry
              have retired := find?_retire s a k
              dsimp only
              rcases retiring : s.retire a with ⟨halt | _, s₁⟩
              all_goals rw [retiring] at retired
              · exact retired.trans absent
              · apply ih
                rw [Issuer.find?_remove]
                split
                · rfl
                · exact retired.trans absent

/-- A deletion that the store does not stop has taken every key out of the registry that it came
to. -/
theorem deleteKeys_find?_leading (count : Nat) {args : List Bytes}
    (stops : ∀ halt, (deleteKeys s count args).1 = .error halt → halt.OfRequest) :
    ∀ k ∈ leadingKeys args, (deleteKeys s count args).2.find? k = none := by
  induction args generalizing s count with
  | nil =>
      intro k member
      cases member
  | cons raw rest ih =>
      unfold deleteKeys at stops ⊢
      unfold leadingKeys
      cases read : key raw with
      | error fault =>
          intro k member
          cases member
      | ok k' =>
          simp only [read] at stops ⊢
          cases found : s.find? k' with
          | none =>
              simp only [found] at stops ⊢
              intro k member
              rcases List.mem_cons.mp member with rfl | later
              · exact deleteKeys_find?_none found count rest
              · exact ih count stops k later
          | some entry =>
              obtain ⟨number, a⟩ := entry
              simp only [found] at stops ⊢
              rcases retiring : s.retire a with ⟨halt | _, s₁⟩
              -- the store stops the deletion, which is ruled out
              · simp only [retiring] at stops
                exact absurd (stops _ rfl) (CommandHalt.not_ofRequest halt)
              · simp only [retiring] at stops ⊢
                intro k member
                rcases List.mem_cons.mp member with rfl | later
                · apply deleteKeys_find?_none
                  rw [Issuer.find?_remove, if_pos rfl]
                · exact ih _ stops k later

theorem moveKey_not_ofRequest {key : String} {value : Int64} {halt : CommandHalt}
    (refused : (moveKey s key value).1 = .error halt) : ¬ halt.OfRequest := by
  unfold moveKey at refused
  rcases obtaining : s.obtain key with ⟨reason | ⟨number, a⟩, s₁⟩
  · simp only [obtaining] at refused
    cases refused
    exact not_false
  · simp only [obtaining] at refused
    split at refused
    · cases refused
      exact CommandHalt.not_ofRequest _
    · cases refused

end Command

/-! ## Every command -/

namespace Service

variable {s : Service} {r : Request} {halt : CommandHalt}

theorem get_refused (refused : (s.get r).1 = .error halt) (ofRequest : halt.OfRequest) :
    (s.get r).2 = s := by
  have ways := s.get_cases r
  generalize s.get r = outcome at ways refused
  cases ways with
  | badKey | setting | absent => rfl
  | asked key number a =>
      obtain ⟨reason, -, rfl⟩ := issueReply_eq_error.mp refused
      exact absurd ofRequest (CommandHalt.not_ofRequest reason)

theorem set_refused [Patterns] (refused : (s.set r).1 = .error halt)
    (ofRequest : halt.OfRequest) : (s.set r).2 = s := by
  have ways := s.set_cases r
  generalize s.set r = outcome at ways refused
  cases ways with
  | badKey | noValue | notText | notInteger => rfl
  | setting key name text =>
      have writes := s.writeSetting_writes name text
      dsimp only at refused ⊢
      generalize (s.writeSetting .batchSize name text).1 = result,
        (s.writeSetting .batchSize name text).2 = s' at writes refused
      cases writes with
      | refused reason => rfl
      | written => cases refused
  | moved key raw value =>
      exact absurd ofRequest (Command.moveKey_not_ofRequest (moveReply_eq_error.mp refused))

theorem del_error (refused : (s.del r).1 = .error halt) :
    r.args = [] ∨ (Command.deleteKeys s.issuer 0 r.args).1 = .error halt := by
  unfold del at refused
  cases args : r.args with
  | nil => exact .inl rfl
  | cons raw rest =>
      right
      simp only [args] at refused
      rcases deleting : Command.deleteKeys s.issuer 0 (raw :: rest) with ⟨reason | count, issuer⟩
      all_goals simp only [deleting] at refused
      · cases refused
        rfl
      · cases refused

theorem del_unchanged_iff (refused : (s.del r).1 = .error halt) (ofRequest : halt.OfRequest) :
    (s.del r).2 = s ↔ ∀ key ∈ Command.leadingKeys r.args, s.issuer.find? key = none := by
  constructor
  · intro same key member
    have deleted : (Command.deleteKeys s.issuer 0 r.args).2.find? key = none := by
      rcases del_error refused with none | stopped
      · rw [none] at member
        cases member
      · apply Command.deleteKeys_find?_leading 0 ?_ key member
        intro halt' stopped'
        rw [stopped] at stopped'
        cases stopped'
        exact ofRequest
    rw [del_eq] at same
    have issuer : (Command.deleteKeys s.issuer 0 r.args).2 = s.issuer :=
      congrArg Service.issuer same
    exact issuer ▸ deleted
  · intro absent
    rw [del_eq, Command.deleteKeys_absent 0 absent]

end Service

/-- A request that is refused for what it says changes nothing, if it is no deletion. A deletion
changes nothing if and only if none of the keys in front of the argument that it is refused for is
registered. -/
theorem refusal_keeps_iff [Patterns] {s : Service} {r : Request} {halt : CommandHalt}
    (refused : (s.perform r).1 = .error halt) (ofRequest : halt.OfRequest) :
    (s.handle r).2 = s ↔
      (r.name = "DEL" → ∀ key ∈ Command.leadingKeys r.args, s.issuer.find? key = none) := by
  have keeps : ∀ s', s' = s → r.name ≠ "DEL" → (s' = s ↔
      (r.name = "DEL" → ∀ key ∈ Command.leadingKeys r.args, s.issuer.find? key = none)) := by
    intro s' same other
    exact ⟨fun _ named => absurd named other, fun _ => same⟩
  rw [Service.handle_eq]
  unfold Service.perform at refused ⊢
  split
  · rename_i named
    simp only [named] at refused
    exact keeps _ (Service.get_refused refused ofRequest) (by simp [named])
  · rename_i named
    simp only [named] at refused
    exact keeps _ (Service.set_refused refused ofRequest) (by simp [named])
  · rename_i named
    exact keeps _ (s.exist_eq r) (by simp [named])
  · rename_i named
    simp only [named, forall_const] at refused ⊢
    exact Service.del_unchanged_iff refused ofRequest
  · rename_i named
    exact keeps _ rfl (by simp [named])
  · rename_i named
    exact keeps _ rfl (by simp [named])
  · rename_i notDel _ _
    exact keeps _ rfl notDel

def deletion (keys : List String) : Request := ⟨Text.utf8 "DEL", keys.map Text.utf8⟩

/-- Both deletions are refused for their empty key. The one has a key that is not registered in
front of it and changes nothing; the other does. -/
theorem emptyKey_keeps_iff :
    let s := (Engine.volatile.run (.ofBatchSize 3) (by decide) [.ofTexts "SET" ["a", "1"]]).2
    (s.handle (deletion ["b", ""])).2 = s ∧ (s.handle (deletion ["a", ""])).2 ≠ s := by
  intro s
  have refused : (s.perform (deletion ["b", ""])).1 = .error (.fault .emptyKey) := by
    decide +kernel
  have refused' : (s.perform (deletion ["a", ""])).1 = .error (.fault .emptyKey) := by
    decide +kernel
  have ofRequest : (CommandHalt.fault .emptyKey).OfRequest := trivial
  refine ⟨(refusal_keeps_iff refused ofRequest).mpr fun _ => by decide +kernel, ?_⟩
  intro same
  have absent := (refusal_keeps_iff refused' ofRequest).mp same (by decide +kernel) "a"
    (by decide +kernel)
  have found : (s.issuer.find? "a").isSome := by decide +kernel
  rw [absent] at found
  cases found

/-- A refused request can have changed something: the deletion of a registered key and of an empty
one is refused, and the first key is gone. -/
theorem not_every_refusal_keeps :
    ¬ ∀ (events : List Event) (r : Request) (halt : CommandHalt),
      let s := (Engine.volatile.run (.ofBatchSize 3) (by decide) events).2
      (s.perform r).1 = .error halt → halt.OfRequest → (s.handle r).2 = s := by
  intro keeps
  have same := keeps [.ofTexts "SET" ["a", "1"]] (deletion ["a", ""]) (.fault .emptyKey)
    (by decide +kernel) trivial
  have registered := congrArg (fun s => (s.issuer.find? "a").isSome) same
  exact absurd registered (by decide +kernel)

end IdService
