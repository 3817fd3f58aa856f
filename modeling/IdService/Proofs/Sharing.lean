import IdService.Proofs.Allocator.Moving
import IdService.Proofs.Holding.Enrolling
import IdService.Proofs.Run

/-! # Several allocators for one key

An allocator that is taken out of the registry, or that was made before a restart, goes on issuing
for whoever holds it, while others are made for its key. All of them reserve from one counter. What
one has reserved is behind the counter, and what is reserved next lies in front of it, so an
identifier never belongs to two, whoever asks when, and whichever increments fail. Calls come one
after the other here: none begins before the one before it has ended.
-/

namespace IdService

namespace Allocator

/-- The identifier can be issued from memory. -/
def AtHand (a : Allocator) (id : Int) : Prop :=
  a.segment.current.toInt < id ∧ id ≤ a.segment.reserved.toInt

theorem Fresh.nothing_atHand {a : Allocator} (fresh : a.Fresh) (id : Int) : ¬ a.AtHand id := by
  rintro ⟨more, less⟩
  simp only [fresh.segment] at more less
  omega

end Allocator

/-! ## Calls -/

/-- An identifier that was issued for a key, and the number of the allocator that issued it. -/
structure Issue where
  key : String
  number : Nat
  id : Int
deriving Repr, DecidableEq

namespace Issuer

/-- What can be asked of an issuer and its store. Allocators are asked by their numbers, registered
or not. -/
inductive Call where
  | store (c : Store.Call)
  | disturb (d : Disturbance)
  | make (key : String) (batchSize : Int64)
  | obtain (key : String)
  | remove (key : String)
  | resize (batchSize : Int64)
  /-- A new registry takes up the known keys; the allocators there are go on being held. -/
  | restart (batchSize : Int64)
  | issue (number : Nat)
  | move (number : Nat) (value : Int64) (force : Bool)
  | retire (number : Nat)
deriving Repr, DecidableEq

/-- What is issued in a call, and the issuer after it. -/
def call (s : Issuer) : Call → Option Issue × Issuer
  | .store c => (none, { s with store := (s.store.call c).2 })
  | .disturb d => (none, { s with store := s.store.disturb d })
  | .make key batchSize => (none, (s.makeAllocator key batchSize).2)
  | .obtain key => (none, (s.obtain key).2)
  | .remove key => (none, { s with registry := s.registry.remove key })
  | .resize batchSize =>
    match s.registry.withBatchSize batchSize with
    | .error _ => (none, s)
    | .ok registry => (none, { s with registry })
  | .restart batchSize =>
    match Registry.make batchSize with
    | .error _ => (none, s)
    | .ok registry => (none, ({ s with registry } : Issuer).restoreKnown.2)
  | .issue number =>
    match s.allocator? number with
    | none => (none, s)
    | some a =>
      let (result, s) := s.issueNext number a
      (result.toOption.map fun id => ⟨a.key, number, id.toInt⟩, s)
  | .move number value force =>
    match s.allocator? number with
    | none => (none, s)
    | some a => (none, (s.moveTo number a value force).2)
  | .retire number =>
    match s.allocator? number with
    | none => (none, s)
    | some a => (none, (s.retire a).2)

/-- What is issued in calls one after the other, and the issuer after them. -/
def run (s : Issuer) : List Call → List Issue × Issuer
  | [] => ([], s)
  | c :: rest =>
    let (issue?, s) := s.call c
    let (issues, s) := s.run rest
    (issue?.toList ++ issues, s)

/-- The call does not take the counter of a key away, overwrite it or move it down. -/
def Call.Spares (key : String) (s : Issuer) : Call → Prop
  | .store c => c.Spares key
  | .move number _ _ | .retire number => ∀ a ∈ s.allocator? number, a.key ≠ key
  | _ => True

instance (key : String) (s : Issuer) : DecidablePred (Call.Spares key s)
  | .store c => inferInstanceAs (Decidable (c.Spares key))
  | .move number _ _ | .retire number =>
    inferInstanceAs (Decidable (∀ a ∈ s.allocator? number, a.key ≠ key))
  | .disturb _ | .make .. | .obtain _ | .remove _ | .resize _ | .restart _ | .issue _ =>
    inferInstanceAs (Decidable True)

/-- Each call of a run spares the key when its turn comes. -/
def Sparing (key : String) (s : Issuer) : List Call → Prop
  | [] => True
  | c :: rest => c.Spares key s ∧ (s.call c).2.Sparing key rest

instance decidableSparing (key : String) (s : Issuer) : DecidablePred (s.Sparing key)
  | [] => inferInstanceAs (Decidable True)
  | c :: rest =>
    have := decidableSparing key (s.call c).2 rest
    inferInstanceAs (Decidable (_ ∧ _))

variable {key : String} {s s' s'' : Issuer}

/-! ## Calls that issue nothing for the key -/

/-- The counter of the key has not gone down, and of its allocators each is as it was or new. -/
structure Waits (key : String) (s s' : Issuer) : Prop where
  counter : Contents.KeepsUp key s.store.contents s'.store.contents
  allocators : ∀ number a, s'.allocator? number = some a → a.key = key →
    s.allocator? number = some a ∨ a.Fresh

namespace Waits

theorem refl (key : String) (s : Issuer) : Waits key s s :=
  ⟨.refl key _, fun _ _ there _ => .inl there⟩

theorem trans (first : Waits key s s') (second : Waits key s' s'') : Waits key s s'' where
  counter := first.counter.trans second.counter
  allocators := by
    intro number a there isKey
    rcases second.allocators number a there isKey with old | fresh
    · exact first.allocators number a old isKey
    · exact .inr fresh

theorem of_store (counter : Contents.KeepsUp key s.store.contents s'.store.contents)
    (same : s'.allocators = s.allocators) : Waits key s s' := by
  refine ⟨counter, ?_⟩
  intro number a there _
  unfold allocator? at there
  rw [same] at there
  exact .inl there

theorem of_push (counter : Contents.KeepsUp key s.store.contents s'.store.contents) {a : Allocator}
    (fresh : a.Fresh) (pushed : s'.allocators = s.allocators.push a) : Waits key s s' := by
  refine ⟨counter, ?_⟩
  intro number b there _
  unfold allocator? at there ⊢
  rw [pushed, Array.getElem?_push] at there
  split at there
  · cases there
    exact .inr fresh
  · exact .inl there

theorem of_update {number : Nat} {a : Allocator} {st : Store} (other : a.key ≠ key)
    (same : st.contents.counter? key = s.store.contents.counter? key) :
    Waits key s (s.update number a st) := by
  refine ⟨.of_same same, ?_⟩
  intro m b there isKey
  rw [allocator?_update] at there
  split at there
  · cases there
    exact absurd isKey other
  · exact .inl there

theorem enrol (key : String) (s : Issuer) {a : Allocator} (fresh : a.Fresh) :
    Waits key s (s.enrol a) :=
  .of_push (.refl key _) fresh rfl

theorem restore (key : String) (batchSize : Int64) (keys : List String) (s : Issuer)
    (count : Nat) : Waits key s (s.restore batchSize count keys).2 := by
  apply Issuer.restore_leads
  · exact .refl key
  · intro s s' s'' first second
    exact first.trans second
  · intro s k
    refine .of_store ?_ rfl
    rw [show ({ s with store := s.store.ensureCounter k } : Issuer).store.contents =
      s.store.contents.ensure k from s.store.contents_ensureCounter k]
    exact .ensure _ key k
  · intro s a fresh
    exact .enrol key s fresh

end Waits

theorem call_waits {c : Call} (spares : c.Spares key s)
    (notIssue : ∀ number a, c = .issue number → s.allocator? number = some a → a.key ≠ key) :
    Waits key s (s.call c).2 := by
  cases c with
  | store c => exact .of_store (s.store.keepsUp_call spares) rfl
  | disturb d =>
      refine .of_store (.of_same ?_) rfl
      unfold Contents.counter?
      exact congrArg (Table.get? · _) (s.store.contents_disturb d).1
  | make k batchSize =>
      simp only [call]
      rcases s.makeAllocator_cases k batchSize with same | ⟨a, fresh, pushed⟩
      · rw [same]
        exact .refl key s
      · rw [pushed]
        exact .of_push (.refl key _) fresh rfl
  | obtain k =>
      simp only [call]
      rcases s.obtain_cases k with same | ⟨a, fresh, enrolled⟩
      · rw [same]
        exact .refl key s
      · rw [enrolled]
        exact .enrol key s fresh
  | remove k => exact .of_store (.refl key _) rfl
  | resize batchSize =>
      simp only [call]
      cases s.registry.withBatchSize batchSize with
      | error fault => exact .refl key s
      | ok registry => exact .of_store (.refl key _) rfl
  | restart batchSize =>
      simp only [call]
      cases Registry.make batchSize with
      | error fault => exact .refl key s
      | ok registry =>
          let s₁ : Issuer := { s with registry }
          have reset : Waits key s s₁ := .of_store (.refl key _) rfl
          exact reset.trans (.restore key registry.batchSize s.store.knownKeys s₁ 0)
  | issue number =>
      simp only [call]
      cases there : s.allocator? number with
      | none => exact .refl key s
      | some a =>
          have other := notIssue number a rfl there
          have issues := a.issueNext_issues s.store
          exact .of_update (issues.key_eq ▸ other) (issues.frame.1 key (Ne.symm other))
  | move number value force =>
      simp only [call]
      cases there : s.allocator? number with
      | none => exact .refl key s
      | some a =>
          have other := spares a there
          have sameKey := a.moveTo_key value force s.store
          exact .of_update (fun same => other (sameKey.symm.trans same))
            (a.moveTo_counter?_other value force s.store (Ne.symm other))
  | retire number =>
      simp only [call]
      cases there : s.allocator? number with
      | none => exact .refl key s
      | some a =>
          have other := spares a there
          exact .of_store (.of_same (a.retire_counter?_other s.store (Ne.symm other))) rfl

/-! ## Who has an identifier -/

/-- The allocator has issued the identifier, or has it at hand. -/
def Taken (key : String) (issues : List Issue) (s : Issuer) (number : Nat) (id : Int) : Prop :=
  (∃ i ∈ issues, i.number = number ∧ i.id = id) ∨
    ∃ a, s.allocator? number = some a ∧ a.key = key ∧ a.AtHand id

/-- What is taken lies above `v` and not above `n`, and belongs to one allocator. -/
structure Parted (v n : Int) (taken : Nat → Int → Prop) : Prop where
  within : ∀ number id, taken number id → v < id ∧ id ≤ n
  owner : ∀ number number' id, taken number id → taken number' id → number = number'

/-- One allocator may take what lies above `n`. -/
theorem Parted.grow {v n n' : Int} {taken taken' : Nat → Int → Prop} (parted : Parted v n taken)
    (low : v ≤ n) (more : n ≤ n') (number : Nat)
    (grows : ∀ m id, taken' m id → taken m id ∨ m = number ∧ n < id ∧ id ≤ n') :
    Parted v n' taken' where
  within := by
    intro m id takes
    rcases grows m id takes with old | ⟨-, above, below⟩
    · obtain ⟨above, below⟩ := parted.within m id old
      exact ⟨above, Int.le_trans below more⟩
    · exact ⟨Int.lt_of_le_of_lt low above, below⟩
  owner := by
    intro m m' id takes takes'
    rcases grows m id takes with old | ⟨rfl, above, -⟩
    · rcases grows m' id takes' with old' | ⟨-, above, -⟩
      · exact parted.owner m m' id old old'
      · have below := (parted.within m id old).2
        omega
    · rcases grows m' id takes' with old' | ⟨rfl, -⟩
      · have below := (parted.within m' id old').2
        omega
      · rfl

/-- The allocators of the key share its counter, which is `n` and was `v` before they had issued
anything. -/
structure Shared (key : String) (v n : Int64) (issues : List Issue) (s : Issuer) : Prop where
  counter : s.store.contents.counter? key = some (.value n)
  low : v.toInt ≤ n.toInt
  positive : ∀ number a, s.allocator? number = some a → a.key = key → 0 < a.batchSize.toInt
  parted : Parted v.toInt n.toInt (Taken key issues s)
  /-- What an allocator issued first is less than what it issued later. -/
  ascending : issues.Pairwise fun i j => i.number = j.number → i.id < j.id
  /-- What an allocator has at hand is greater than what it has issued. -/
  ahead : ∀ i ∈ issues, ∀ a, s.allocator? i.number = some a → a.key = key →
    ∀ id, a.AtHand id → i.id < id

namespace Shared

variable {v n : Int64} {issues : List Issue}

theorem start (counter : s.store.contents.counter? key = some (.value v))
    (fresh : ∀ number a, s.allocator? number = some a → a.key = key → a.Fresh) :
    Shared key v v [] s := by
  have nothing : ∀ number id, ¬ Taken key [] s number id := by
    rintro number id (⟨i, member, -⟩ | ⟨a, there, isKey, atHand⟩)
    · cases member
    · exact (fresh number a there isKey).nothing_atHand id atHand
  refine ⟨counter, Int.le_refl _, ?_, ?_, .nil, ?_⟩
  · intro number a there isKey
    exact (fresh number a there isKey).batchSize
  · constructor
    · intro number id taken
      exact absurd taken (nothing number id)
    · intro number number' id taken
      exact absurd taken (nothing number id)
  · intro i member
    cases member

theorem waits (shared : Shared key v n issues s) (waits : Waits key s s') :
    ∃ n', Shared key v n' issues s' := by
  obtain ⟨n', counter, more⟩ := waits.counter n shared.counter
  -- a fresh allocator has nothing at hand, so whatever is at hand was so before
  have same : ∀ number a id, s'.allocator? number = some a → a.key = key → a.AtHand id →
      s.allocator? number = some a := by
    intro number a id there isKey atHand
    rcases waits.allocators number a there isKey with old | fresh
    · exact old
    · exact absurd atHand (fresh.nothing_atHand id)
  refine ⟨n', counter, Int.le_trans shared.low more, ?_, ?_, shared.ascending, ?_⟩
  · intro number a there isKey
    rcases waits.allocators number a there isKey with old | fresh
    · exact shared.positive number a old isKey
    · exact fresh.batchSize
  · apply shared.parted.grow shared.low more 0
    rintro m id (issued | ⟨a, there, isKey, atHand⟩)
    · exact .inl (.inl issued)
    · exact .inl (.inr ⟨a, same m a id there isKey atHand, isKey, atHand⟩)
  · intro i member a there isKey id atHand
    exact shared.ahead i member a (same i.number a id there isKey atHand) isKey id atHand

/-- One allocator issues `id`. It had it at hand, or the counter has moved up to make it so. -/
theorem issue (shared : Shared key v n issues s) {number : Nat} {a : Allocator}
    (there : s.allocator? number = some a) (isKey : a.key = key) (a' : Allocator)
    (sameKey : a'.key = a.key) (sameBatch : a'.batchSize = a.batchSize) {st : Store} {n' : Int64}
    (counter : st.contents.counter? key = some (.value n')) (more : n.toInt ≤ n'.toInt) {id : Int}
    (takes : a.AtHand id ∨ n.toInt < id ∧ id ≤ n'.toInt)
    (keeps : ∀ x, a'.AtHand x → id < x ∧ (a.AtHand x ∨ n.toInt < x ∧ x ≤ n'.toInt)) :
    Shared key v n' (issues ++ [⟨key, number, id⟩]) (s.update number a' st) := by
  have lookUp : ∀ m b, (s.update number a' st).allocator? m = some b →
      m = number ∧ b = a' ∨ m ≠ number ∧ s.allocator? m = some b := by
    intro m b found
    rw [allocator?_update] at found
    by_cases here : m = number
    · subst here
      rw [if_pos ⟨rfl, lt_size_of_allocator? there⟩] at found
      cases found
      exact .inl ⟨rfl, rfl⟩
    · rw [if_neg fun same => here same.1.symm] at found
      exact .inr ⟨here, found⟩
  have latest : ∀ i ∈ issues, i.number = number → i.id < id := by
    intro i member sameNumber
    rcases takes with atHand | ⟨above, -⟩
    · exact shared.ahead i member a (sameNumber ▸ there) isKey id atHand
    · have below := (shared.parted.within i.number i.id (.inl ⟨i, member, rfl, rfl⟩)).2
      exact Int.lt_of_le_of_lt below above
  refine ⟨counter, Int.le_trans shared.low more, ?_, ?_, ?_, ?_⟩
  · intro m b found isKey'
    rcases lookUp m b found with ⟨rfl, rfl⟩ | ⟨-, old⟩
    · exact sameBatch ▸ shared.positive m a there isKey
    · exact shared.positive m b old isKey'
  · apply shared.parted.grow shared.low more number
    rintro m x (⟨i, member, rfl, rfl⟩ | ⟨b, found, isKey', atHand⟩)
    · rcases List.mem_append.mp member with old | new
      · exact .inl (.inl ⟨i, old, rfl, rfl⟩)
      · obtain rfl := List.mem_singleton.mp new
        exact takes.imp (fun had => .inr ⟨a, there, isKey, had⟩) (⟨rfl, ·⟩)
    · rcases lookUp m b found with ⟨rfl, rfl⟩ | ⟨-, old⟩
      · exact (keeps x atHand).2.imp (fun had => .inr ⟨a, there, isKey, had⟩) (⟨rfl, ·⟩)
      · exact .inl (.inr ⟨b, old, isKey', atHand⟩)
  · refine List.pairwise_append.mpr ⟨shared.ascending, List.pairwise_singleton .., ?_⟩
    intro i member j new sameNumber
    obtain rfl := List.mem_singleton.mp new
    exact latest i member sameNumber
  · intro i member b found isKey' x atHand
    rcases List.mem_append.mp member with old | new
    · rcases lookUp i.number b found with ⟨sameNumber, rfl⟩ | ⟨-, there'⟩
      · exact Int.lt_trans (latest i old sameNumber) (keeps x atHand).1
      · exact shared.ahead i old b there' isKey' x atHand
    · obtain rfl := List.mem_singleton.mp new
      rcases lookUp number b found with ⟨-, rfl⟩ | ⟨other, -⟩
      · exact (keeps x atHand).1
      · exact absurd rfl other

theorem issueNext (shared : Shared key v n issues s) {number : Nat} {a : Allocator}
    (there : s.allocator? number = some a) (isKey : a.key = key) :
    ∃ n', Shared key v n' (issues ++ ((s.call (.issue number)).1.toList.filter (·.key = key)))
      (s.call (.issue number)).2 := by
  subst isKey
  have own : ∀ id : Int, ([⟨a.key, number, id⟩] : List Issue).filter (·.key = a.key) =
      [⟨a.key, number, id⟩] := by simp
  have issued := a.issueNext_issues s.store
  simp only [call, there, Issuer.issueNext]
  generalize (a.issueNext s.store).1 = result, (a.issueNext s.store).2.1 = a',
    (a.issueNext s.store).2.2 = st at issued ⊢
  generalize contents : st.contents = c' at issued
  cases issued with
  | atHand left =>
      have next := Counter.toInt_succ left
      simp only [Except.toOption, Option.map_some, Option.toList_some, own]
      refine ⟨n, ?_⟩
      apply shared.issue there rfl
      · rfl
      · rfl
      · exact contents ▸ shared.counter
      · exact Int.le_refl _
      · exact .inl ⟨by omega, by omega⟩
      · rintro x ⟨above, below⟩
        have past : a.segment.current.toInt + 1 < x := next ▸ above
        exact ⟨above, .inl ⟨by omega, below⟩⟩
  | refused halt _ used reserves =>
      simp only [Except.toOption, Option.map_none, Option.toList_none, List.filter_nil,
        List.append_nil]
      apply shared.waits
      refine ⟨.of_same (contents ▸ reserves.counter?_of_error), ?_⟩
      intro m b found isKey
      rw [allocator?_update] at found
      split at found
      · rename_i here
        cases found
        exact .inl (here.1 ▸ there)
      · exact .inl found
  | renewed segment _ used reserves =>
      cases reserves with
      | reserved base sum reads held total ready =>
          obtain rfl : base = n := by simpa [shared.counter] using held.symm
          have positive := shared.positive number a there rfl
          have next : (base + 1).toInt = base.toInt + 1 := Counter.toInt_succ (b := sum) (by omega)
          simp only [Except.toOption, Option.map_some, Option.toList_some, own]
          have counter : st.contents.counter? a.key = some (.value sum) := by
            rw [contents, Contents.counter?_write, if_pos rfl]
          refine ⟨sum, ?_⟩
          apply shared.issue there rfl
          · rfl
          · rfl
          · exact counter
          · omega
          · exact .inr ⟨by omega, by omega⟩
          · rintro x ⟨above, below⟩
            have past : base.toInt + 1 < x := next ▸ above
            exact ⟨above, .inr ⟨by omega, below⟩⟩

end Shared

/-- Where none of the key's allocators is asked, nothing is issued for the key. -/
theorem call_silent {c : Call}
    (notIssue : ∀ number a, c = .issue number → s.allocator? number = some a → a.key ≠ key) :
    (s.call c).1.toList.filter (·.key = key) = [] := by
  cases c with
  | issue number =>
      cases there : s.allocator? number with
      | none => simp [call, there]
      | some a =>
          have other := notIssue number a rfl there
          simp only [call, there]
          cases (s.issueNext number a).1 with
          | error halt => rfl
          | ok id => simp [Except.toOption, other]
  | store | disturb | make | obtain | remove => rfl
  | resize | restart | move | retire =>
      simp only [call]
      split <;> rfl

theorem call_shared {v n : Int64} {issues : List Issue} (shared : Shared key v n issues s)
    {c : Call} (spares : c.Spares key s) :
    ∃ n', Shared key v n' (issues ++ ((s.call c).1.toList.filter (·.key = key))) (s.call c).2 := by
  by_cases asked : ∃ number a, c = .issue number ∧ s.allocator? number = some a ∧ a.key = key
  · obtain ⟨number, a, rfl, there, isKey⟩ := asked
    exact shared.issueNext there isKey
  · have notIssue : ∀ number a, c = .issue number → s.allocator? number = some a → a.key ≠ key :=
      fun number a isIssue there isKey => asked ⟨number, a, isIssue, there, isKey⟩
    rw [call_silent notIssue, List.append_nil]
    exact shared.waits (call_waits spares notIssue)

theorem run_shared {v n : Int64} {issues : List Issue} (shared : Shared key v n issues s)
    {calls : List Call} (sparing : s.Sparing key calls) :
    ∃ n', Shared key v n' (issues ++ ((s.run calls).1.filter (·.key = key))) (s.run calls).2 := by
  induction calls generalizing s n issues with
  | nil => exact ⟨n, (List.append_nil issues).symm ▸ shared⟩
  | cons c rest ih =>
      obtain ⟨n₁, shared₁⟩ := call_shared shared sparing.1
      obtain ⟨n₂, shared₂⟩ := ih shared₁ sparing.2
      have issued : (s.run (c :: rest)).1 =
          (s.call c).1.toList ++ ((s.call c).2.run rest).1 := rfl
      rw [issued, List.filter_append, ← List.append_assoc]
      exact ⟨n₂, shared₂⟩

end Issuer

/-- From a store where the counter of a key is `v`, whoever makes allocators for the key and asks
them, in whichever order, gets no identifier twice. Each allocator issues in ascending order, and
all that is issued lies above `v` and not above the counter. Increments may fail; only moving the
counter by other means is ruled out. -/
theorem allocators_never_collide {key : String} {s : Issuer} {v : Int64}
    (held : s.store.contents.counter? key = some (.value v))
    (fresh : ∀ number a, s.allocator? number = some a → a.key = key → a.Fresh)
    {calls : List Issuer.Call} (sparing : s.Sparing key calls) :
    let issues := (s.run calls).1.filter (·.key = key)
    (issues.map (·.id)).Nodup ∧
      (∀ number, ((issues.filter (·.number = number)).map (·.id)).Pairwise (· < ·)) ∧
      ∃ n, (s.run calls).2.store.contents.counter? key = some (.value n) ∧
        ∀ i ∈ issues, v.toInt < i.id ∧ i.id ≤ n.toInt := by
  intro issues
  obtain ⟨n, shared⟩ := Issuer.run_shared (.start held fresh) sparing
  rw [List.nil_append] at shared
  have taken : ∀ i ∈ issues, Issuer.Taken key issues (s.run calls).2 i.number i.id :=
    fun i member => .inl ⟨i, member, rfl, rfl⟩
  refine ⟨?_, ?_, n, shared.counter, ?_⟩
  · refine List.pairwise_map.mpr (shared.ascending.imp_of_mem ?_)
    intro i j first second ascends same
    have sameNumber := shared.parted.owner i.number j.number j.id (same ▸ taken i first)
      (taken j second)
    exact Int.ne_of_lt (ascends sameNumber) same
  · intro number
    refine List.pairwise_map.mpr ((shared.ascending.filter _).imp_of_mem ?_)
    intro i j first second ascends
    have numbers : i.number = number ∧ j.number = number := by
      simp only [List.mem_filter, decide_eq_true_eq] at first second
      exact ⟨first.2, second.2⟩
    exact ascends (numbers.1.trans numbers.2.symm)
  · intro i member
    exact shared.parted.within i.number i.id (taken i member)

/-- An allocator is held on to while others are made for its key, one of them by a restart. -/
def heldOn : List Issuer.Call :=
  [.store (.addKnown "k"), .obtain "k", .issue 0, .remove "k", .make "k" 3,
    .disturb (.failIncrements 1), .issue 1, .issue 1, .issue 0, .store (.advance "k" 5),
    .restart 2, .issue 2, .issue 1, .issue 0]

theorem heldOn_never_collides :
    let s : Issuer :=
      { store := .volatile { counters := Table.insert {} "k" 7 }, registry := { batchSize := 2 } }
    (s.run heldOn).1.map (fun i => (i.number, i.id)) =
        [(0, 8), (1, 10), (0, 9), (2, 18), (1, 11), (0, 20)] ∧
      (((s.run heldOn).1.filter (·.key = "k")).map (·.id)).Nodup := by
  intro s
  have held : s.store.contents.counter? "k" = some (.value 7) := by decide +kernel
  have fresh : ∀ number a, s.allocator? number = some a → a.key = "k" → a.Fresh := by
    intro number a there
    cases there
  have sparing : s.Sparing "k" heldOn := by decide +kernel
  exact ⟨by decide +kernel, (allocators_never_collide held fresh sparing).1⟩

end IdService
