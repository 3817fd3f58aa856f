import IdService.Log.Plain
import IdService.Proofs.Overlaps

/-! # What overlapping commands leave of a key

Any number of commands on one key are in flight, and which of them makes its next call is open. Each
record ends as the command that wrote it last wants it, so a key may be left with a part of its
records: a deletion that begins before a move has ended can take the key out of the registry and out
of the known keys, and the move, which is answered OK, leaves nothing but a counter. As long as no
move is underway together with a deletion, the records agree whenever all are done.
-/

namespace IdService

/-- Commands on one key in flight. -/
structure Overlap where
  issuer : Issuer
  errands : List Errand
  /-- Of which verb the command was that wrote a record last. -/
  last : KeyRecord → Option Verb := fun _ => none

namespace Overlap

/-- One of the commands makes its next call. -/
def step (key : String) (o : Overlap) (i : Nat) : Option Overlap := do
  let e ← o.errands[i]?
  let (e', issuer) ← e.call key o.issuer
  return {
    issuer
    errands := o.errands.set i e'
    last := fun x => if e.next? = some x then some e.verb else o.last x }

/-- The calls in an order that says whose turn it is. A run ends early if a call fails. -/
def run (key : String) (o : Overlap) : List Nat → Option Overlap
  | [] => some o
  | i :: rest => (o.step key i).bind fun o => o.run key rest

/-- No move is underway together with a deletion. -/
def Apart (o : Overlap) : Prop :=
  ∀ d ∈ o.errands, ∀ e ∈ o.errands, d.isUnderway → e.isUnderway → d.verb = e.verb

instance (o : Overlap) : Decidable o.Apart :=
  inferInstanceAs (Decidable (∀ d ∈ o.errands, ∀ e ∈ o.errands, _ → _ → _))

/-- At no time of a run a move is underway together with a deletion. -/
def StaysApart (key : String) (o : Overlap) : List Nat → Prop
  | [] => o.Apart
  | i :: rest => o.Apart ∧ ∀ o' ∈ o.step key i, o'.StaysApart key rest

instance decidableStaysApart (key : String) (o : Overlap) : DecidablePred (o.StaysApart key)
  | [] => inferInstanceAs (Decidable o.Apart)
  | _ :: rest =>
    have := fun o' : Overlap => decidableStaysApart key o' rest
    inferInstanceAs (Decidable (_ ∧ _))

theorem StaysApart.apart {key : String} {o : Overlap} {schedule : List Nat}
    (stays : o.StaysApart key schedule) : o.Apart := by
  cases schedule with
  | nil => exact stays
  | cons i rest => exact stays.1

end Overlap

/-! ## What a call changes -/

/-- A key that has a counter is known, and one that is known is registered. -/
structure Issuer.Chained (s : Issuer) (key : String) : Prop where
  known : s.has key .counter → s.has key .membership
  registered : s.has key .membership → s.has key .registration

theorem Issuer.AgreesOn.chained {s : Issuer} {key : String} (agrees : s.AgreesOn key) :
    s.Chained key :=
  ⟨fun there => agrees .counter .membership ▸ there,
    fun there => agrees .membership .registration ▸ there⟩

namespace Errand

variable {s s' : Issuer} {key : String} {e e' : Errand}

theorem isOver_of_call {result : Errand × Issuer} (called : e.call key s = some result) :
    e.isOver = false := by
  cases e with
  | moved | absent | removed => cases called
  | _ => rfl

theorem eq_del_of_next? (going : e.isOver = false) (none : e.next? = none) : e = .del := by
  cases e with
  | del => rfl
  | moved | absent | removed => cases going
  | _ => cases none

theorem written_of_over (ended : e.isOver) : e.written = [] ∨ e.written.length = 3 := by
  cases e with
  | absent => exact .inl rfl
  | moved | removed => exact .inr rfl
  | _ => cases ended

theorem written_of_new (new : e.isNew) : e.written = [] := by
  cases e with
  | set | del => rfl
  | _ => cases new

namespace Makes

theorem underway (makes : e.Makes key s e' s') {x : KeyRecord} (next : e.next? = some x) :
    e.isUnderway ∨ e'.isUnderway := by
  cases e with
  | set value =>
      have one : e'.written = [.registration] := makes.written
      cases e' with
      | obtained => exact .inr rfl
      | _ => cases one
  | del | moved | absent | removed => cases next
  | _ => exact .inl rfl

theorem chained (makes : e.Makes key s e' s') (before : s.Chained key)
    (standing : ∀ x ∈ e.written, s.has key x = e.verb.puts) : s'.Chained key := by
  have records := makes.records
  obtain ⟨known, registered⟩ := before
  constructor
  all_goals
    rw [records, records]
    -- the record that is written comes behind those that stand, in the order of the command
    cases e <;> simp_all [Errand.next?, Errand.verb, Verb.puts, Errand.written]

/-- The call that ends a command brings all records to what it is about. -/
theorem agreesOn (makes : e.Makes key s e' s') (after : s'.Chained key) {x : KeyRecord}
    (next : e.next? = some x) (ended : e'.isOver) : s'.AgreesOn key := by
  have size : e.written.length = 2 := by
    have grown := congrArg List.length makes.written
    rw [next, List.length_append] at grown
    rcases written_of_over ended with nothing | all
    · rw [nothing] at grown
      simp at grown
    · rw [all] at grown
      simpa using grown.symm
  have records := makes.records
  obtain ⟨known, registered⟩ := after
  rw [Issuer.agreesOn_iff]
  cases e with
  | entered value number =>
      have counter : s'.has key .counter = true := records .counter
      rw [counter, known counter, registered (known counter)]
      exact ⟨rfl, rfl⟩
  | forgotten =>
      have registration : s'.has key .registration = false := records .registration
      have membership : s'.has key .membership = false :=
        Bool.eq_false_iff.mpr fun there => by simp [registered there] at registration
      have counter : s'.has key .counter = false :=
        Bool.eq_false_iff.mpr fun there => by simp [known there] at membership
      rw [registration, membership, counter]
      exact ⟨rfl, rfl⟩
  | _ => cases size

end Makes
end Errand

namespace Overlap

variable {key : String} {s : Issuer} {o o' : Overlap} {i : Nat} {e e' : Errand}

/-! ## One command alone -/

theorem run_set_alone {value : Int64} {s' : Issuer}
    (moves : Command.moveKey s key value = (.ok (), s')) :
    (({ issuer := s, errands := [.set value] } : Overlap).run key [0, 0, 0]).map
      (fun o => (o.issuer, o.errands)) = some (s', [.moved]) := by
  unfold Command.moveKey at moves
  rcases obtaining : s.obtain key with ⟨fault | ⟨number, a⟩, s₁⟩
  · simp [obtaining] at moves
  · simp only [obtaining] at moves
    have there : s₁.allocator? number = some a := by
      rcases Issuer.obtain_eq_ok obtaining with ⟨found, rfl⟩ | ⟨rfl, rfl, -⟩
      · exact (Issuer.find?_eq_some.mp found).2
      · rw [Issuer.allocator?_enrol, if_pos rfl]
    have still : ({ s₁ with store := s₁.store.addKnown key } : Issuer).allocator? number = some a :=
      there
    rcases moving : ({ s₁ with store := s₁.store.addKnown key } : Issuer).moveTo number a value
      false with ⟨halt | _, s₃⟩
    · simp [moving] at moves
    · simp only [moving] at moves
      cases moves
      simp [run, step, Errand.call, obtaining, still, moving]

theorem run_del_alone {count : Nat} {s' : Issuer}
    (deletes : Command.deleteKeys s 0 [Text.utf8 key] = (.ok count, s')) :
    ∃ schedule e, (({ issuer := s, errands := [.del] } : Overlap).run key schedule).map
      (fun o => (o.issuer, o.errands)) = some (s', [e]) ∧ e.isOver := by
  unfold Command.deleteKeys at deletes
  cases read : Command.key (Text.utf8 key) with
  | error fault => simp [read] at deletes
  | ok k =>
      have decoded := (Command.key_eq_ok read).1
      rw [Text.ofUtf8?_utf8] at decoded
      obtain rfl := Option.some.inj decoded
      cases found : s.find? key with
      | none =>
          simp only [read, found, Command.deleteKeys] at deletes
          cases deletes
          exact ⟨[0], .absent, by simp [run, step, Errand.call, found], rfl⟩
      | some entry =>
          obtain ⟨number, a⟩ := entry
          have there := (Issuer.find?_eq_some.mp found).2
          rcases retiring : s.retire a with ⟨halt | _, s₁⟩
          · simp [read, found, retiring] at deletes
          · simp only [read, found, retiring, Command.deleteKeys] at deletes
            cases deletes
            exact ⟨[0, 0, 0, 0], .removed,
              by simp [run, step, Errand.call, found, there, retiring], rfl⟩

/-! ## One step -/

/-- What a step is where every command has an allocator of the key in hand. -/
structure Steps (key : String) (o : Overlap) (e e' : Errand) (o' : Overlap) : Prop where
  makes : e.Makes key o.issuer e' o'.issuer
  going : e.isOver = false
  last : ∀ x, o'.last x = if e.next? = some x then some e.verb else o.last x
  before : e ∈ o.errands
  after : e' ∈ o'.errands
  old : ∀ d ∈ o.errands, d = e ∨ d ∈ o'.errands
  new : ∀ d ∈ o'.errands, d = e' ∨ d ∈ o.errands

theorem steps_of_step (numbered : o.issuer.Numbered)
    (inHand : ∀ e ∈ o.errands, ∀ number, e.number? = some number → o.issuer.Numbers key number)
    (stepped : o.step key i = some o') : ∃ e e', o.Steps key e e' o' := by
  simp only [step, Option.bind_eq_bind, Option.bind_eq_some_iff] at stepped
  obtain ⟨e, turn, ⟨e', issuer⟩, called, same⟩ := stepped
  obtain ⟨inside, -⟩ := List.getElem?_eq_some_iff.mp turn
  have before : e ∈ o.errands := List.mem_of_getElem? turn
  obtain rfl := Option.some.inj same
  refine ⟨e, e', Errand.call_makes numbered (inHand e before) called, Errand.isOver_of_call called,
    fun _ => rfl, before, List.mem_set inside e', ?_, ?_⟩
  · intro d member
    obtain ⟨j, there⟩ := List.mem_iff_getElem?.mp member
    by_cases same : j = i
    · subst same
      exact .inl (Option.some.inj (there.symm.trans turn))
    · rw [← List.getElem?_set_ne (Ne.symm same)] at there
      exact .inr (List.mem_of_getElem? there)
  · intro d member
    exact (List.mem_or_eq_of_mem_set member).symm

/-! ## Who has written what -/

/-- What is there after some calls, the issuer having been `s` before them. -/
structure Traced (s : Issuer) (key : String) (o : Overlap) : Prop where
  numbered : o.issuer.Numbered
  inHand : ∀ e ∈ o.errands, ∀ number, e.number? = some number → o.issuer.Numbers key number
  records : ∀ x, o.issuer.has key x = ((o.last x).map Verb.puts).getD (s.has key x)
  writers : ∀ x, (o.last x).isSome ↔ ∃ e ∈ o.errands, x ∈ e.written

theorem Traced.step (traced : o.Traced s key) (steps : o.Steps key e e' o') :
    o'.Traced s key where
  numbered := steps.makes.numbered
  inHand := by
    intro d member number hand
    rcases steps.new d member with rfl | old
    · exact steps.makes.inHand number hand
    · exact steps.makes.numbers number (traced.inHand d old number hand)
  records := by
    intro x
    rw [steps.makes.records, steps.last]
    split
    · rfl
    · exact traced.records x
  writers := by
    intro x
    have wrote : x ∈ e'.written ↔ x ∈ e.written ∨ e.next? = some x := by
      rw [steps.makes.written, List.mem_append, Option.mem_toList]
    rw [steps.last]
    constructor
    · intro there
      split at there
      · rename_i next
        exact ⟨e', steps.after, wrote.mpr (.inr next)⟩
      · obtain ⟨d, member, written⟩ := (traced.writers x).mp there
        rcases steps.old d member with rfl | stays
        · exact ⟨e', steps.after, wrote.mpr (.inl written)⟩
        · exact ⟨d, stays, written⟩
    · rintro ⟨d, member, written⟩
      split
      · rfl
      · rename_i other
        rcases steps.new d member with rfl | old
        · exact (traced.writers x).mpr ⟨e, steps.before, (wrote.mp written).resolve_right other⟩
        · exact (traced.writers x).mpr ⟨d, old, written⟩

theorem Traced.run (traced : o.Traced s key) {schedule : List Nat} {final : Overlap}
    (ran : o.run key schedule = some final) : final.Traced s key := by
  induction schedule generalizing o with
  | nil =>
      cases ran
      exact traced
  | cons i rest ih =>
      obtain ⟨o', stepped, ran⟩ := Option.bind_eq_some_iff.mp ran
      obtain ⟨e, e', steps⟩ := steps_of_step traced.numbered traced.inHand stepped
      exact ih (traced.step steps) ran

/-- When all commands are over, each record has been written or none has. -/
theorem Traced.all_written (traced : o.Traced s key) (ended : ∀ e ∈ o.errands, e.isOver)
    (x y : KeyRecord) (there : (o.last x).isSome) : (o.last y).isSome := by
  obtain ⟨e, member, written⟩ := (traced.writers x).mp there
  refine (traced.writers y).mpr ⟨e, member, ?_⟩
  have all := ended e member
  cases e with
  | moved | removed => cases y <;> decide
  | absent => cases written
  | _ => cases all

/-! ## Moves and deletions apart -/

/-- What holds at all times if no move is underway together with a deletion. -/
structure Orderly (key : String) (o : Overlap) : Prop where
  chained : o.issuer.Chained key
  /-- What the commands underway have written stands. -/
  standing : ∀ e ∈ o.errands, e.isUnderway → ∀ x ∈ e.written, o.issuer.has key x = e.verb.puts
  resting : (∀ e ∈ o.errands, ¬ e.isUnderway) → o.issuer.AgreesOn key

theorem Orderly.step (orderly : o.Orderly key) (steps : o.Steps key e e' o') (apart : o.Apart)
    (apart' : o'.Apart) : o'.Orderly key := by
  have makes := steps.makes
  have own : ∀ x ∈ e.written, o.issuer.has key x = e.verb.puts := by
    intro x written
    by_cases new : e.isNew
    · rw [Errand.written_of_new new] at written
      cases written
    · have underway : e.isUnderway := by simp [Errand.isUnderway, new, steps.going]
      exact orderly.standing e steps.before underway x written
  have chained' := makes.chained orderly.chained own
  refine ⟨chained', ?_, ?_⟩
  · intro d member underway x written
    rw [makes.records]
    rcases steps.new d member with rfl | old
    · rw [makes.verb]
      rw [makes.written, List.mem_append, Option.mem_toList] at written
      rcases written with earlier | now
      · rw [own x earlier, ite_self]
      · exact if_pos now
    · split
      · rename_i next
        rcases makes.underway next with before | after
        · rw [apart d old e steps.before underway before]
        · rw [apart' d member e' steps.after underway after, makes.verb]
      · exact orderly.standing d old underway x written
  · intro resting
    cases next : e.next? with
    | some x =>
        have written : x ∈ e'.written := by simp [makes.written, next]
        have begun : ¬ e'.isNew := by
          intro new
          rw [Errand.written_of_new new] at written
          cases written
        have ended : e'.isOver := by
          have rests := resting e' steps.after
          simpa [Errand.isUnderway, begun] using rests
        exact makes.agreesOn chained' next ended
    | none =>
        obtain rfl := Errand.eq_del_of_next? steps.going next
        have same : ∀ x, o'.issuer.has key x = o.issuer.has key x := by
          intro x
          rw [makes.records, next, if_neg nofun]
        have agrees : o.issuer.AgreesOn key := by
          apply orderly.resting
          intro d member
          rcases steps.old d member with rfl | stays
          · decide
          · exact resting d stays
        intro x y
        rw [same, same, agrees x y]

theorem Orderly.run (orderly : o.Orderly key) (traced : o.Traced s key) {schedule : List Nat}
    {final : Overlap} (ran : o.run key schedule = some final) (apart : o.StaysApart key schedule) :
    final.Orderly key := by
  induction schedule generalizing o with
  | nil =>
      cases ran
      exact orderly
  | cons i rest ih =>
      obtain ⟨o', stepped, ran⟩ := Option.bind_eq_some_iff.mp ran
      obtain ⟨e, e', steps⟩ := steps_of_step traced.numbered traced.inHand stepped
      have apart' := apart.2 o' stepped
      exact ih (orderly.step steps apart.apart apart'.apart) (traced.step steps) ran apart'

end Overlap

/-! ## The whole -/

section

variable {s : Issuer} {key : String} {commands : List Errand}

theorem Overlap.Traced.start (numbered : s.Numbered) (new : ∀ e ∈ commands, e.isNew) :
    Traced s key { issuer := s, errands := commands } where
  numbered := numbered
  inHand := by
    intro e member number hand
    have unbegun := new e member
    cases e with
    | set | del => cases hand
    | _ => cases unbegun
  records := fun _ => rfl
  writers := by
    intro x
    simp only [Option.isSome_none, Bool.false_eq_true, false_iff]
    rintro ⟨e, member, written⟩
    rw [Errand.written_of_new (new e member)] at written
    cases written

theorem Overlap.Orderly.start (agrees : s.AgreesOn key) (new : ∀ e ∈ commands, e.isNew) :
    Orderly key { issuer := s, errands := commands } where
  chained := agrees.chained
  standing := by
    intro e member underway
    simp [Errand.isUnderway, new e member] at underway
  resting := fun _ => agrees

/-- Commands on one key overlap in whatever way, no call fails, and all have come to their end. Then
the records of the key agree exactly if they have been written last by commands of one verb, be it
moving or deleting; and this is so if no move was underway together with a deletion. -/
theorem overlaps_agree_iff (numbered : s.Numbered) (agrees : s.AgreesOn key)
    (new : ∀ e ∈ commands, e.isNew) {schedule : List Nat} {final : Overlap}
    (ran : ({ issuer := s, errands := commands } : Overlap).run key schedule = some final)
    (ended : ∀ e ∈ final.errands, e.isOver) :
    (final.issuer.AgreesOn key ↔ ∀ x y, final.last x = final.last y) ∧
      (({ issuer := s, errands := commands } : Overlap).StaysApart key schedule →
        final.issuer.AgreesOn key) := by
  have begun : Overlap.Traced s key { issuer := s, errands := commands } := .start numbered new
  have traced := begun.run ran
  refine ⟨⟨?_, ?_⟩, ?_⟩
  · intro agrees x y
    have same := agrees x y
    rw [traced.records, traced.records] at same
    have both := traced.all_written ended x y
    have both' := traced.all_written ended y x
    cases left : final.last x with
    | none =>
        cases right : final.last y with
        | none => rfl
        | some v => simp [left, right] at both'
    | some v =>
        cases right : final.last y with
        | none => simp [left, right] at both
        | some w =>
            simp only [left, right, Option.map_some, Option.getD_some] at same
            cases v <;> cases w <;> first | rfl | cases same
  · intro one x y
    rw [traced.records, traced.records, one x y, agrees x y]
  · intro apart
    refine (Overlap.Orderly.run (.start agrees new) begun ran apart).resting ?_
    intro e member
    simp [Errand.isUnderway, ended e member]

end

/-- A key that has been moved once, on a server that has just started. -/
def oneKey : Service :=
  (Engine.volatile.run (.ofBatchSize 10) (by decide) [.ofTexts "SET" ["k", "1"]]).2

theorem oneKey_sound : oneKey.issuer.Sound := Engine.volatile.run_sound (by decide) _

/-- Two moves overlap, and a deletion comes behind them. -/
theorem movesInTurn_agree :
    ∃ final, ({ issuer := oneKey.issuer, errands := [.set 7, .set 8, .del] } : Overlap).run "k"
        [0, 1, 0, 1, 1, 0, 2, 2, 2, 2] = some final ∧
      final.issuer.AgreesOn "k" ∧ ∀ x y, final.last x = final.last y := by
  let o : Overlap := { issuer := oneKey.issuer, errands := [.set 7, .set 8, .del] }
  have ends : (o.run "k" [0, 1, 0, 1, 1, 0, 2, 2, 2, 2]).map (·.errands) =
      some [.moved, .moved, .removed] := by decide +kernel
  obtain ⟨final, ran, errands⟩ := Option.map_eq_some_iff.mp ends
  obtain ⟨last, apart⟩ := overlaps_agree_iff oneKey_sound.numbered (oneKey_sound.agreesOn "k")
    (by decide) ran (by rw [errands]; decide)
  have agrees := apart (by decide +kernel)
  exact ⟨final, ran, agrees, last.mp agrees⟩

/-- The records of a key can be left apart: a move has an allocator in hand when a deletion begins,
and comes to its last call when that is done. Then the key has nothing but a counter. -/
theorem overlaps_can_disagree :
    ¬ ∀ (s : Issuer) (key : String) (commands : List Errand) (schedule : List Nat)
        (final : Overlap), s.Numbered → (∀ k, s.AgreesOn k) → (∀ e ∈ commands, e.isNew) →
      ({ issuer := s, errands := commands } : Overlap).run key schedule = some final →
      (∀ e ∈ final.errands, e.isOver) → final.issuer.AgreesOn key := by
  intro agree
  let o : Overlap := { issuer := oneKey.issuer, errands := [.set 7, .del] }
  have ends : (o.run "k" [0, 0, 1, 1, 1, 1, 0]).map (fun o => (o.errands,
      o.issuer.has "k" .registration, o.issuer.has "k" .membership, o.issuer.has "k" .counter)) =
        some ([.moved, .removed], false, false, true) := by decide +kernel
  obtain ⟨final, ran, left⟩ := Option.map_eq_some_iff.mp ends
  simp only [Prod.mk.injEq] at left
  obtain ⟨errands, registration, -, counter⟩ := left
  have agrees := agree oneKey.issuer "k" [.set 7, .del] [0, 0, 1, 1, 1, 1, 0] final
    oneKey_sound.numbered oneKey_sound.agreesOn (by decide) ran (by rw [errands]; decide)
  rw [agrees .registration .counter, counter] at registration
  cases registration

end IdService
