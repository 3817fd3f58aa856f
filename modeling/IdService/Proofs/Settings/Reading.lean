import IdService.Proofs.Counter
import IdService.Proofs.Numeral
import IdService.Config.Configuration

/-! # Texts and what they stand for

Which texts are values of a setting, said without reading them, and the value that each of them is.
Reading finds this value and refuses every other text.
-/

namespace IdService

/-! ## Words of a range -/

namespace Numeral.Range

variable {n : Int}

theorem uint16_word (within : uint16.Contains n) (v : UInt16) :
    UInt16.ofNat n.toNat = v ↔ n = v.toNat := by
  obtain ⟨low, high⟩ := within
  simp only [uint16] at low high
  rw [← UInt16.toNat_inj, UInt16.toNat_ofNat', Nat.mod_eq_of_lt (by omega)]
  omega

theorem uint64_word (within : uint64.Contains n) (v : UInt64) :
    UInt64.ofNat n.toNat = v ↔ n = v.toNat := by
  obtain ⟨low, high⟩ := within
  simp only [uint64] at low high
  rw [← UInt64.toNat_inj, UInt64.toNat_ofNat', Nat.mod_eq_of_lt (by omega)]
  omega

theorem int64_word (within : int64.Contains n) (v : Int64) : Int64.ofInt n = v ↔ n = v.toInt := by
  rw [← Int64.toInt_inj, Counter.toInt_ofInt within]

end Numeral.Range

namespace Kind

/-- The number that a text between white space is. -/
def Numbers (r : Numeral.Range) (raw : String) (n : Int) : Prop :=
  Numeral.read r (Text.trimChars raw.toList) = .ok n

/-- What a text of a kind stands for. White space around numerals and filters is passed over; lists
of nodes, paths and other texts are what they are, and a blank text is none. -/
def Reads [Patterns] : (k : Kind) → String → k.Value → Prop
  | filter, raw, v => v = raw ∧ ∃ f, LogFilter.parse (Text.trim raw) = .ok f
  | text, raw, v => v = raw ∧ Text.trim raw ≠ ""
  | path, raw, v => v = Text.utf8 raw ∧ Text.trim raw ≠ ""
  | port, raw, v => Numbers .uint16 raw v.toNat
  | number, raw, v => Numbers .uint64 raw v.toNat
  | positive, raw, v => Numbers .uint64 raw v.toNat ∧ 0 < v.toNat
  | batch, raw, v => Numbers .int64 raw v.toInt ∧ 0 < v.toInt
  | nodes, raw, v => Node.parseList raw = .ok v

variable {raw : String}

theorem numeral_eq_ok {r : Numeral.Range} {n : Int} : numeral r raw = .ok n ↔ Numbers r raw n := by
  unfold numeral Numbers
  cases Numeral.read r (Text.trimChars raw.toList) with
  | ok m => exact ⟨fun same => by cases same; rfl, fun same => by cases same; rfl⟩
  | error fault => exact iff_of_false (fun same => nomatch same) (fun same => nomatch same)

section words

variable {α : Type} {r : Numeral.Range} {make : Int → α} {v : α} {m : Int}

private theorem word_eq_ok (zero : r.Contains 0)
    (word : ∀ {n}, r.Contains n → (make n = v ↔ n = m)) :
    (do return make (← numeral r raw) : Except Invalid α) = .ok v ↔ Numbers r raw m := by
  rw [← numeral_eq_ok]
  cases found : numeral r raw with
  | error fault => exact iff_of_false (fun same => nomatch same) (fun same => nomatch same)
  | ok n =>
      have within := Numeral.contains_of_read zero (numeral_eq_ok.mp found)
      calc (Except.ok (make n) : Except Invalid α) = .ok v
        _ ↔ make n = v := iff_of_eq (Except.ok.injEq ..)
        _ ↔ n = m := word within
        _ ↔ (Except.ok n : Except Invalid Int) = .ok m := (iff_of_eq (Except.ok.injEq ..)).symm

private theorem guarded_eq_ok (zero : r.Contains 0)
    (word : ∀ {n}, r.Contains n → (make n = v ↔ n = m)) (refuses : Int → Prop)
    [DecidablePred refuses] :
    (do let n ← numeral r raw
        if refuses n then throw .notPositive else return make n : Except Invalid α) = .ok v ↔
      Numbers r raw m ∧ ¬ refuses m := by
  rw [← word_eq_ok zero word]
  cases found : numeral r raw with
  | error fault => exact iff_of_false (fun same => nomatch same) (fun same => nomatch same.1)
  | ok n =>
      have within := Numeral.contains_of_read zero (numeral_eq_ok.mp found)
      simp only [bind, Except.bind]
      by_cases refused : refuses n
      · rw [if_pos refused]
        refine iff_of_false (fun same => nomatch same) ?_
        rintro ⟨same, allowed⟩
        obtain rfl := (word within).mp (Except.ok.inj same)
        exact allowed refused
      · rw [if_neg refused]
        refine (and_iff_left_of_imp ?_).symm
        intro same
        obtain rfl := (word within).mp (Except.ok.inj same)
        exact refused

end words

theorem trim_eq_empty : Text.trim raw = "" ↔ (Text.trimChars raw.toList).isEmpty := by
  rw [Text.trim, String.ofList_eq_empty_iff, List.isEmpty_iff]

theorem unblank_eq_ok {text : String} : unblank raw = .ok text ↔ text = raw ∧ Text.trim raw ≠ "" := by
  unfold unblank
  by_cases blank : (Text.trimChars raw.toList).isEmpty
  · have none : Text.trim raw = "" := trim_eq_empty.mpr blank
    rw [if_pos blank]
    exact iff_of_false (fun same => nomatch same) fun reads => reads.2 none
  · rw [if_neg blank]
    have some : Text.trim raw ≠ "" := fun none => blank (trim_eq_empty.mp none)
    constructor
    · intro same
      cases same
      exact ⟨rfl, some⟩
    · rintro ⟨rfl, -⟩
      rfl

/-- Reading finds what a text stands for, and nothing else. -/
theorem parse_eq_ok [Patterns] : {k : Kind} → {v : k.Value} → (k.parse raw = .ok v ↔ k.Reads raw v)
  | filter, v => by
      simp only [parse, Reads]
      cases LogFilter.parse (Text.trim raw) with
      | ok f => simp [eq_comm]
      | error fault => simp
  | text, v => unblank_eq_ok
  | path, v => by
      simp only [parse, Reads]
      constructor
      · intro found
        cases read : unblank raw with
        | error reason =>
            rw [read] at found
            cases found
        | ok text =>
            rw [read] at found
            cases found
            obtain ⟨rfl, some⟩ := unblank_eq_ok.mp read
            exact ⟨rfl, some⟩
      · rintro ⟨rfl, some⟩
        rw [unblank_eq_ok.mpr ⟨rfl, some⟩]
        rfl
  | port, v => word_eq_ok (by decide) fun within => Numeral.Range.uint16_word within v
  | number, v => word_eq_ok (by decide) fun within => Numeral.Range.uint64_word within v
  | positive, v => by
      have word {n : Int} (within : Numeral.Range.uint64.Contains n) :=
        Numeral.Range.uint64_word within v
      refine (guarded_eq_ok (by decide) word (· = 0)).trans ?_
      refine and_congr_right fun _ => ?_
      omega
  | batch, v => by
      have word {n : Int} (within : Numeral.Range.int64.Contains n) :=
        Numeral.Range.int64_word within v
      refine (guarded_eq_ok (by decide) word (· ≤ 0)).trans ?_
      simp only [Reads, Int.not_le]
  | nodes, v => by
      simp only [parse, Reads]
      cases Node.parseList raw with
      | ok list => simp
      | error fault => simp

/-! ## Crashes -/

/-- A reader that does not crash: what it refuses, it refuses with a reason. -/
def Calm {α : Type} (x : Except Invalid α) : Prop :=
  ∀ reason, x = .error reason → reason.isCrash = false

namespace Calm

variable {α β : Type}

theorem ok (v : α) : Calm (.ok v) := by
  intro reason refused
  cases refused

theorem error {reason : Invalid} (calm : reason.isCrash = false) :
    Calm (.error reason : Except Invalid α) := by
  intro reason' refused
  cases refused
  exact calm

theorem bind {x : Except Invalid α} {f : α → Except Invalid β} (first : Calm x)
    (later : ∀ v, Calm (f v)) : Calm (x >>= f) := by
  intro reason refused
  cases x with
  | error reason' =>
      cases refused
      exact first reason rfl
  | ok v => exact later v reason refused

theorem ite {p : Prop} [Decidable p] {x y : Except Invalid α} (left : Calm x) (right : Calm y) :
    Calm (if p then x else y) := by
  split
  · exact left
  · exact right

end Calm

theorem numeral_calm (r : Numeral.Range) (raw : String) : Calm (numeral r raw) := by
  unfold numeral
  split
  · exact .ok _
  · exact .error rfl

theorem unblank_calm (raw : String) : Calm (unblank raw) := .ite (.error rfl) (.ok raw)

/-- Of all readers only that of log filters can crash. -/
theorem parse_calm [Patterns] {k : Kind} (other : k ≠ .filter) (raw : String) :
    Calm (k.parse raw) := by
  cases k with
  | filter => exact absurd rfl other
  | text => exact unblank_calm raw
  | path => exact (unblank_calm raw).bind fun _ => .ok _
  | port | number => exact (numeral_calm _ raw).bind fun _ => .ok _
  | positive | batch => exact (numeral_calm _ raw).bind fun _ => .ite (.error rfl) (.ok _)
  | nodes =>
      simp only [parse]
      split
      · exact .ok _
      · exact .error rfl

/-- Where a reader crashes, it is that of log filters. -/
theorem parse_crash [Patterns] {k : Kind} {reason : Invalid} (refused : k.parse raw = .error reason)
    (crash : reason.isCrash) :
    k = .filter ∧ ∃ fault, LogFilter.parse (Text.trim raw) = .error fault ∧ fault.isCrash := by
  by_cases filter : k = .filter
  · subst filter
    simp only [parse] at refused
    split at refused
    · cases refused
    · rename_i fault found
      cases refused
      exact ⟨rfl, fault, found, crash⟩
  · rw [parse_calm filter raw reason refused] at crash
    cases crash

end Kind
end IdService
