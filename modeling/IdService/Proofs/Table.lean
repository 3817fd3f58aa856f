import IdService.Table
import Mathlib.Algebra.GroupWithZero.Nat

/-! # Tables by the bytes of their keys

A table of texts and a table of byte strings hold the same when they agree key by key on the bytes.
`raw` brings both to one form: keys become their bytes, in the same order, and values are changed
by a function. Every operation goes through it.
-/

namespace IdService.Table

open ByteKey

variable {κ α β : Type} [ByteKey κ]

/-- The table with every key as its bytes and every value through `f`. -/
def raw (f : α → β) (t : Table κ α) : Table Bytes β where
  entries := t.entries.map fun e => (bytes e.1, f e.2)
  ascending := List.pairwise_map.mpr t.ascending

theorem keys_raw (f : α → β) (t : Table κ α) : (t.raw f).keys = t.keys.map bytes := by
  simp [keys, raw, List.map_map, Function.comp_def]

private theorem put_map (f : α → β) (k : κ) (v : α) (l : List (κ × α)) :
    (put k v l).map (fun e => (bytes e.1, f e.2)) =
      put (bytes k) (f v) (l.map fun e => (bytes e.1, f e.2)) := by
  fun_induction put k v l with
  | case1 => rfl
  | case2 k' v' rest less => simp [put, show bytes (bytes k) < bytes (bytes k') from less]
  | case3 k' v' rest notLess same =>
      have notLess' : ¬ bytes (bytes k) < bytes (bytes k') := notLess
      have same' : bytes (bytes k) = bytes (bytes k') := same
      simp [put, if_neg notLess', if_pos same']
  | case4 k' v' rest notLess other ih =>
      have notLess' : ¬ bytes (bytes k) < bytes (bytes k') := notLess
      have other' : ¬ bytes (bytes k) = bytes (bytes k') := other
      simp only [List.map_cons, put, if_neg notLess', if_neg other', ih]

@[simp] theorem raw_insert (f : α → β) (t : Table κ α) (k : κ) (v : α) :
    (t.insert k v).raw f = (t.raw f).insert (bytes k) (f v) := by
  simp only [raw, insert, put_map]

variable [DecidableEq κ]

@[simp] theorem raw_erase (f : α → β) (t : Table κ α) (k : κ) :
    (t.erase k).raw f = (t.raw f).erase (bytes k) := by
  have same : ∀ e : κ × α, (e.1 ≠ k) = (bytes e.1 ≠ bytes k) := fun e =>
    propext (not_congr ⟨congrArg bytes, bytes_injective⟩)
  simp only [raw, erase, List.filter_map, Function.comp_def, same]

omit [ByteKey κ] in
private theorem find_isSome (k : κ) (l : List (κ × α)) :
    (find k l).isSome ↔ k ∈ l.map (·.1) := by
  induction l with
  | nil => simp [find]
  | cons e rest ih =>
      by_cases here : k = e.1
      · simp [find, here]
      · simp [find, here, ih]

theorem mem_keys {t : Table κ α} {k : κ} : k ∈ t.keys ↔ t.contains k := (find_isSome k _).symm

omit [ByteKey κ] in
private theorem find_map [ByteKey κ] (f : α → β) (k : κ) (l : List (κ × α)) :
    find (bytes k) (l.map fun e => (bytes e.1, f e.2)) = (find k l).map f := by
  induction l with
  | nil => rfl
  | cons e rest ih =>
      by_cases here : k = e.1
      · simp [find, here]
      · have apart : bytes k ≠ bytes e.1 := fun same => here (bytes_injective same)
        simp [find, here, apart, ih]

@[simp] theorem get?_raw (f : α → β) (t : Table κ α) (k : κ) :
    (t.raw f).get? (bytes k) = (t.get? k).map f := find_map f k t.entries

@[simp] theorem contains_raw (f : α → β) (t : Table κ α) (k : κ) :
    (t.raw f).contains (bytes k) = t.contains k := by
  simp [contains]

theorem contains_insert (t : Table κ α) (k k' : κ) (v : α) :
    (t.insert k v).contains k' = (decide (k' = k) || t.contains k') := by
  by_cases here : k' = k <;> simp [contains, here]

theorem contains_erase (t : Table κ α) (k k' : κ) :
    (t.erase k).contains k' = (!decide (k' = k) && t.contains k') := by
  by_cases here : k' = k <;> simp [contains, here]

@[simp] theorem insert_insert (t : Table κ α) (k : κ) (v w : α) :
    (t.insert k v).insert k w = t.insert k w := by
  apply ext
  intro k'
  by_cases here : k' = k <;> simp [here]

theorem keys_eq {s : Table Bytes α} {t : Table Bytes β}
    (same : ∀ k, s.contains k = t.contains k) : s.keys = t.keys := by
  have shape : s.raw (fun _ => ()) = t.raw (fun _ => ()) := by
    apply ext
    intro k
    have left := get?_raw (fun _ => ()) s k
    have right := get?_raw (fun _ => ()) t k
    have some_iff := same k
    simp only [contains] at some_iff
    rw [show k = bytes k from rfl, left, right]
    cases hs : s.get? k <;> cases ht : t.get? k <;> simp_all
  have keysS := keys_raw (fun _ => ()) s
  have keysT := keys_raw (fun _ => ()) t
  rw [shape, keysT] at keysS
  simpa [bytes] using keysS.symm

/-! ## Totals -/

omit [DecidableEq κ] in
/-- What the values of a table come to under a measure, all together. -/
def total (f : α → Nat) (t : Table κ α) : Nat := (t.entries.map fun e => f e.2).sum

/-- What a key holds under a measure. -/
def weight (f : α → Nat) (t : Table κ α) (k : κ) : Nat := ((t.get? k).map f).getD 0

private theorem total_put (f : α → Nat) (k : κ) (v : α) {l : List (κ × α)}
    (ascending : l.Pairwise fun a b => bytes a.1 < bytes b.1) :
    ((put k v l).map fun e => f e.2).sum + ((find k l).map f).getD 0 =
      (l.map fun e => f e.2).sum + f v := by
  fun_induction put k v l with
  | case1 => simp [find]
  | case2 k' v' rest less =>
      have absent : find k ((k', v') :: rest) = none := by
        apply find_eq_none_of_lt
        intro e member
        rcases List.mem_cons.mp member with rfl | later
        · exact less
        · exact Std.lt_trans less (List.rel_of_pairwise_cons ascending later)
      rw [absent]
      simp [Nat.add_comm]
  | case3 k' v' rest _ same =>
      cases bytes_injective same
      simp only [find, if_true, List.map_cons, List.sum_cons, Option.map_some, Option.getD_some]
      omega
  | case4 k' v' rest _ other ih =>
      have apart : k ≠ k' := fun same => other (congrArg bytes same)
      have rest_total := ih ascending.of_cons
      simp only [find, if_neg apart, List.map_cons, List.sum_cons]
      omega

private theorem total_filter (f : α → Nat) (k : κ) {l : List (κ × α)}
    (ascending : l.Pairwise fun a b => bytes a.1 < bytes b.1) :
    ((l.filter fun e => e.1 ≠ k).map fun e => f e.2).sum + ((find k l).map f).getD 0 =
      (l.map fun e => f e.2).sum := by
  induction l with
  | nil => rfl
  | cons e rest ih =>
      obtain ⟨k', v⟩ := e
      have rest_total := ih ascending.of_cons
      by_cases here : k = k'
      · subst here
        -- no other entry has the key of the first
        have absent : find k rest = none :=
          find_eq_none_of_lt fun e later => List.rel_of_pairwise_cons ascending later
        rw [absent] at rest_total
        simp only [find, if_true, List.filter_cons, ne_eq, not_true_eq_false, decide_false,
          Bool.false_eq_true, if_false, List.map_cons, List.sum_cons, Option.map_some,
          Option.getD_some, Option.map_none, Option.getD_none] at rest_total ⊢
        omega
      · have apart : k' ≠ k := fun same => here same.symm
        simp only [find, if_neg here, List.filter_cons, ne_eq, apart, not_false_eq_true,
          decide_true, if_true, List.map_cons, List.sum_cons] at rest_total ⊢
        omega

theorem total_insert (f : α → Nat) (t : Table κ α) (k : κ) (v : α) :
    (t.insert k v).total f + t.weight f k = t.total f + f v :=
  total_put f k v t.ascending

theorem total_erase (f : α → Nat) (t : Table κ α) (k : κ) :
    (t.erase k).total f + t.weight f k = t.total f :=
  total_filter f k t.ascending

end IdService.Table
