import IdService.Text.Utf8

/-!
# Tables

Finite maps whose keys are texts or byte strings, kept as a list in ascending order of the bytes of
the keys. Two tables that hold the same entries are equal (`Table.ext`), and what `insert` and
`erase` do to `get?` is said by `get?_insert` and `get?_erase`.
-/

namespace IdService

/-- Keys that stand for byte strings, different keys for different ones. -/
class ByteKey (κ : Type) where
  bytes : κ → Bytes
  bytes_injective : ∀ {a b : κ}, bytes a = bytes b → a = b

instance : ByteKey Bytes := ⟨id, id⟩

instance : ByteKey String := ⟨Text.utf8, Text.utf8_injective⟩

open ByteKey

/-- A finite map, its entries in ascending order of the bytes of their keys. -/
structure Table (κ α : Type) [ByteKey κ] where
  entries : List (κ × α)
  ascending : entries.Pairwise fun a b => bytes a.1 < bytes b.1

namespace Table

variable {κ α : Type} [ByteKey κ]

instance [DecidableEq κ] [DecidableEq α] : DecidableEq (Table κ α) := fun s t =>
  if h : s.entries = t.entries then
    isTrue (by cases s; cases t; cases h; rfl)
  else isFalse fun e => h (e ▸ rfl)

instance [Repr κ] [Repr α] : Repr (Table κ α) := ⟨fun t n => reprPrec t.entries n⟩

def empty : Table κ α := ⟨[], .nil⟩

instance : EmptyCollection (Table κ α) := ⟨empty⟩
instance : Inhabited (Table κ α) := ⟨empty⟩

def keys (t : Table κ α) : List κ := t.entries.map (·.1)

/-- The value of a key among entries. -/
def find [DecidableEq κ] (k : κ) : List (κ × α) → Option α
  | [] => none
  | (k', v) :: rest => if k = k' then some v else find k rest

def get? [DecidableEq κ] (t : Table κ α) (k : κ) : Option α := find k t.entries

def contains [DecidableEq κ] (t : Table κ α) (k : κ) : Bool := (t.get? k).isSome

/-- Puts an entry in its place; it replaces one of the same key. -/
def put (k : κ) (v : α) : List (κ × α) → List (κ × α)
  | [] => [(k, v)]
  | (k', v') :: rest =>
    if bytes k < bytes k' then (k, v) :: (k', v') :: rest
    else if bytes k = bytes k' then (k, v) :: rest
    else (k', v') :: put k v rest

/-- What a put list holds is the new entry or an old one. -/
theorem mem_put {k : κ} {v : α} {e : κ × α} {l : List (κ × α)} (h : e ∈ put k v l) :
    e = (k, v) ∨ e ∈ l := by
  fun_induction put k v l with
  | case1 => simpa using h
  | case2 k' v' rest less => simpa using h
  | case3 k' v' rest _ same =>
    rcases List.mem_cons.mp h with rfl | m
    · exact .inl rfl
    · exact .inr (List.mem_cons_of_mem _ m)
  | case4 k' v' rest _ _ ih =>
    rcases List.mem_cons.mp h with rfl | m
    · exact .inr (List.mem_cons_self ..)
    · exact (ih m).imp_right (List.mem_cons_of_mem _)

/-- Putting an entry keeps the keys in strictly ascending order. -/
theorem ascending_put {k : κ} {v : α} {l : List (κ × α)}
    (h : l.Pairwise fun a b => bytes a.1 < bytes b.1) :
    (put k v l).Pairwise fun a b => bytes a.1 < bytes b.1 := by
  fun_induction put k v l with
  | case1 => simp
  | case2 k' v' rest less =>
    refine .cons (fun e m => ?_) h
    rcases List.mem_cons.mp m with rfl | m
    · exact less
    · exact Std.lt_trans less (List.rel_of_pairwise_cons h m)
  | case3 k' v' rest _ same =>
    exact .cons (fun e m => same ▸ List.rel_of_pairwise_cons h m) h.of_cons
  | case4 k' v' rest notLess notSame ih =>
    refine .cons (fun e m => ?_) (ih h.of_cons)
    rcases mem_put m with rfl | m
    · rcases Std.lt_trichotomy (bytes k) (bytes k') with less | same | more
      · exact absurd less notLess
      · exact absurd same notSame
      · exact more
    · exact List.rel_of_pairwise_cons h m

def insert (t : Table κ α) (k : κ) (v : α) : Table κ α :=
  ⟨put k v t.entries, ascending_put t.ascending⟩

def erase [DecidableEq κ] (t : Table κ α) (k : κ) : Table κ α :=
  ⟨t.entries.filter fun e => e.1 ≠ k, t.ascending.filter _⟩

/-- The table of entries of which the last of each key counts. -/
def ofList (entries : List (κ × α)) : Table κ α :=
  entries.foldl (fun t e => t.insert e.1 e.2) empty

/-! ## What the operations do to look-ups -/

variable [DecidableEq κ]

/-- An empty table holds nothing. -/
@[simp] theorem get?_empty (k : κ) : (empty : Table κ α).get? k = none := rfl

/-- The new key is found with its new value, and every other key as before. -/
theorem find_put (k k' : κ) (v : α) (l : List (κ × α)) :
    find k' (put k v l) = if k' = k then some v else find k' l := by
  fun_induction put k v l with
  | case1 => simp [find]
  | case2 => simp [find]
  | case3 k'' v' rest _ same =>
    cases bytes_injective same
    by_cases here : k' = k <;> simp [find, here]
  | case4 k'' v' rest _ other ih =>
    have apart : k ≠ k'' := fun e => other (e ▸ rfl)
    by_cases here : k' = k'' <;> grind [find]

/-- An insertion changes what its own key holds and nothing else. -/
@[simp] theorem get?_insert (t : Table κ α) (k k' : κ) (v : α) :
    (t.insert k v).get? k' = if k' = k then some v else t.get? k' :=
  find_put k k' v t.entries

omit [ByteKey κ] in
/-- Leaving a key out hides that key and no other. -/
theorem find_filter (k k' : κ) (l : List (κ × α)) :
    find k' (l.filter fun e => e.1 ≠ k) = if k' = k then none else find k' l := by
  induction l with
  | nil => simp [find]
  | cons e rest ih =>
    obtain ⟨k'', v⟩ := e
    by_cases gone : k'' = k <;> by_cases here : k' = k'' <;> grind [find]

/-- An erasure empties its own key and changes nothing else. -/
@[simp] theorem get?_erase (t : Table κ α) (k k' : κ) :
    (t.erase k).get? k' = if k' = k then none else t.get? k' :=
  find_filter k k' t.entries

/-- A key below all keys of a list is not in it. -/
theorem find_eq_none_of_lt {k : κ} {l : List (κ × α)} (h : ∀ e ∈ l, bytes k < bytes e.1) :
    find k l = none := by
  induction l with
  | nil => rfl
  | cons e rest ih =>
    obtain ⟨k', v⟩ := e
    have less := h (k', v) (List.mem_cons_self ..)
    have apart : k ≠ k' := fun same => Std.lt_irrefl (same ▸ less)
    simp only [find, if_neg apart]
    exact ih fun e m => h e (List.mem_cons_of_mem _ m)

/-- Two ascending lists in which every key finds the same are the same list. -/
theorem entries_eq_of_find {l m : List (κ × α)}
    (hl : l.Pairwise fun a b => bytes a.1 < bytes b.1)
    (hm : m.Pairwise fun a b => bytes a.1 < bytes b.1)
    (same : ∀ k, find k l = find k m) : l = m := by
  induction l generalizing m with
  | nil =>
    cases m with
    | nil => rfl
    | cons e rest => simpa [find] using same e.1
  | cons a as ih =>
    obtain ⟨ka, va⟩ := a
    cases m with
    | nil => simpa [find] using same ka
    | cons b bs =>
      obtain ⟨kb, vb⟩ := b
      have keys_eq : bytes ka = bytes kb := by
        rcases Std.lt_trichotomy (bytes ka) (bytes kb) with less | eq | more
        · have missing := find_eq_none_of_lt (k := ka) (l := (kb, vb) :: bs) fun e m => by
            rcases List.mem_cons.mp m with rfl | m
            · exact less
            · exact Std.lt_trans less (List.rel_of_pairwise_cons hm m)
          rw [← same ka] at missing
          simp [find] at missing
        · exact eq
        · have missing := find_eq_none_of_lt (k := kb) (l := (ka, va) :: as) fun e m => by
            rcases List.mem_cons.mp m with rfl | m
            · exact more
            · exact Std.lt_trans more (List.rel_of_pairwise_cons hl m)
          rw [same kb] at missing
          simp [find] at missing
      have := bytes_injective keys_eq
      subst this
      have values_eq : va = vb := by simpa [find] using same ka
      subst values_eq
      have rests_eq : as = bs := ih hl.of_cons hm.of_cons fun k => by
        by_cases here : k = ka
        · subst here
          rw [find_eq_none_of_lt fun e m => List.rel_of_pairwise_cons hl m,
            find_eq_none_of_lt fun e m => List.rel_of_pairwise_cons hm m]
        · simpa [find, here] using same k
      rw [rests_eq]

/-- Tables with the same look-ups are equal. -/
theorem ext {s t : Table κ α} (same : ∀ k, s.get? k = t.get? k) : s = t := by
  have := entries_eq_of_find s.ascending t.ascending same
  cases s
  cases t
  cases this
  rfl

end Table
end IdService
