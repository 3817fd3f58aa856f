import IdService.Text.Blank
import Mathlib.Data.List.TakeWhile

/-! # Trimming

White space at the two ends of a text is all that trimming takes away.
-/

namespace IdService.Text

theorem isBlank_visible {c : Char} (low : 33 ≤ c.toNat) (high : c.toNat ≤ 126) :
    isBlank c = false := by
  simp only [isBlank, Bool.or_eq_false_iff, Bool.and_eq_false_iff, decide_eq_false_iff_not,
    beq_eq_false_iff_ne]
  omega

/-- Nothing but white space. -/
def Blanks (cs : List Char) : Prop := ∀ c ∈ cs, isBlank c = true

theorem dropWhile_blanks {cs : List Char} (blanks : Blanks cs) (ds : List Char) :
    (cs ++ ds).dropWhile isBlank = ds.dropWhile isBlank :=
  List.dropWhile_append_of_pos blanks

theorem Blanks.reverse {cs : List Char} (blanks : Blanks cs) : Blanks cs.reverse :=
  fun c member => blanks c (List.mem_reverse.mp member)

theorem trimChars_append {front back : List Char} (blanks : Blanks front) (blanks' : Blanks back)
    (cs : List Char) : trimChars (front ++ cs ++ back) = trimChars cs := by
  unfold trimChars
  rw [List.append_assoc, dropWhile_blanks blanks, List.dropWhile_append]
  split
  · rename_i empty
    have nothing : back.dropWhile isBlank = [] := List.dropWhile_eq_nil_iff.mpr blanks'
    rw [nothing, List.isEmpty_iff.mp empty]
  · rw [List.reverse_append, dropWhile_blanks blanks'.reverse]

theorem trimChars_of_unblank {cs : List Char} (unblank : ∀ c ∈ cs, isBlank c = false) :
    trimChars cs = cs := by
  have kept : ∀ {ds : List Char}, (∀ c ∈ ds, isBlank c = false) → ds.dropWhile isBlank = ds := by
    intro ds unblank
    cases ds with
    | nil => rfl
    | cons d ds => exact List.dropWhile_cons_of_neg (by simp [unblank d (List.mem_cons_self ..)])
  rw [trimChars, kept unblank, kept fun c member => unblank c (List.mem_reverse.mp member),
    List.reverse_reverse]

/-- What is trimmed stands between white space. -/
theorem trimChars_spec (cs : List Char) :
    ∃ front back, cs = front ++ trimChars cs ++ back ∧ Blanks front ∧ Blanks back := by
  refine ⟨cs.takeWhile isBlank, ((cs.dropWhile isBlank).reverse.takeWhile isBlank).reverse,
    ?_, ?_, ?_⟩
  · unfold trimChars
    rw [List.append_assoc, ← List.reverse_append, List.takeWhile_append_dropWhile,
      List.reverse_reverse, List.takeWhile_append_dropWhile]
  · intro c member
    exact List.mem_takeWhile_imp member
  · intro c member
    exact List.mem_takeWhile_imp (List.mem_reverse.mp member)

theorem head?_trimChars {cs part : List Char} (begins : part <+: trimChars cs) :
    ∀ c ∈ part.head?, isBlank c = false := by
  intro c first
  have trimmed : trimChars cs <+: cs.dropWhile isBlank := by
    refine ⟨((cs.dropWhile isBlank).reverse.takeWhile isBlank).reverse, ?_⟩
    rw [trimChars, ← List.reverse_append, List.takeWhile_append_dropWhile, List.reverse_reverse]
  obtain ⟨rest, whole⟩ := begins.trans trimmed
  have begin : (cs.dropWhile isBlank).head? = some c := by
    rw [← whole, List.head?_append, first]
    rfl
  have unblank := List.head?_dropWhile_not isBlank cs
  rw [begin] at unblank
  exact unblank

end IdService.Text
