import IdService.Proofs.Text.Utf8
import IdService.Config.Configuration

/-! # Texts laid over a configuration

What a configuration says of one setting is its cell: the value, and the text it was written as.
Writing a setting changes its own cell. Of many texts laid over a configuration one after the
other, those for other settings and those that are no values of it pass a cell by; the last one
that is left is what it holds.
-/

namespace IdService

namespace Setting

@[simp] theorem ofName?_name (p : Setting) : ofName? p.name = some p := by
  cases p <;> rfl

theorem ofName?_eq_some {name : String} {p : Setting} : ofName? name = some p ↔ name = p.name := by
  constructor
  · intro found
    have same := List.find?_some found
    exact (beq_iff_eq.mp same).symm
  · rintro rfl
    exact ofName?_name p

theorem name_injective {p q : Setting} (same : p.name = q.name) : p = q := by
  have found := ofName?_name p
  rw [same, ofName?_name] at found
  exact (Option.some.inj found).symm

/-- No name of a setting can come of bytes that are not UTF-8. -/
theorem replacement_not_mem_name (p : Setting) : Text.replacement ∉ p.name.toList := by
  cases p <;> decide

end Setting

namespace Configuration

variable {c c' : Configuration} {p q : Setting} {raw : String}

/-! ## Cells -/

/-- What a configuration says of a setting. -/
def cell (c : Configuration) (p : Setting) : p.Value × Option String := (c.value p, c.written p)

theorem cell_set_same (c : Configuration) (p : Setting) (v : p.Value) (raw : String) :
    (c.set p v raw).cell p = (v, some raw) := by
  simp [cell, set]

theorem cell_set_other (c : Configuration) (other : p ≠ q) (v : q.Value) (raw : String) :
    (c.set q v raw).cell p = c.cell p := by
  simp [cell, set, other]

theorem value_of_cell {v : p.Value} {written : Option String} (cell : c.cell p = (v, written)) :
    c.value p = v :=
  congrArg Prod.fst cell

theorem written_of_cell {v : p.Value} {written : Option String} (cell : c.cell p = (v, written)) :
    c.written p = written :=
  congrArg Prod.snd cell

theorem text_of_written (written : c.written p = some raw) : c.text p = raw := by
  rw [text, written]

theorem text_congr (same : c'.cell p = c.cell p) : c'.text p = c.text p := by
  obtain ⟨value, written⟩ := Prod.mk.inj same
  rw [text, text, value, written]

/-! ## Laying texts over -/

variable [Patterns]

/-- What a text makes of the cell of its setting. -/
def lay (p : Setting) (cell : p.Value × Option String) (raw : String) : p.Value × Option String :=
  match p.kind.parse raw with
  | .ok v => (v, some raw)
  | .error _ => cell

theorem lay_of_parse {v : p.Value} (parsed : p.kind.parse raw = .ok v)
    (cell : p.Value × Option String) : lay p cell raw = (v, some raw) := by
  simp only [lay, parsed]

theorem override_eq_ok {name : String} :
    c.override name raw = .ok (p, c') ↔
      name = p.name ∧ ∃ v, p.kind.parse raw = .ok v ∧ c' = c.set p v raw := by
  constructor
  · intro taken
    unfold override at taken
    cases found : Setting.ofName? name with
    | none =>
        rw [found] at taken
        cases taken
    | some q =>
        simp only [found, write] at taken
        cases parsed : q.kind.parse raw with
        | error reason =>
            rw [parsed] at taken
            cases taken
        | ok v =>
            rw [parsed] at taken
            cases taken
            exact ⟨Setting.ofName?_eq_some.mp found, v, parsed, rfl⟩
  · rintro ⟨rfl, v, parsed, rfl⟩
    simp only [override, Setting.ofName?_name, write, parsed]

/-- An entry that is a text of its setting. -/
def Valid (entry : String × String) : Prop :=
  ∃ (p : Setting) (v : p.Value), entry.1 = p.name ∧ p.kind.parse entry.2 = .ok v

theorem overrideAll_rejected {saved : List (String × String)} (valid : ∀ e ∈ saved, Valid e)
    (c : Configuration) : (c.overrideAll saved).1.rejected = [] := by
  induction saved generalizing c with
  | nil => rfl
  | cons entry rest ih =>
      obtain ⟨name, raw⟩ := entry
      obtain ⟨p, v, named, parsed⟩ := valid (name, raw) (List.mem_cons_self ..)
      have taken : c.override name raw = .ok (p, c.set p v raw) :=
        override_eq_ok.mpr ⟨named, v, parsed, rfl⟩
      unfold overrideAll
      rw [taken]
      exact ih (fun e member => valid e (List.mem_cons_of_mem _ member)) _

/-- An entry lays its text over the cell of its own setting. -/
private theorem cell_override (c : Configuration) (p : Setting) (name raw : String) :
    (match c.override name raw with
      | .ok (_, c') => c'.cell p
      | .error _ => c.cell p) =
      if name = p.name then lay p (c.cell p) raw else c.cell p := by
  unfold override
  cases found : Setting.ofName? name with
  | none =>
      have other : name ≠ p.name := by
        rintro rfl
        rw [Setting.ofName?_name] at found
        cases found
      rw [if_neg other]
  | some q =>
      obtain rfl := Setting.ofName?_eq_some.mp found
      dsimp only
      unfold write
      by_cases here : q = p
      · subst here
        rw [if_pos rfl]
        unfold lay
        cases q.kind.parse raw with
        | error reason => rfl
        | ok v => exact cell_set_same c q v raw
      · rw [if_neg fun same => here (Setting.name_injective same)]
        cases q.kind.parse raw with
        | error reason => rfl
        | ok v => exact cell_set_other c (Ne.symm here) v raw

theorem cell_overrideAll (c : Configuration) (p : Setting) (saved : List (String × String)) :
    (c.overrideAll saved).2.cell p =
      ((saved.filter (·.1 = p.name)).map (·.2)).foldl (lay p) (c.cell p) := by
  induction saved generalizing c with
  | nil => rfl
  | cons entry rest ih =>
      obtain ⟨name, raw⟩ := entry
      have one := cell_override c p name raw
      have laid :
          ((((name, raw) :: rest).filter (·.1 = p.name)).map (·.2)).foldl (lay p) (c.cell p) =
            ((rest.filter (·.1 = p.name)).map (·.2)).foldl (lay p)
              (if name = p.name then lay p (c.cell p) raw else c.cell p) := by
        by_cases named : name = p.name <;> simp [named]
      rw [laid, ← one]
      unfold overrideAll
      cases c.override name raw with
      | error fault => exact ih c
      | ok taken =>
          obtain ⟨q, c'⟩ := taken
          exact ih c'

end Configuration
end IdService
