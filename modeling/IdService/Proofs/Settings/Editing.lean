import IdService.Config.Editing
import IdService.Proofs.Settings.Overlay
import IdService.Proofs.Settings.Reading

/-! # Writing a setting in place

A change in place that ends in a fault keeps what was changed before. A text is checked in front of
both changes, so writing a setting is all or nothing, and a list of texts that are written one after
the other comes to what laying them over makes of a configuration.
-/

namespace IdService
namespace Edit

theorem on_bind {α β : Type} (e : Edit α) (f : α → Edit β) (c : Configuration) :
    (e >>= f).on c = match e.on c with
      | (.ok a, c') => (f a).on c'
      | (.error fault, c') => (.error fault, c') := by
  change (e >>= f) c = match e c with
      | (.ok a, c') => (f a) c'
      | (.error fault, c') => (.error fault, c')
  simp only [bind, ExceptT.bind, ExceptT.mk, StateT.bind]
  rcases e c with ⟨fault | a, c'⟩
  · rfl
  · rfl

theorem on_named (c : Configuration) (name : String) :
    (named name).on c = match Setting.ofName? name with
      | some p => (.ok p, c)
      | none => (.error (.unknown name), c) := by
  unfold named
  cases Setting.ofName? name with
  | none => rfl
  | some p => rfl

section

variable [Patterns]

theorem on_apply (c : Configuration) (p : Setting) (raw : String) :
    (apply p raw).on c = match p.kind.parse raw with
      | .ok v => (.ok raw, c.set p v raw)
      | .error reason => (.error (.invalid p reason), c) := by
  unfold apply check
  cases p.kind.parse raw with
  | ok v => rfl
  | error reason => rfl

theorem on_override (c : Configuration) (name raw : String) :
    (override name raw).on c = match c.override name raw with
      | .ok (p, c') => (.ok p, c')
      | .error fault => (.error fault, c) := by
  rw [override, on_bind, on_named, Configuration.override]
  cases Setting.ofName? name with
  | none => rfl
  | some p =>
      dsimp only
      rw [on_bind, on_apply, Configuration.write]
      cases p.kind.parse raw with
      | ok v => rfl
      | error reason => rfl

theorem run_report (o : OverrideReport) (entry : String × String) (c : Configuration) :
    (report o entry).run c = match c.override entry.1 entry.2 with
      | .ok (p, c') => ({ o with applied := o.applied ++ [p] }, c')
      | .error fault => ({ o with rejected := o.rejected ++ [(entry.1, fault)] }, c) := by
  have tries := on_override c entry.1 entry.2
  unfold on at tries
  rw [report, StateT.run_bind, tries]
  rcases c.override entry.1 entry.2 with fault | ⟨p, c'⟩
  · rfl
  · rfl

/-- In place or not, overrides come to the same. -/
theorem run_overlay (entries : List (String × String)) (c : Configuration) :
    (overlay entries).run c = c.overrideAll entries := by
  have tried : ∀ (o : OverrideReport) (c : Configuration), (entries.foldlM report o).run c =
      ({ applied := o.applied ++ (c.overrideAll entries).1.applied
         rejected := o.rejected ++ (c.overrideAll entries).1.rejected },
        (c.overrideAll entries).2) := by
    induction entries with
    | nil =>
        intro o c
        simp only [Configuration.overrideAll, List.append_nil]
        rfl
    | cons entry rest ih =>
        intro o c
        rw [List.foldlM_cons, StateT.run_bind, run_report, Configuration.overrideAll]
        rcases c.override entry.1 entry.2 with fault | ⟨p, c'⟩
        · refine (ih _ _).trans ?_
          simp only [List.append_assoc, List.singleton_append]
        · refine (ih _ _).trans ?_
          simp only [List.append_assoc, List.singleton_append]
  exact tried {} c

end

end Edit

/-! ## What a write does -/

namespace Configuration

variable {c c' : Configuration} {p : Setting} {raw : String}

/-- One setting has a new value and is read as the text it was given, and no other has changed. -/
structure Gives (c : Configuration) (p : Setting) (v : p.Value) (raw : String)
    (c' : Configuration) : Prop where
  value : c'.value p = v
  text : c'.text p = raw
  otherValues : ∀ q, q ≠ p → c'.value q = c.value q
  otherTexts : ∀ q, q ≠ p → c'.text q = c.text q
  shutdownTimeout : c'.shutdownTimeout = c.shutdownTimeout

theorem gives_set (c : Configuration) (p : Setting) (v : p.Value) (raw : String) :
    c.Gives p v raw (c.set p v raw) where
  value := value_of_cell (cell_set_same c p v raw)
  text := text_of_written (written_of_cell (cell_set_same c p v raw))
  otherValues := fun _ other => congrArg Prod.fst (cell_set_other c other v raw)
  otherTexts := fun _ other => text_congr (cell_set_other c other v raw)
  shutdownTimeout := rfl

end Configuration
end IdService
