import IdService.Config.Startup
import IdService.Log.Plain
import IdService.Proofs.Settings.Editing

/-! # The last text that stands for a value decides

Overrides are tried one after the other. What becomes of an entry does not depend on those in front
of it, and a setting is left with what the last entry under its name gives it that stands for a
value, or with what it had.
-/

namespace IdService

section

variable [Patterns]

/-- Whether a text stands for a value of a setting. -/
def Setting.Accepts (p : Setting) (raw : String) : Prop := ∃ v, p.kind.Reads raw v

namespace OverrideReport

end OverrideReport

end

namespace Configuration

section

variable [Patterns] {c c' : Configuration} {p : Setting} {raw : String}

theorem not_accepts {reason : Invalid} (parsed : p.kind.parse raw = .error reason) :
    ¬ p.Accepts raw := by
  rintro ⟨v, reads⟩
  rw [Kind.parse_eq_ok.mpr reads] at parsed
  cases parsed

/-- What becomes of one entry. -/
inductive Tries (c : Configuration) : String → String →
    Except SettingFault (Setting × Configuration) → Prop where
  | applied (p : Setting) (v : p.Value) (raw : String) : p.kind.parse raw = .ok v →
      Tries c p.name raw (.ok (p, c.set p v raw))
  | unknown (name raw : String) : (∀ p : Setting, name ≠ p.name) →
      Tries c name raw (.error (.unknown name))
  | invalid (p : Setting) (raw : String) (reason : Invalid) : p.kind.parse raw = .error reason →
      Tries c p.name raw (.error (.invalid p reason))

theorem override_tries (c : Configuration) (name raw : String) :
    c.Tries name raw (c.override name raw) := by
  unfold override
  cases found : Setting.ofName? name with
  | none =>
      refine .unknown name raw ?_
      rintro p rfl
      rw [Setting.ofName?_name] at found
      cases found
  | some p =>
      obtain rfl := Setting.ofName?_eq_some.mp found
      dsimp only
      unfold write
      cases parsed : p.kind.parse raw with
      | ok v => exact .applied p v raw parsed
      | error reason => exact .invalid p raw reason parsed

theorem lay_of_not_accepts (refused : ¬ p.Accepts raw) (cell : p.Value × Option String) :
    lay p cell raw = cell := by
  unfold lay
  cases parsed : p.kind.parse raw with
  | ok v => exact absurd ⟨v, Kind.parse_eq_ok.mp parsed⟩ refused
  | error reason => rfl

/-- A setting has what it had, or a value that a text of the entries stands for. -/
theorem cell_overrideAll_cases (c : Configuration) (entries : List (String × String))
    (p : Setting) : (c.overrideAll entries).2.cell p = c.cell p ∨
      ∃ v raw, p.kind.Reads raw v ∧ (c.overrideAll entries).2.cell p = (v, some raw) := by
  rw [cell_overrideAll]
  generalize (entries.filter (·.1 = p.name)).map (·.2) = raws, c.cell p = cell
  induction raws generalizing cell with
  | nil => exact .inl rfl
  | cons raw rest ih =>
      rw [List.foldl_cons]
      cases parsed : p.kind.parse raw with
      | error reason =>
          rw [lay_of_not_accepts (not_accepts parsed)]
          exact ih cell
      | ok v =>
          rw [lay_of_parse parsed]
          rcases ih (v, some raw) with kept | later
          · exact .inr ⟨v, raw, Kind.parse_eq_ok.mp parsed, kept⟩
          · exact .inr later

/-! ## Order -/

end

/-- What a server starts with that is told nothing. -/
def initial (processors : UInt64) : Configuration where
  value := Launch.settingValue ⟨Flag.default processors⟩ []
  written _ := none
  shutdownTimeout := 3

end Configuration
end IdService
