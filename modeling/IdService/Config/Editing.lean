import IdService.Config.Configuration

/-!
# Editing in place

A configuration that is changed where it stands: what has been changed in front of a fault stays
changed. A text is checked before anything is touched.
-/

namespace IdService

/-- A change of a configuration in place. A fault takes nothing back. -/
abbrev Edit := ExceptT SettingFault (StateM Configuration)

namespace Edit

/-- What comes of a change, and the configuration afterwards. -/
def on {α : Type} (e : Edit α) (c : Configuration) : Except SettingFault α × Configuration :=
  StateT.run (ExceptT.run e) c

/-- The value of a text. -/
def check [Patterns] (s : Setting) (raw : String) : Edit s.Value :=
  match s.kind.parse raw with
  | .ok v => return v
  | .error reason => throw (.invalid s reason)

/-- Puts a value in force. -/
def assign (s : Setting) (v : s.Value) : Edit Unit :=
  modify fun c => { c with value := fun t => if h : t = s then h ▸ v else c.value t }

/-- Keeps the text last written. -/
def keep (s : Setting) (raw : String) : Edit Unit :=
  modify fun c => { c with written := fun t => if t = s then some raw else c.written t }

/-- Takes a text over for a setting and gives it back. -/
def apply [Patterns] (s : Setting) (raw : String) : Edit String := do
  assign s (← check s raw)
  keep s raw
  return raw

/-- The setting of a name. -/
def named (name : String) : Edit Setting :=
  match Setting.ofName? name with
  | some s => return s
  | none => throw (.unknown name)

section

variable [Patterns]

/-- Takes a saved text over by the name of its setting. -/
def override (name raw : String) : Edit Setting := do
  let s ← named name
  let _ ← apply s raw
  return s

/-- Tries a saved text, and adds to a report what became of it. -/
def report (o : OverrideReport) (entry : String × String) :
    StateM Configuration OverrideReport := do
  match ← ExceptT.run (override entry.1 entry.2) with
  | .ok s => return { o with applied := o.applied ++ [s] }
  | .error fault => return { o with rejected := o.rejected ++ [(entry.1, fault)] }

/-- Tries saved texts one after the other. -/
def overlay (entries : List (String × String)) : StateM Configuration OverrideReport :=
  entries.foldlM report {}

end

end Edit
end IdService
