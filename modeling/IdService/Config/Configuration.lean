import IdService.Config.Setting

/-!
# The configuration

A value for every setting, and the very text of each setting that has been written since the start.
Reading a setting gives that text back, or shows the value if there is none. A text that is not taken
over has changed nothing, also where the reader has crashed on it: whoever asked for it to be written
tells the two apart.
-/

namespace IdService

structure Configuration where
  /-- The value in force. -/
  value : (s : Setting) → s.Value
  /-- The text last written. -/
  written : Setting → Option String
  /-- Seconds that open connections are given at the end. -/
  shutdownTimeout : UInt64

namespace Configuration

def text (c : Configuration) (s : Setting) : String :=
  match c.written s with
  | some raw => raw
  | none => s.kind.render (c.value s)

/-- The configuration with a new value for one setting, and the text it was written as. -/
def set (c : Configuration) (s : Setting) (v : s.Value) (raw : String) : Configuration :=
  { c with
    value := fun t => if h : t = s then h ▸ v else c.value t
    written := fun t => if t = s then some raw else c.written t }

/-- Checks a text for a setting and takes it over. -/
def write [Patterns] (c : Configuration) (s : Setting) (raw : String) :
    Except Invalid Configuration :=
  match s.kind.parse raw with
  | .ok v => .ok (c.set s v raw)
  | .error reason => .error reason

/-- The number of identifiers reserved at a time. -/
def batchSize (c : Configuration) : Int64 := c.value .batchSize

/-- The address to listen on. -/
def serverAddress (c : Configuration) : String :=
  Text.trim (c.value .serverHost) ++ ":" ++ Numeral.text (c.value .serverPort).toNat

end Configuration

/-- Why a setting cannot be given a text: there is no setting of that name, or the text is no value
of it. -/
inductive SettingFault where
  | unknown (name : String)
  | invalid (s : Setting) (reason : Invalid)
deriving Repr, DecidableEq

def SettingFault.message : SettingFault → String
  | unknown name => "unknown config name `" ++ name ++ "`"
  | invalid s reason => "invalid value for `" ++ s.name ++ "`: " ++ reason.message

def SettingFault.isCrash : SettingFault → Bool
  | invalid _ reason => reason.isCrash
  | unknown _ => false

/-- The outcome of laying saved texts over a configuration: what was taken over and what was left
out, each in order. -/
structure OverrideReport where
  applied : List Setting := []
  rejected : List (String × SettingFault) := []
deriving Repr, DecidableEq

/-- Whether the reader has crashed on one of the texts. -/
def OverrideReport.crashes (o : OverrideReport) : Bool := o.rejected.any (·.2.isCrash)

namespace Configuration

variable [Patterns]

/-- Applies one saved text by the name of its setting. -/
def override (c : Configuration) (name value : String) :
    Except SettingFault (Setting × Configuration) :=
  match Setting.ofName? name with
  | none => .error (.unknown name)
  | some s =>
    match c.write s value with
    | .ok c' => .ok (s, c')
    | .error reason => .error (.invalid s reason)

/-- Lays saved texts over a configuration, in order. What cannot be applied is left out. -/
def overrideAll (c : Configuration) : List (String × String) → OverrideReport × Configuration
  | [] => ({}, c)
  | (name, value) :: rest =>
    match c.override name value with
    | .ok (s, c') =>
      let (o, final) := c'.overrideAll rest
      ({ o with applied := s :: o.applied }, final)
    | .error fault =>
      let (o, final) := c.overrideAll rest
      ({ o with rejected := (name, fault) :: o.rejected }, final)

end Configuration
end IdService
