import IdService.Config.Configuration
import IdService.Registry

/-!
# Settings of a running server

The configuration in force and the log filter that is loaded. A setting is checked, saved in the
store, and only then made visible, so that a text that can be read back is one that holds after a
restart, too.
-/

namespace IdService

/-- Why a setting is not written. -/
inductive WriteFault where
  | setting (fault : SettingFault)
  | store (fault : CounterFault)
deriving Repr, DecidableEq

def WriteFault.message : WriteFault → String
  | setting fault => fault.message
  | store fault => "failed to persist setting: " ++ fault.message

def WriteFault.isCrash : WriteFault → Bool
  | setting fault => fault.isCrash
  | store _ => false

/-- The configuration in force and, where one is loaded, the log filter. -/
structure Settings where
  config : Configuration
  filter : Option LogFilter := none

/-- What a new value of a setting does to the registry at once. -/
abbrev LiveEffect := Setting → Configuration → Registry → Except CounterFault Registry

namespace LiveEffect

/-- No effect. -/
def none : LiveEffect := fun _ _ registry => .ok registry

/-- A new batch size is passed on to the registry. -/
def batchSize : LiveEffect := fun s config registry =>
  if s = .batchSize then registry.withBatchSize config.batchSize else .ok registry

/-- Every effect is refused. -/
def refuse (fault : CounterFault) : LiveEffect := fun _ _ _ => .error fault

end LiveEffect

namespace Settings

/-- The text of the setting of a name. -/
def text? (s : Settings) (name : String) : Option String :=
  (Setting.ofName? name).map s.config.text

section

variable [Patterns]

/-- The log filter once `raw` has been written to a setting. -/
def reload (s : Settings) (setting : Setting) (raw : String) : Option LogFilter :=
  match s.filter with
  | none => none
  | some filter =>
    if setting = .logLevel then
      match LogFilter.parse (Text.trim raw) with
      | .ok filter => some filter
      | .error _ => some filter
    else some filter

/-- Writes `raw` to the setting of a name: it is checked, saved in the store and passed on before
it is in force. If it is not passed on it stays saved. -/
def write (s : Settings) (effect : LiveEffect) (store : Store) (registry : Registry)
    (name raw : String) : Except WriteFault Setting × Settings × Store × Registry :=
  match s.config.override name raw with
  | .error fault => (.error (.setting fault), s, store, registry)
  | .ok (setting, config) =>
    let store := store.keepSetting setting.name raw
    match effect setting config registry with
    | .error fault => (.error (.store fault), s, store, registry)
    | .ok registry =>
      (.ok setting, { config, filter := s.reload setting raw }, store, registry)

end

end Settings
end IdService
