import IdService.Config.Setting

/-!
# The command line

A server is started with flags and an environment. Each flag takes one value, as the next word or
behind an equals sign; what no flag gives is taken from the environment, and else has a default. The
words and the variables are bytes of the operating system, which need not be UTF-8.
-/

namespace IdService

/-- A flag of the command line: every setting has one, and the time given at the end. -/
inductive Flag where
  | setting (s : Setting)
  | shutdownTimeout
deriving Repr, DecidableEq

/-- The kind of value that a flag takes. -/
inductive FlagKind where
  | text
  /-- Bytes of any kind, but not none. -/
  | path
  | port
  | number
  | integer
deriving Repr, DecidableEq

/-- Why the server does not start with a command line. Asking for help is a reason, too. -/
inductive CommandLineFault where
  | unknownArgument
  /-- A value is missing, or an empty one is not allowed. -/
  | invalidValue
  /-- A text is no value of its flag. -/
  | valueValidation
  | notUtf8
  | argumentConflict
  | tooManyValues
  | displayHelp
  | displayVersion
deriving Repr, DecidableEq

@[reducible] def FlagKind.Value : FlagKind → Type
  | text => String
  | path => Bytes
  | port => UInt16
  | number => UInt64
  | integer => Int64

/-- The text of a value. -/
def FlagKind.decode (raw : Bytes) : Except CommandLineFault String :=
  match Text.ofUtf8? raw with
  | some decoded => .ok decoded
  | none => .error .notUtf8

/-- Reads a numeral that is a value. -/
def FlagKind.numeral (r : Numeral.Range) (raw : Bytes) : Except CommandLineFault Int := do
  match Numeral.read r (← decode raw).toList with
  | .ok n => return n
  | .error _ => throw .valueValidation

/-- Reads the value of a flag. A port is a number of 64 bits with a sign, in the range of ports. -/
def FlagKind.parse : (k : FlagKind) → Bytes → Except CommandLineFault k.Value
  | text, raw => decode raw
  | path, raw => if raw.isEmpty then .error .invalidValue else .ok raw
  | port, raw => do
    let n ← numeral Numeral.Range.int64 raw
    if Numeral.Range.uint16.Contains n then return UInt16.ofNat n.toNat else throw .valueValidation
  | number, raw => do return UInt64.ofNat (← numeral Numeral.Range.uint64 raw).toNat
  | integer, raw => do return Int64.ofInt (← numeral Numeral.Range.int64 raw)

namespace Flag

/-- All flags, in the order in which the environment is looked at. -/
def all : List Flag := Setting.all.map setting ++ [shutdownTimeout]

@[reducible] def kind : Flag → FlagKind
  | setting .logLevel => .text
  | setting .logPath => .path
  | setting .serverHost => .text
  | setting .serverPort => .port
  | setting .transPort => .port
  | setting .serverId => .number
  | setting .nodes => .text
  | setting .heartbeatTimeOut => .number
  | setting .heartbeatTimeInterval => .number
  | setting .threads => .number
  | setting .dataPath => .path
  | setting .batchSize => .integer
  | shutdownTimeout => .number

abbrev Value (f : Flag) : Type := f.kind.Value

/-- The name of what a flag sets. -/
def name : Flag → String
  | setting s => s.name
  | shutdownTimeout => "shutdown_timeout"

/-- The flag as it is written behind two dashes. -/
def word (f : Flag) : Bytes := Bytes.ofAscii (f.name.map fun c => if c = '_' then '-' else c)

/-- The variable of the environment that stands in for a flag. -/
def environmentName (f : Flag) : String := f.name.map Char.toUpper

/-- The flag of a word. -/
def ofWord? (word : Bytes) : Option Flag := all.find? (·.word == word)

/-- The value of a flag that nobody gives; there are as many threads as processors. -/
def default (processors : UInt64) : (f : Flag) → f.Value
  | setting .logLevel => "info"
  | setting .logPath => Text.utf8 "./logs"
  | setting .serverHost => "0.0.0.0"
  | setting .serverPort => (6389 : UInt16)
  | setting .transPort => (6390 : UInt16)
  | setting .serverId => (1 : UInt64)
  | setting .nodes => "[]"
  | setting .heartbeatTimeOut => (10 : UInt64)
  | setting .heartbeatTimeInterval => (1 : UInt64)
  | setting .threads => processors
  | setting .dataPath => Text.utf8 "./data"
  | setting .batchSize => (1000 : Int64)
  | shutdownTimeout => (3 : UInt64)

end Flag

/-- The values a server is started with. -/
structure Launch where
  value : (f : Flag) → f.Value

namespace Launch

/-- The values with a new one for a flag. -/
def set (l : Launch) (f : Flag) (v : f.Value) : Launch :=
  ⟨fun g => if h : g = f then h ▸ v else l.value g⟩

/-- Reads a value for a flag. -/
def give (l : Launch) (f : Flag) (raw : Bytes) : Except CommandLineFault Launch := do
  return l.set f (← f.kind.parse raw)

end Launch

/-- A command line that is being read. -/
structure CommandLine where
  launch : Launch
  given : List Flag := []
  /-- The last flag, if its value has not been read: the next word, or none so far. -/
  pending : Option (Flag × Option Bytes) := none
  /-- Whether two dashes have ended the flags. -/
  ended : Bool := false

namespace CommandLine

/-- Reads the value of a flag, which must not have had one. -/
def give (c : CommandLine) (f : Flag) (raw : Bytes) : Except CommandLineFault CommandLine := do
  if f ∈ c.given then throw .argumentConflict
  else return { c with launch := ← c.launch.give f raw, given := f :: c.given }

/-- Reads the value of the pending flag. -/
def settle (c : CommandLine) : Except CommandLineFault CommandLine :=
  match c.pending with
  | none => .ok c
  | some (_, none) => .error .invalidValue
  | some (f, some raw) => { c with pending := none }.give f raw

/-- The fault that a pending flag has, or else `fault`. -/
def settleThen (c : CommandLine) (fault : CommandLineFault) :
    Except CommandLineFault CommandLine := do
  let _ ← c.settle
  throw fault

/-- The sign between a flag and its value. -/
def equals : UInt8 := Byte.ofAscii '='

/-- Reads a word behind two dashes: a name, and a value behind an equals sign. -/
def long (c : CommandLine) (text : Bytes) : Except CommandLineFault CommandLine :=
  let name := text.takeWhile (· != equals)
  match Flag.ofWord? name, text.dropWhile (· != equals) with
  | some f, [] => do return { ← c.settle with pending := some (f, none) }
  | some f, _ :: value => do (← c.settle).give f value
  | none, [] =>
    if name = Bytes.ofAscii "help" then c.settleThen .displayHelp
    else if name = Bytes.ofAscii "version" then c.settleThen .displayVersion
    else .error .unknownArgument
  | none, _ :: _ =>
    if name = Bytes.ofAscii "help" ∨ name = Bytes.ofAscii "version" then .error .tooManyValues
    else .error .unknownArgument

/-- Reads a word that is no flag: the value of the flag before it. -/
def plain (c : CommandLine) (word : Bytes) : Except CommandLineFault CommandLine :=
  match c.pending with
  | some (f, none) => .ok { c with pending := some (f, some word) }
  | _ => .error .unknownArgument

def step (c : CommandLine) (word : Bytes) : Except CommandLineFault CommandLine :=
  if c.ended then .error .unknownArgument
  else match word with
    -- a dash is 45, the letters h and V are 104 and 86
    | [45, 45] => .ok { c with ended := true }
    | 45 :: 45 :: text => c.long text
    | 45 :: 104 :: _ => c.settleThen .displayHelp
    | 45 :: 86 :: _ => c.settleThen .displayVersion
    | 45 :: _ :: _ => .error .unknownArgument
    | _ => c.plain word

/-- Takes the flags that have not been given from the environment. -/
def fill (environment : String → Option Bytes) (c : CommandLine) (f : Flag) :
    Except CommandLineFault CommandLine := do
  if f ∈ c.given then return c
  else match environment f.environmentName with
    | none => return c
    | some raw => return { c with launch := ← c.launch.give f raw }

end CommandLine

/-- The values of a command line and an environment. -/
def Launch.read (processors : UInt64) (words : List Bytes)
    (environment : String → Option Bytes) : Except CommandLineFault Launch := do
  let start : CommandLine := { launch := ⟨Flag.default processors⟩ }
  let c ← words.foldlM CommandLine.step start
  let c ← c.settle
  let c ← Flag.all.foldlM (CommandLine.fill environment) c
  return c.launch

end IdService
