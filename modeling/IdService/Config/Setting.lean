import IdService.Config.Node
import IdService.Log.Filter

/-!
# Settings

The names of the configuration, and the kind of value that each holds. A kind says which texts it
accepts and how a value is shown.
-/

namespace IdService

/-- Why a text is no value. Nothing has been touched in any case, a crash of the reader included. -/
inductive Invalid where
  | numeral (fault : Numeral.Fault)
  | notPositive
  | blank
  | filter (fault : LogFilter.Fault)
  | nodes (fault : Json.Fault) (source : String)
deriving Repr, DecidableEq

def Invalid.message : Invalid → String
  | .numeral fault => fault.message
  | .notPositive => "must be greater than 0"
  | .blank => "must not be empty"
  | .filter fault => fault.message
  | .nodes fault source => fault.message (Text.utf8 source)

def Invalid.isCrash : Invalid → Bool
  | .filter fault => fault.isCrash
  | _ => false

inductive Kind where
  /-- A log filter, kept as its text. -/
  | filter
  | text
  /-- A path of the file system, which is any bytes. -/
  | path
  | port
  | number
  | positive
  /-- How many identifiers are reserved at a time; positive. -/
  | batch
  | nodes
deriving Repr, DecidableEq

namespace Kind

@[reducible] def Value : Kind → Type
  | filter => String
  | text => String
  | path => Bytes
  | port => UInt16
  | number => UInt64
  | positive => UInt64
  | batch => Int64
  | nodes => List Node

/-- Reads a numeral between white space. -/
def numeral (r : Numeral.Range) (raw : String) : Except Invalid Int :=
  match Numeral.read r (Text.trimChars raw.toList) with
  | .ok n => .ok n
  | .error fault => .error (.numeral fault)

/-- A text that is not blank. -/
def unblank (raw : String) : Except Invalid String :=
  if (Text.trimChars raw.toList).isEmpty then .error .blank else .ok raw

/-- Reads the text of a value. White space around numerals and filters is passed over; lists of
nodes, paths and other texts are taken as they are. -/
def parse [Patterns] : (k : Kind) → String → Except Invalid k.Value
  | filter, raw =>
    match LogFilter.parse (Text.trim raw) with
    | .ok _ => .ok raw
    | .error fault => .error (.filter fault)
  | text, raw => unblank raw
  | path, raw => do return Text.utf8 (← unblank raw)
  | port, raw => do return UInt16.ofNat (← numeral Numeral.Range.uint16 raw).toNat
  | number, raw => do return UInt64.ofNat (← numeral Numeral.Range.uint64 raw).toNat
  | positive, raw => do
    let n ← numeral Numeral.Range.uint64 raw
    if n = 0 then throw .notPositive else return UInt64.ofNat n.toNat
  | batch, raw => do
    let n ← numeral Numeral.Range.int64 raw
    if n ≤ 0 then throw .notPositive else return Int64.ofInt n
  | nodes, raw =>
    match Node.parseList raw with
    | .ok list => .ok list
    | .error fault => .error (.nodes fault raw)

/-- The text that shows a value. In a path, what is not UTF-8 is replaced. -/
def render : (k : Kind) → k.Value → String
  | filter, v => v
  | text, v => v
  | path, v => Text.ofUtf8Lossy v
  | port, v => Numeral.text v.toNat
  | number, v => Numeral.text v.toNat
  | positive, v => Numeral.text v.toNat
  | batch, v => Numeral.text v.toInt
  | nodes, v => Node.listText v

end Kind

/-- The name of a value of the configuration. -/
inductive Setting where
  | logLevel
  | logPath
  | serverHost
  | serverPort
  | transPort
  | serverId
  | nodes
  | heartbeatTimeOut
  | heartbeatTimeInterval
  | threads
  | dataPath
  | batchSize
deriving Repr, DecidableEq

namespace Setting

/-- All settings, in the order in which they are listed. -/
def all : List Setting :=
  [logLevel, logPath, serverHost, serverPort, transPort, serverId, nodes, heartbeatTimeOut,
    heartbeatTimeInterval, threads, dataPath, batchSize]

/-- The name under which a setting is read and written. -/
def name : Setting → String
  | logLevel => "log_level"
  | logPath => "log_path"
  | serverHost => "server_host"
  | serverPort => "server_port"
  | transPort => "trans_port"
  | serverId => "server_id"
  | nodes => "nodes"
  | heartbeatTimeOut => "heartbeat_time_out"
  | heartbeatTimeInterval => "heartbeat_time_interval"
  | threads => "threads"
  | dataPath => "data_path"
  | batchSize => "batch_size"

def ofName? (name : String) : Option Setting := all.find? (·.name == name)

/-- Whether a new value takes effect without a restart. -/
def isImmediate : Setting → Bool
  | logLevel => true
  | batchSize => true
  | _ => false

@[reducible] def kind : Setting → Kind
  | logLevel => .filter
  | logPath => .path
  | serverHost => .text
  | serverPort => .port
  | transPort => .port
  | serverId => .number
  | nodes => .nodes
  | heartbeatTimeOut => .number
  | heartbeatTimeInterval => .number
  | threads => .positive
  | dataPath => .path
  | batchSize => .batch

abbrev Value (s : Setting) : Type := s.kind.Value

end Setting
end IdService
