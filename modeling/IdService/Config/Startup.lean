import IdService.Config.CommandLine
import IdService.Config.Configuration

/-!
# From the command line to a configuration

The checks that the values of a command line must pass, in their order.
-/

namespace IdService

/-- Why the values of a command line make no configuration. -/
inductive LaunchFault where
  | batchSize
  | threads
  | logLevel (text : String) (fault : LogFilter.Fault)
  | nodes (text : String) (fault : Json.Fault)
deriving Repr, DecidableEq

def LaunchFault.message : LaunchFault → String
  | batchSize => "BATCH_SIZE must be greater than 0"
  | threads => "THREADS must be greater than 0"
  | logLevel text fault => "LOG_LEVEL `" ++ text ++ "` is not a valid filter: " ++ fault.message
  | nodes text fault => "NODES: " ++ fault.message (Text.utf8 text)

def LaunchFault.isCrash : LaunchFault → Bool
  | logLevel _ fault => fault.isCrash
  | _ => false

inductive StartFault where
  | commandLine (fault : CommandLineFault)
  | configuration (fault : LaunchFault)
  | crash
deriving Repr, DecidableEq

/-- The value of a setting at the start, once the nodes have been read. -/
def Launch.settingValue (l : Launch) (nodes : List Node) : (s : Setting) → s.Value
  | .logLevel => l.value (.setting .logLevel)
  | .logPath => l.value (.setting .logPath)
  | .serverHost => l.value (.setting .serverHost)
  | .serverPort => l.value (.setting .serverPort)
  | .transPort => l.value (.setting .transPort)
  | .serverId => l.value (.setting .serverId)
  | .nodes => nodes
  | .heartbeatTimeOut => l.value (.setting .heartbeatTimeOut)
  | .heartbeatTimeInterval => l.value (.setting .heartbeatTimeInterval)
  | .threads => l.value (.setting .threads)
  | .dataPath => l.value (.setting .dataPath)
  | .batchSize => l.value (.setting .batchSize)

namespace Configuration

variable [Patterns]

/-- The configuration of the values of a command line. The log filter is read with the white space
around it. -/
def ofLaunch (l : Launch) : Except LaunchFault Configuration := do
  let batchSize : Int64 := l.value (.setting .batchSize)
  if batchSize ≤ 0 then throw .batchSize
  let threads : UInt64 := l.value (.setting .threads)
  if threads = 0 then throw .threads
  let filter : String := l.value (.setting .logLevel)
  if let .error fault := LogFilter.parse filter then throw (.logLevel filter fault)
  let text : String := l.value (.setting .nodes)
  match Node.parseList text with
  | .error fault => throw (.nodes text fault)
  | .ok nodes =>
    return {
      value := l.settingValue nodes
      written := fun _ => none
      shutdownTimeout := l.value .shutdownTimeout }

/-- The configuration of a command line and an environment. -/
def start (processors : UInt64) (words : List Bytes) (environment : String → Option Bytes) :
    Except StartFault Configuration :=
  match Launch.read processors words environment with
  | .error fault => .error (.commandLine fault)
  | .ok launch =>
    match ofLaunch launch with
    | .error fault => .error (if fault.isCrash then .crash else .configuration fault)
    | .ok c => .ok c

end Configuration
end IdService
