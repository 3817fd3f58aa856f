import IdService.Boot
import IdService.Connection
import IdService.Log.Plain

/-!
# The program

A server of one client: requests are read from standard input, replies are written to standard
output. The configuration comes from the command line and the environment, and what is issued is
forgotten at the end. Everything but reading and writing is done by the library.
-/

namespace IdService

def CommandLineFault.message : CommandLineFault → String
  | unknownArgument => "unknown argument"
  | invalidValue => "a value is missing"
  | valueValidation => "invalid value"
  | notUtf8 => "a value is not UTF-8"
  | argumentConflict => "an argument is given twice"
  | tooManyValues => "a value is given where none is taken"
  | displayHelp => "each setting is given as --name value"
  | displayVersion => "id service"

def BootFault.message : BootFault → String
  | start (.commandLine fault) => fault.message
  | start (.configuration fault) => fault.message
  | start .crash => "a log filter cannot be read"
  | counter fault => fault.message
  | crash => "a saved log filter cannot be read"

/-- Whether the user has asked for no more than a text. -/
def BootFault.isAnswer : BootFault → Bool
  | start (.commandLine .displayHelp) => true
  | start (.commandLine .displayVersion) => true
  | _ => false

/-- The variables of the environment that stand in for flags. -/
def readEnvironment : IO (String → Option Bytes) := do
  let found ← Flag.all.mapM fun f =>
    return (f.environmentName, (← IO.getEnv f.environmentName).map Text.utf8)
  return fun name => (found.lookup name).join

/-- Serves a client until its bytes end or its connection is closed. -/
partial def serveClient (input output : IO.FS.Stream) (c : Connection) (s : Service) : IO Unit := do
  let chunk ← input.read 65536
  if !chunk.isEmpty then
    let e := c.receive s chunk.toList
    output.write ⟨e.written.toArray⟩
    output.flush
    if !e.connection.closed then serveClient input output e.connection e.service

/-- Starts a service over an empty store and serves the client on standard input. -/
def run (words : List String) : IO UInt32 := do
  let environment ← readEnvironment
  match (Service.boot 1 (words.map Text.utf8) environment (.volatile {}) #[]).1 with
  | .error fault =>
    if fault.isAnswer then
      IO.println fault.message
      return 0
    else
      IO.eprintln fault.message
      return 2
  | .ok booted =>
    serveClient (← IO.getStdin) (← IO.getStdout) {} booted.service
    return 0

end IdService

def main (words : List String) : IO UInt32 := IdService.run words
