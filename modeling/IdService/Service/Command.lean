import IdService.Settings
import IdService.Wire.Line
import IdService.Wire.Reply
import IdService.Wire.Request

/-!
# Commands

What is common to the commands of the service: their faults, and how their arguments are read.
-/

namespace IdService

open Wire

inductive CommandFault where
  | notEnoughArguments (command : String)
  | emptyKey
  | notUtf8
  | notInteger
  | notSupported
  | setting (fault : WriteFault)
  | counter (fault : CounterFault)
deriving Repr, DecidableEq

def CommandFault.message : CommandFault → String
  | notEnoughArguments command => "not enough arguments for '" ++ command ++ "'"
  | emptyKey => "key is empty"
  | notUtf8 => "argument is not valid UTF-8"
  | notInteger => "value is not an integer or out of range"
  | notSupported => "method not supported"
  | setting fault => fault.message
  | counter fault => fault.message

/-- Why a command ends without a reply of its own. -/
inductive CommandHalt where
  | fault (fault : CommandFault)
  | crash
deriving Repr, DecidableEq

/-- The end of an operation on counters as the end of a command. -/
def CommandHalt.ofHalt : Halt → CommandHalt
  | .fault reason => .fault (.counter reason)
  | .crash => .crash

/-- The end of a write to a setting as the end of a command. -/
def CommandHalt.ofWriteFault (fault : WriteFault) : CommandHalt :=
  if fault.isCrash then .crash else .fault (.setting fault)

namespace Command

def notEnough (r : Request) : CommandFault :=
  .notEnoughArguments (r.name.map Char.toLower)

/-- The key that an argument holds. -/
def key (raw : Bytes) : Except CommandFault String :=
  match Text.ofUtf8? raw with
  | none => .error .notUtf8
  | some key => if key.isEmpty then .error .emptyKey else .ok key

/-- The key in the first argument. -/
def firstKey (r : Request) : Except CommandFault String :=
  match r.args with
  | [] => .error (notEnough r)
  | raw :: _ => key raw

/-- The name of a setting that a key stands for, behind the prefix of settings. -/
def settingName? (key : String) : Option String :=
  match key.toList with
  | 'c' :: 'f' :: 'g' :: '.' :: name => some (String.ofList name)
  | _ => none

/-- How many of the keys in some arguments are registered, repeated ones counted again. -/
def countRegistered (registry : Registry) (count : Nat) : List Bytes → Except CommandFault Nat
  | [] => .ok count
  | raw :: rest => do
    let key ← key raw
    countRegistered registry (if registry.contains key then count + 1 else count) rest

/-- Deletes the keys in some arguments one by one and counts those that were registered. A key
stays registered until its counter is gone, so that deleting it can be tried again. -/
def deleteKeys (s : Issuer) (count : Nat) : List Bytes → Except CommandHalt Nat × Issuer
  | [] => (.ok count, s)
  | raw :: rest =>
    match key raw with
    | .error fault => (.error (.fault fault), s)
    | .ok key =>
      match s.find? key with
      | none => deleteKeys s count rest
      | some (_, a) =>
        match s.retire a with
        | (.error halt, s) => (.error (.ofHalt halt), s)
        | (.ok (), s) =>
          let store := s.store.removeKnown key
          deleteKeys { s with store, registry := s.registry.remove key } (count + 1) rest

/-- Registers a key, makes it known and moves its counter to `value`. -/
def moveKey (s : Issuer) (key : String) (value : Int64) : Except CommandHalt Unit × Issuer :=
  match s.obtain key with
  | (.error fault, s) => (.error (.fault (.counter fault)), s)
  | (.ok (number, a), s) =>
    match ({ s with store := s.store.addKnown key } : Issuer).moveTo number a value false with
    | (.error halt, s) => (.error (.ofHalt halt), s)
    | (.ok (), s) => (.ok (), s)

end Command
end IdService
