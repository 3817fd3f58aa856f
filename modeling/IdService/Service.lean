import IdService.Service.Command

/-!
# The service

The state of a running server, and what each command does to it. A command that is refused becomes
an error reply.
-/

namespace IdService

open Wire

structure Service where
  issuer : Issuer
  settings : Settings

/-- What a request comes to. -/
inductive Answer where
  | reply (r : Reply)
  | crash
deriving Repr, DecidableEq

namespace Service

/-- The text of a setting as a reply. -/
def settingReply (s : Service) (name : String) : Reply :=
  match s.settings.text? name with
  | some text => .bulk (Text.utf8 text)
  | none => .nil

/-- The next identifier of a key, or the text of a setting. -/
def get (s : Service) (r : Request) : Except CommandHalt Reply × Service :=
  match Command.firstKey r with
  | .error fault => (.error (.fault fault), s)
  | .ok key =>
    match Command.settingName? key with
    | some name => (.ok (s.settingReply name), s)
    | none =>
      match s.issuer.find? key with
      | none => (.ok .nil, s)
      | some (number, a) =>
        match s.issuer.issueNext number a with
        | (.error halt, issuer) => (.error (.ofHalt halt), { s with issuer })
        | (.ok id, issuer) =>
          (.ok (.bulk ((Numeral.write id.toInt).map Byte.ofAscii)), { s with issuer })

section

variable [Patterns]

def writeSetting (s : Service) (effect : LiveEffect) (name raw : String) :
    Except WriteFault Setting × Service :=
  let (result, settings, store, registry) :=
    s.settings.write effect s.issuer.store s.issuer.registry name raw
  (result, { issuer := { s.issuer with store, registry }, settings })

/-- Registers a key and moves its counter, or writes a setting. -/
def set (s : Service) (r : Request) : Except CommandHalt Reply × Service :=
  match Command.firstKey r with
  | .error fault => (.error (.fault fault), s)
  | .ok key =>
    match r.arg? 1 with
    | none => (.error (.fault (Command.notEnough r)), s)
    | some raw =>
      match Command.settingName? key with
      | some name =>
        match Text.ofUtf8? raw with
        | none => (.error (.fault .notUtf8), s)
        | some text =>
          match s.writeSetting .batchSize name text with
          | (.error fault, s) => (.error (.ofWriteFault fault), s)
          | (.ok _, s) => (.ok .ok, s)
      | none =>
        match integer? raw with
        | none => (.error (.fault .notInteger), s)
        | some value =>
          match Command.moveKey s.issuer key (Int64.ofInt value) with
          | (.error halt, issuer) => (.error halt, { s with issuer })
          | (.ok (), issuer) => (.ok .ok, { s with issuer })

end

def exist (s : Service) (r : Request) : Except CommandHalt Reply × Service :=
  match r.args with
  | [] => (.error (.fault (Command.notEnough r)), s)
  | args =>
    match Command.countRegistered s.issuer.registry 0 args with
    | .error fault => (.error (.fault fault), s)
    | .ok count => (.ok (.integer (Int64.ofNat count)), s)

def del (s : Service) (r : Request) : Except CommandHalt Reply × Service :=
  match r.args with
  | [] => (.error (.fault (Command.notEnough r)), s)
  | args =>
    match Command.deleteKeys s.issuer 0 args with
    | (.error halt, issuer) => (.error halt, { s with issuer })
    | (.ok count, issuer) => (.ok (.integer (Int64.ofNat count)), { s with issuer })

/-- Accepts any index that is not empty. -/
def select (r : Request) : Except CommandHalt Reply :=
  match r.args with
  | (_ :: _) :: _ => .ok .ok
  | _ => .error (.fault (Command.notEnough r))

/-- Gives the first argument back. -/
def ping (r : Request) : Reply :=
  match r.args with
  | message :: _ => .bulk message
  | [] => .status "PONG"

section

variable [Patterns]

def perform (s : Service) (r : Request) : Except CommandHalt Reply × Service :=
  match r.name with
  | "GET" => s.get r
  | "SET" => s.set r
  | "EXISTS" => s.exist r
  | "DEL" => s.del r
  | "SELECT" => (select r, s)
  | "PING" => (.ok (ping r), s)
  | _ => (.error (.fault .notSupported), s)

/-- Executes a request and answers it; a refusal is an error reply. -/
def handle (s : Service) (r : Request) : Answer × Service :=
  match s.perform r with
  | (.ok reply, s) => (.reply reply, s)
  | (.error (.fault fault), s) => (.reply (.error fault.message), s)
  | (.error .crash, s) => (.crash, s)

end

end Service
end IdService
