import IdService.Connection
import IdService.Wire.ReplyDecoder

/-!
# The server

A service and the connections to it. Connections are opened while the server listens and its host
has a network; those that are open are served on after it has stopped listening.
-/

namespace IdService

open Wire

/-- Whether clients can reach the host of a server at all. -/
inductive Network where
  | loopback
  | unreachable
deriving Repr, DecidableEq

inductive ConnectFault where
  | refused
  | unreachable
deriving Repr, DecidableEq

def ConnectFault.message : ConnectFault → String
  | refused => "Connection refused (os error 111)"
  | unreachable => "Network is unreachable (os error 101)"

/-- Both sides of a connection: the server's, and the replies on their way to the client. -/
structure Link where
  connection : Connection := {}
  client : ReplyDecoder := {}
deriving Repr, DecidableEq

structure Server where
  service : Service
  network : Network
  listening : Bool := true
  links : Table String Link := {}

namespace Server

/-- The connection of a name, which is opened if there is none. -/
def connect (s : Server) (name : String) : Except ConnectFault Link :=
  match s.links.get? name, s.network with
  | some link, _ => .ok link
  | none, .unreachable => .error .unreachable
  | none, .loopback => if s.listening then .ok {} else .error .refused

/-- Sends bytes over a connection; the replies are on their way at once. -/
def send [Patterns] (s : Server) (name : String) (link : Link) (bytes : Bytes) : Link × Server :=
  let e := link.connection.receive s.service bytes
  let link := { connection := e.connection, client := link.client.append e.written }
  (link, { s with service := e.service, links := s.links.insert name link })

/-- Takes up to `limit` replies that have arrived, in order. -/
def takeReplies : (limit : Nat) → ReplyDecoder → List Reply × ReplyDecoder
  | 0, d => ([], d)
  | limit + 1, d =>
    match d.next with
    | (.item r, d) =>
      let (more, d) := takeReplies limit d
      (r :: more, d)
    | (_, d) => ([], d)

/-- Reads up to `limit` replies. The flag says that the server's end was met before that many. -/
def read (s : Server) (name : String) (link : Link) (limit : Nat) :
    (List Reply × Bool) × Server :=
  let (replies, client) := takeReplies limit link.client
  let closed := replies.length < limit && link.connection.closed
  ((replies, closed), { s with links := s.links.insert name { link with client } })

/-- Ends the client's side of a connection and reads what is left. -/
def finish (s : Server) (name : String) (link : Link) : List Reply × Server :=
  (link.client.drain.items, { s with links := s.links.erase name })

def stop (s : Server) : Server := { s with listening := false }

/-- Whether a server that has stopped listening is done: no connection is open, or those that are
get no time to finish. -/
def isDone (s : Server) : Bool :=
  s.links.entries.all (·.2.connection.closed) || s.service.settings.config.shutdownTimeout == 0

end Server
end IdService
