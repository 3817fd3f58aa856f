import IdService.Service
import IdService.Wire.Encoding
import IdService.Wire.RequestDecoder

/-!
# Connections

A connection reads requests from the bytes of a client and answers them in order. A protocol fault
gets a last error reply, for the bytes behind it cannot be read, and so does a crash; both close
this connection and nothing else.
-/

namespace IdService

open Wire

/-- The server's side of a connection. -/
structure Connection where
  decoder : RequestDecoder := {}
  closed : Bool := false
deriving Repr, DecidableEq

/-- What came of the bytes a connection has received: its replies in order, the connection, and the
service. -/
structure Exchange where
  replies : List Reply
  connection : Connection
  service : Service

namespace Connection

/-- The reply to a request under which the store or a reader has crashed. -/
def crashReply : Reply := .error "internal error"

/-- What a client is told of a fault. A stream that has ended inside a frame is told nothing. -/
def faultReplies (fault : Fault) : List Reply :=
  if fault.isProtocol then [.error fault.message] else []

section

variable [Patterns]

/-- Answers the requests that have arrived, `replies` being those so far, last first. `next` asks the
decoder, and `shrinks` says that a request takes bytes. -/
def answer (next : RequestDecoder → Outcome Request × RequestDecoder)
    (shrinks : ∀ d r d', next d = (.item r, d') → d'.buffer.length < d.buffer.length)
    (service : Service) (d : RequestDecoder) (replies : List Reply) : Exchange :=
  match _found : next d with
  | (.waiting, d) => ⟨replies.reverse, ⟨d, false⟩, service⟩
  | (.failed fault, d) => ⟨replies.reverse ++ faultReplies fault, ⟨d, true⟩, service⟩
  | (.item request, d) =>
    match service.handle request with
    | (.reply reply, service) => answer next shrinks service d (reply :: replies)
    | (.crash, service) => ⟨replies.reverse ++ [crashReply], ⟨d, true⟩, service⟩
termination_by d.buffer.length
decreasing_by exact shrinks _ _ _ _found

/-- Receives bytes. A closed connection takes no notice of them. -/
def receive (c : Connection) (service : Service) (chunk : Bytes) : Exchange :=
  if c.closed then ⟨[], c, service⟩
  else answer RequestDecoder.next (fun _ _ _ => RequestDecoder.length_next_lt) service
    (c.decoder.append chunk) []

/-- The client has ended its side: the decoder is asked once more, and the connection is closed. -/
def finish (c : Connection) (service : Service) : Exchange :=
  if c.closed then ⟨[], c, service⟩
  else
    let e := answer RequestDecoder.nextAtEnd (fun _ _ _ => RequestDecoder.length_nextAtEnd_lt)
      service c.decoder []
    { e with connection := { e.connection with closed := true } }

/-- Receives a stream of chunks to its end. -/
def serve (c : Connection) (service : Service) : List Bytes → Exchange
  | [] => c.finish service
  | chunk :: chunks =>
    let e := c.receive service chunk
    let later := e.connection.serve e.service chunks
    { later with replies := e.replies ++ later.replies }

end

end Connection

/-- The bytes an exchange writes. -/
def Exchange.written (e : Exchange) : Bytes := e.replies.flatMap Reply.encode

end IdService
