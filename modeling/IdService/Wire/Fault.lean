import IdService.Bytes
import IdService.Numeral

/-!
# Wire faults

The ways in which received bytes break the wire format. All but the last are protocol faults: the
stream is no longer aligned on a frame, so nothing behind the fault can be read.
-/

namespace IdService.Wire

inductive Fault where
  /-- A length line has no terminator within the bytes such a line may take. -/
  | lengthLineTooLong
  /-- The text of a length line is no numeral. -/
  | invalidLength
  /-- A request announces more elements than allowed. -/
  | arrayLength (announced : Int)
  /-- A bulk string announces a negative length, or more bytes than allowed. -/
  | bulkLength (announced : Int)
  /-- An element of a request does not start with a dollar sign. -/
  | elementMark (found : UInt8)
  /-- The announced bytes of a request's element are not followed by a terminator. -/
  | bulkTerminator
  /-- A request line is longer than allowed. -/
  | inlineTooLong
  /-- A reply has no terminator within the bytes its line may take. -/
  | replyLineTooLong
  /-- The text of an integer reply is no numeral. -/
  | integerReply
  /-- The length of a bulk reply is no numeral. -/
  | replyBulkLength
  /-- The announced bytes of a bulk reply are not followed by a terminator. -/
  | replyBulkTerminator
  /-- A reply starts with a byte that marks no kind of reply. -/
  | replyMark (found : UInt8)
  /-- The stream has ended inside a frame. -/
  | unfinished
deriving Repr, DecidableEq

namespace Fault

/-- Whether the peer broke the format, as opposed to the stream ending early. -/
def isProtocol : Fault → Bool
  | unfinished => false
  | _ => true

/-- What is wrong, without saying in which layer. -/
def reason : Fault → String
  | lengthLineTooLong => "length line too long"
  | invalidLength => "invalid length"
  | arrayLength n => "invalid multibulk length " ++ Numeral.text n
  | bulkLength n => "invalid bulk length " ++ Numeral.text n
  | elementMark b => "expected '$', got '" ++ String.ofList (Byte.escaped b) ++ "'"
  | bulkTerminator => "bulk string is not terminated by CRLF"
  | inlineTooLong => "too big inline request"
  | replyLineTooLong => "reply line too long"
  | integerReply => "invalid integer reply"
  | replyBulkLength => "invalid bulk length"
  | replyBulkTerminator => "bulk reply is not terminated by CRLF"
  | replyMark b => "unsupported reply type '" ++ String.ofList (Byte.escaped b) ++ "'"
  | unfinished => "bytes remaining on stream"

/-- The full text of a fault. -/
def message (f : Fault) : String :=
  (if f.isProtocol then "Protocol error: " else "I/O error: ") ++ f.reason

end Fault
end IdService.Wire
