import IdService.Proofs.Wire.Line
import IdService.Wire.Request

/-! # The grammar of requests

What a stream of requests is made of, said without a decoder: frames that carry a command, either an
array of bulk strings or a line of words, and frames that carry none and are passed over. A length
line stands in front of an array and in front of each of its elements; it should be short.
-/

namespace IdService.Wire

/-- The words of a line: its longest runs of bytes that are no white space. -/
def words (line : Bytes) : List Bytes := (line.splitOnP Byte.isSpace).filter (!·.isEmpty)

/-- Bulk strings one behind the other, and their payloads. -/
inductive Elements (limits : Limits) : List Bytes → Bytes → Prop where
  | nil : Elements limits [] []
  | cons {line payload more : Bytes} {payloads : List Bytes}
      (announced : Announces '$' payload.length line) (small : payload.length ≤ limits.bulkBytes)
      (others : Elements limits payloads more) :
      Elements limits (payload :: payloads) (line ++ payload ++ Bytes.crlf ++ more)

/-- A frame that carries a command, and its parts. -/
inductive CommandFrame (limits : Limits) : List Bytes → Bytes → Prop where
  | array {line elements : Bytes} {parts : List Bytes} (announced : Announces '*' parts.length line)
      (positive : 1 ≤ parts.length) (few : parts.length ≤ limits.elements)
      (bulks : Elements limits parts elements) : CommandFrame limits parts (line ++ elements)
  | line {line : Bytes} (mark : line.head? ≠ some (Byte.ofAscii '*')) (ends : Byte.lf ∉ line)
      (short : line.length ≤ limits.lineBytes) (word : ∃ b ∈ line, ¬ Byte.isSpace b) :
      CommandFrame limits (words line) (line ++ [Byte.lf])

/-- A frame without a command. -/
inductive Skippable (limits : Limits) : Bytes → Prop where
  | array {line : Bytes} {n : Int} (announced : Announces '*' n line) (empty : n ≤ 0) :
      Skippable limits line
  | line {line : Bytes} (ends : Byte.lf ∉ line) (short : line.length ≤ limits.lineBytes)
      (blank : ∀ b ∈ line, Byte.isSpace b) : Skippable limits (line ++ [Byte.lf])

/-- Frames one behind the other, and the requests that they carry. -/
inductive Frames (limits : Limits) : List Request → Bytes → Prop where
  | nil : Frames limits [] []
  | skip {frame more : Bytes} {requests : List Request} (skippable : Skippable limits frame)
      (others : Frames limits requests more) : Frames limits requests (frame ++ more)
  | command {frame more : Bytes} {request : Request} {requests : List Request}
      (command : CommandFrame limits request.parts frame) (others : Frames limits requests more) :
      Frames limits (request :: requests) (frame ++ more)

/-- The bytes of a frame in front of one of its length lines, and the mark of that line. -/
inductive BeforeLine (limits : Limits) : Bytes → Char → Prop where
  | array : BeforeLine limits [] '*'
  | element {count : Nat} {line elements : Bytes} {payloads : List Bytes}
      (announced : Announces '*' count line) (few : count ≤ limits.elements)
      (bulks : Elements limits payloads elements) (lacks : payloads.length < count) :
      BeforeLine limits (line ++ elements) '$'

/-- A length line that goes on for more bytes than may wait, and has not ended. -/
structure Overlong (mark : Char) (line : Bytes) : Prop where
  mark : line.head? = some (Byte.ofAscii mark)
  unended : crlfIndex? line.tail = none
  long : lengthLineBytes < line.length

end IdService.Wire
