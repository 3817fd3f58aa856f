import IdService.Text.Utf8
import IdService.Wire.Feed
import IdService.Wire.Line
import IdService.Wire.Reply

/-!
# Decoding replies

A reply is a mark, a line and, for a bulk string, the announced bytes. The mark is looked at only
when the line is complete.
-/

namespace IdService.Wire

/-- What a reader finds at the front of a buffer of replies, with the bytes that follow. -/
inductive ReplyScan where
  | incomplete
  | reply (r : Reply) (rest : Bytes)
  | refused (fault : Fault)
deriving Repr, DecidableEq

/-- Scans the payload of a bulk string of an announced length. -/
def scanBulkReply (limits : Limits) (announced : Int) (rest : Bytes) : ReplyScan :=
  if announced = -1 then .reply .nil rest
  else match bulkSize limits announced with
    | .error fault => .refused fault
    | .ok size =>
      match rest.drop size with
      | a :: b :: after =>
        if a = Byte.cr ∧ b = Byte.lf then .reply (.bulk (rest.take size)) after
        else .refused .replyBulkTerminator
      | _ => .incomplete

/-- Scans the reply that starts with `mark` and goes on with `line`; `rest` follows the line's
terminator. -/
def scanReplyLine (limits : Limits) (mark : UInt8) (line rest : Bytes) : ReplyScan :=
  if mark = Byte.ofAscii '+' then .reply (.status (Text.ofUtf8Lossy line)) rest
  else if mark = Byte.ofAscii '-' then .reply (.error (Text.ofUtf8Lossy line)) rest
  else if mark = Byte.ofAscii ':' then
    match integer? line with
    | none => .refused .integerReply
    | some n => .reply (.integer (Int64.ofInt n)) rest
  else if mark = Byte.ofAscii '$' then
    match integer? line with
    | none => .refused .replyBulkLength
    | some n => scanBulkReply limits n rest
  else .refused (.replyMark mark)

/-- Scans the front of a buffer. -/
def scanReply (limits : Limits) : Bytes → ReplyScan
  | [] => .incomplete
  | mark :: tail =>
    match crlfIndex? tail with
    | none => if limits.lineBytes < tail.length + 1 then .refused .replyLineTooLong else .incomplete
    | some i => scanReplyLine limits mark (tail.take i) (tail.drop (i + 2))

/-- The payload of a bulk reply leaves no more bytes than it found. -/
theorem scanBulkReply_length_le {limits : Limits} {announced : Int} {rest rest' : Bytes}
    {r : Reply} (h : scanBulkReply limits announced rest = .reply r rest') :
    rest'.length ≤ rest.length := by
  unfold scanBulkReply at h
  split at h
  · simp only [ReplyScan.reply.injEq] at h
    simp [h.2]
  · split at h
    · simp at h
    · rename_i size _
      split at h
      · rename_i a b after cut
        split at h
        · simp only [ReplyScan.reply.injEq] at h
          have := congrArg List.length cut
          simp only [List.length_drop, List.length_cons] at this
          rw [← h.2]
          omega
        · simp at h
      · simp at h

/-- What follows the line of a reply leaves no more bytes than it found. -/
theorem scanReplyLine_length_le {limits : Limits} {mark : UInt8} {line rest rest' : Bytes}
    {r : Reply} (h : scanReplyLine limits mark line rest = .reply r rest') :
    rest'.length ≤ rest.length := by
  unfold scanReplyLine at h
  repeat' split at h
  all_goals first
    | exact scanBulkReply_length_le h
    | simp at h; done
    | (simp only [ReplyScan.reply.injEq] at h; simp [h.2])

/-- A reply takes at least one byte. -/
theorem scanReply_length_lt {limits : Limits} {buffer rest : Bytes} {r : Reply}
    (h : scanReply limits buffer = .reply r rest) : rest.length < buffer.length := by
  unfold scanReply at h
  split at h
  · simp at h
  · split at h
    · split at h <;> simp at h
    · have := scanReplyLine_length_le h
      simp only [List.length_drop] at this
      simp only [List.length_cons]
      omega

/-- A reply decoder: its limits and the bytes not taken yet. -/
structure ReplyDecoder where
  limits : Limits := {}
  buffer : Bytes := []
deriving Repr, DecidableEq

namespace ReplyDecoder

/-- The next reply. A fault takes nothing. -/
def next (d : ReplyDecoder) : Outcome Reply × ReplyDecoder :=
  match scanReply d.limits d.buffer with
  | .incomplete => (.waiting, d)
  | .refused fault => (.failed fault, d)
  | .reply r rest => (.item r, { d with buffer := rest })

/-- A reply shortens the buffer. -/
theorem length_next_lt {d d' : ReplyDecoder} {r : Reply} (h : d.next = (.item r, d')) :
    d'.buffer.length < d.buffer.length := by
  unfold next at h
  split at h <;> simp only [Prod.mk.injEq, reduceCtorEq, false_and] at h
  rename_i found
  exact h.2 ▸ scanReply_length_lt found

/-- The decoder with more bytes received. -/
def append (d : ReplyDecoder) (chunk : Bytes) : ReplyDecoder :=
  { d with buffer := d.buffer ++ chunk }

/-- All replies that can be read now. -/
def drain (d : ReplyDecoder) : Drained ReplyDecoder Reply :=
  Wire.drain next (·.buffer.length) (fun _ _ _ => length_next_lt) d []

/-- The next reply once the stream has ended. -/
def nextAtEnd (d : ReplyDecoder) : Outcome Reply × ReplyDecoder :=
  let (outcome, d') := d.next
  (outcome.atEnd d'.buffer.isEmpty, d')

/-- A reply read at the end of the stream shortens the buffer, too. -/
theorem length_nextAtEnd_lt {d d' : ReplyDecoder} {r : Reply}
    (h : d.nextAtEnd = (.item r, d')) : d'.buffer.length < d.buffer.length := by
  simp only [nextAtEnd, Prod.mk.injEq, Outcome.atEnd_eq_item] at h
  exact length_next_lt (Prod.ext h.1 h.2)

/-- All replies that can be read once the stream has ended. -/
def drainAtEnd (d : ReplyDecoder) : Drained ReplyDecoder Reply :=
  Wire.drain nextAtEnd (·.buffer.length) (fun _ _ _ => length_nextAtEnd_lt) d []

/-- Receives a chunk of bytes and reads what can be read. -/
def feed (d : ReplyDecoder) (chunk : Bytes) : Drained ReplyDecoder Reply :=
  (d.append chunk).drain

end ReplyDecoder
end IdService.Wire
