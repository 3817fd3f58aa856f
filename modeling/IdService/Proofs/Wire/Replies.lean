import IdService.Proofs.Wire.Element
import IdService.Proofs.Wire.Feed
import IdService.Wire.ReplyDecoder

/-! # Decoding replies

The terminator of a line decides all: once it has arrived, what is found stands whatever follows,
and until then the only fault is that of a line which should have ended.
-/

namespace IdService.Wire

/-! ## Scanning a reply -/

/-- What a scan found stands in front of `more`, as `again` says. -/
def ReplyScan.Stands (found again : ReplyScan) (more : Bytes) : Prop :=
  match found with
  | .incomplete => True
  | .reply r rest => again = .reply r (rest ++ more)
  | .refused fault => again = .refused fault

section Stands

variable {limits : Limits}

theorem scanBulkReply_stands (n : Int) (rest more : Bytes) :
    (scanBulkReply limits n rest).Stands (scanBulkReply limits n (rest ++ more)) more := by
  unfold scanBulkReply
  split
  · rfl
  · cases sized : bulkSize limits n with
    | error fault => rfl
    | ok size =>
        dsimp only
        split
        · rename_i a b after found
          have long := le_length_of_drop found
          rw [drop_append_of_cons found, List.cons_append, List.take_append_of_le_length long]
          by_cases terminator : a = Byte.cr ∧ b = Byte.lf
          · simp only [if_pos terminator]
            rfl
          · simp only [if_neg terminator]
            rfl
        · trivial

theorem scanBulkReply_of_payload {data : Bytes} (small : data.length ≤ limits.bulkBytes)
    (rest : Bytes) :
    scanBulkReply limits data.length (data ++ Bytes.crlf ++ rest) = .reply (.bulk data) rest := by
  have sized : bulkSize limits data.length = .ok data.length := bulkSize_eq_ok_iff.mpr ⟨rfl, small⟩
  have found : (data ++ Bytes.crlf ++ rest).drop data.length = Byte.cr :: Byte.lf :: rest := by
    rw [List.append_assoc, List.drop_left]
    rfl
  have taken : (data ++ Bytes.crlf ++ rest).take data.length = data := by
    rw [List.append_assoc, List.take_left]
  simp only [scanBulkReply, if_neg (by omega : ¬ (data.length : Int) = -1), sized, found, taken,
    and_self, if_true]

theorem scanReplyLine_stands (mark : UInt8) (line rest more : Bytes) :
    (scanReplyLine limits mark line rest).Stands (scanReplyLine limits mark line (rest ++ more))
      more := by
  unfold scanReplyLine
  split
  · rfl
  split
  · rfl
  split
  · split <;> rfl
  split
  · split
    · rfl
    · exact scanBulkReply_stands _ rest more
  · rfl

theorem scanReplyLine_status (line rest : Bytes) :
    scanReplyLine limits (Byte.ofAscii '+') line rest =
      .reply (.status (Text.ofUtf8Lossy line)) rest :=
  rfl

theorem scanReplyLine_error (line rest : Bytes) :
    scanReplyLine limits (Byte.ofAscii '-') line rest =
      .reply (.error (Text.ofUtf8Lossy line)) rest :=
  rfl

theorem scanReplyLine_integer {line : Bytes} {n : Int} (read : integer? line = some n)
    (rest : Bytes) :
    scanReplyLine limits (Byte.ofAscii ':') line rest = .reply (.integer (Int64.ofInt n)) rest := by
  unfold scanReplyLine
  rw [if_neg (by decide), if_neg (by decide), if_pos rfl, read]

theorem scanReplyLine_bulk {line : Bytes} {n : Int} (read : integer? line = some n)
    (rest : Bytes) :
    scanReplyLine limits (Byte.ofAscii '$') line rest = scanBulkReply limits n rest := by
  unfold scanReplyLine
  rw [if_neg (by decide), if_neg (by decide), if_neg (by decide), if_pos rfl, read]

theorem scanReply_of_line {mark : UInt8} {line : Bytes} (unbroken : crlfIndex? line = none)
    (rest : Bytes) :
    scanReply limits (mark :: line ++ Bytes.crlf ++ rest) =
      scanReplyLine limits mark line rest := by
  have ended := crlfIndex?_text unbroken rest
  have taken : (line ++ Bytes.crlf ++ rest).take line.length = line := by
    rw [List.append_assoc, List.take_left]
  have behind : (line ++ Bytes.crlf ++ rest).drop (line.length + 2) = rest := by
    have size : (line ++ Bytes.crlf).length = line.length + 2 := by simp [Bytes.crlf]
    rw [← size, List.drop_left]
  simp only [scanReply, List.cons_append, ended, taken, behind]

private theorem scanReplyLine_ne_tooLong {mark : UInt8} {line rest : Bytes} :
    scanReplyLine limits mark line rest ≠ .refused .replyLineTooLong := by
  have payload : ∀ n, scanBulkReply limits n rest ≠ .refused .replyLineTooLong := by
    intro n
    unfold scanBulkReply
    split
    · simp
    · cases sized : bulkSize limits n with
      | error fault => simp [bulkSize_error sized]
      | ok size =>
          dsimp only
          repeat' split
          all_goals simp
  unfold scanReplyLine
  repeat' split
  all_goals first
    | exact payload _
    | simp

theorem scanReply_tooLong {buffer : Bytes}
    (refused : scanReply limits buffer = .refused .replyLineTooLong) :
    crlfIndex? buffer.tail = none ∧ limits.lineBytes < buffer.length := by
  cases buffer with
  | nil => cases refused
  | cons mark tail =>
      cases ended : crlfIndex? tail with
      | none =>
          simp only [scanReply, ended] at refused
          split at refused
          · rename_i long
            exact ⟨ended, long⟩
          · cases refused
      | some i =>
          simp only [scanReply, ended] at refused
          exact absurd refused scanReplyLine_ne_tooLong

theorem scanReply_stands (buffer more : Bytes)
    (ended : scanReply limits buffer ≠ .refused .replyLineTooLong) :
    (scanReply limits buffer).Stands (scanReply limits (buffer ++ more)) more := by
  cases buffer with
  | nil => trivial
  | cons mark tail =>
      cases found : crlfIndex? tail with
      | none =>
          simp only [scanReply, found] at ended ⊢
          split
          · rename_i long
            exact absurd (if_pos long) ended
          · trivial
      | some i =>
          obtain ⟨line, rest, form, width⟩ := split_of_crlfIndex? found
          have within : i + 2 ≤ tail.length := by
            rw [form, ← width]
            simp [Bytes.crlf]
          simp only [scanReply, List.cons_append, found, crlfIndex?_append found more]
          rw [List.take_append_of_le_length (by omega), List.drop_append_of_le_length within]
          exact scanReplyLine_stands ..

end Stands

/-! ## The decoder -/

namespace ReplyDecoder

variable {d : ReplyDecoder}

theorem next_of_incomplete (found : scanReply d.limits d.buffer = .incomplete) :
    d.next = (.waiting, d) := by
  simp only [next, found]

theorem next_of_refused {fault : Fault} (found : scanReply d.limits d.buffer = .refused fault) :
    d.next = (.failed fault, d) := by
  simp only [next, found]

theorem next_of_reply {r : Reply} {rest : Bytes}
    (found : scanReply d.limits d.buffer = .reply r rest) :
    d.next = (.item r, { d with buffer := rest }) := by
  simp only [next, found]

theorem refused_of_next {fault : Fault} (failed : d.next.1 = .failed fault) :
    scanReply d.limits d.buffer = .refused fault := by
  unfold next at failed
  split at failed <;> cases failed
  assumption

theorem next_append (d : ReplyDecoder) (more : Bytes) :
    match d.next with
    | (.item r, d') => (d.append more).next = (.item r, d'.append more)
    | (.waiting, d') => d' = d
    | (.failed fault, _) => fault ≠ .replyLineTooLong →
      (d.append more).next = (.failed fault, d.append more) := by
  have stands := @scanReply_stands d.limits d.buffer more
  cases found : scanReply d.limits d.buffer with
  | incomplete =>
      rw [next_of_incomplete found]
  | refused fault =>
      rw [next_of_refused found]
      rw [found] at stands
      intro ended
      exact next_of_refused (stands (by simpa using ended))
  | reply r rest =>
      rw [next_of_reply found]
      rw [found] at stands
      exact next_of_reply (stands (by simp))

theorem resumes : Resumes next append (fun _ => True) .replyLineTooLong where
  append_nil d := by simp [append]
  append_append d bs more := by simp [append]
  valid_append _ _ := trivial
  valid_next _ := trivial
  item {d a d'} _ found more := by simpa only [found] using next_append d more
  waiting {d d'} _ found more := by
    have same : d' = d := by simpa only [found] using next_append d more
    rw [same]
  failed {d fault d'} _ found ended more := by
    have stands := next_append d more
    simp only [found] at stands
    exact ⟨_, stands ended⟩

theorem feed_eq_drain (d : ReplyDecoder) (chunk : Bytes) : d.feed chunk =
    Wire.drain next (·.buffer.length) (fun _ _ _ => length_next_lt) (d.append chunk) [] := rfl

end ReplyDecoder
end IdService.Wire
