import IdService.Proofs.Counter
import IdService.Proofs.Wire.Encoding
import IdService.Proofs.Wire.Replies

/-! # Replies survive the wire

Every reply is encoded as a mark, a line and perhaps a payload. The line holds no CR and is short
enough, so it ends where it should and is never refused while it arrives. No text can say otherwise:
its line breaks are gone before it is written.
-/

namespace IdService.Wire

namespace Reply

/-- A reply as its reader sees it: a text that is on one line. -/
def unbroken : Reply → Reply
  | .status text => .status (text.map Wire.unbroken)
  | .error text => .error (text.map Wire.unbroken)
  | reply => reply

/-- A reply that a reader with these limits accepts. Two bytes of a line are its mark and its CR. -/
def Fits (limits : Limits) : Reply → Prop
  | .status text | .error text => (Text.utf8 text).length ≤ limits.lineBytes - 2
  | .bulk data => data.length ≤ limits.bulkBytes
  | .integer _ | .nil => True

instance (limits : Limits) : (r : Reply) → Decidable (r.Fits limits)
  | .status text | .error text =>
    inferInstanceAs (Decidable ((Text.utf8 text).length ≤ limits.lineBytes - 2))
  | .bulk data => inferInstanceAs (Decidable (data.length ≤ limits.bulkBytes))
  | .integer _ | .nil => inferInstanceAs (Decidable True)

end Reply

/-! ## The frame of a reply -/

/-- A line behind a mark, and perhaps a payload, in which a reader finds a reply. -/
inductive ReplyFrame (limits : Limits) (r : Reply) : Bytes → Prop where
  | line {mark : UInt8} {line payload : Bytes} (plain : Byte.cr ∉ line)
      (short : line.length + 2 ≤ limits.lineBytes)
      (found : ∀ rest, scanReplyLine limits mark line (payload ++ rest) = .reply r rest) :
      ReplyFrame limits r (mark :: line ++ Bytes.crlf ++ payload)

namespace ReplyFrame

variable {limits : Limits} {r : Reply} {bytes : Bytes}

theorem scan (frame : ReplyFrame limits r bytes) (rest : Bytes) :
    scanReply limits (bytes ++ rest) = .reply r rest := by
  obtain ⟨plain, -, found⟩ := frame
  rw [List.append_assoc, scanReply_of_line (crlfIndex?_of_plain plain), found]

theorem in_time (frame : ReplyFrame limits r bytes) {early : Bytes} (part : early <+: bytes) :
    scanReply limits early ≠ .refused .replyLineTooLong := by
  obtain ⟨plain, short, -⟩ := frame
  obtain ⟨later, form⟩ := part
  intro refused
  obtain ⟨unended, long⟩ := scanReply_tooLong refused
  cases early with
  | nil => exact absurd long (Nat.not_lt_zero _)
  | cons mark tail =>
      have arrived := length_lt_of_open plain (List.cons.inj form).2 unended
      simp only [List.length_cons] at long
      omega

end ReplyFrame

private theorem textFrame {limits : Limits} {mark : Char} {text : String} {r : Reply}
    (short : (Text.utf8 text).length ≤ limits.lineBytes - 2) (line : 2 ≤ limits.lineBytes)
    (found : ∀ rest, scanReplyLine limits (Byte.ofAscii mark) (Text.utf8 (text.map unbroken)) rest =
      .reply r rest) :
    ReplyFrame limits r (textLine mark text) := by
  have size : (oneLine text).length = (Text.utf8 text).length := List.length_map _
  have frame : ReplyFrame limits r (Byte.ofAscii mark :: oneLine text ++ Bytes.crlf ++ []) :=
    .line (cr_not_mem_oneLine text) (by omega) fun rest => by
      rw [oneLine_eq_utf8, List.nil_append, found]
  rwa [List.append_nil] at frame

private theorem headerFrame {limits : Limits} {mark : Char} {n : Int} {payload : Bytes} {r : Reply}
    (within : Numeral.Range.int64.Contains n) (line : 25 ≤ limits.lineBytes)
    (found : ∀ text, integer? text = some n → ∀ rest,
      scanReplyLine limits (Byte.ofAscii mark) text (payload ++ rest) = .reply r rest) :
    ReplyFrame limits r (header mark n ++ payload) := by
  obtain ⟨text, numeral, form⟩ := header_announces mark within
  have short := header_length_le mark within
  rw [form] at short ⊢
  refine .line numeral.cr_not_mem ?_ (found text numeral.integer?)
  simp only [Bytes.crlf, List.length_append, List.length_cons] at short
  omega

theorem Reply.Fits.frame {limits : Limits} {r : Reply} (fits : r.Fits limits)
    (line : 25 ≤ limits.lineBytes) (bulk : Numeral.Range.int64.Contains limits.bulkBytes) :
    ReplyFrame limits r.unbroken r.encode := by
  cases r with
  | status text =>
      refine textFrame fits (by omega) fun rest => ?_
      rw [scanReplyLine_status, Text.ofUtf8Lossy_utf8, unbroken]
  | error text =>
      refine textFrame fits (by omega) fun rest => ?_
      rw [scanReplyLine_error, Text.ofUtf8Lossy_utf8, unbroken]
  | integer n =>
      have frame := @headerFrame limits ':' n.toInt [] (.integer n) (Counter.contains_toInt n) line
        fun text read rest => by
          rw [scanReplyLine_integer read, Int64.ofInt_toInt, List.nil_append]
      rwa [List.append_nil] at frame
  | bulk data =>
      have within : Numeral.Range.int64.Contains data.length :=
        ⟨by simp only [Numeral.Range.int64]; omega, Int.le_trans (Int.ofNat_le.mpr fits) bulk.2⟩
      have frame := @headerFrame limits '$' data.length (data ++ Bytes.crlf) (.bulk data) within line
        fun text read rest => by
          rw [scanReplyLine_bulk read, scanBulkReply_of_payload fits]
      rwa [← List.append_assoc] at frame
  | nil =>
      have frame := @headerFrame limits '$' (-1) [] .nil (by decide) line fun text read rest => by
        rw [scanReplyLine_bulk read]
        rfl
      rwa [List.append_nil] at frame

/-! ## Replies one behind the other -/

theorem replies_survive (replies : List Reply) (fits : ∀ r ∈ replies, r.Fits {})
    (chunks : List Bytes) (form : chunks.flatten = replies.flatMap Reply.encode) :
    feedAll ReplyDecoder.feed {} chunks = ⟨replies.map Reply.unbroken, none, {}⟩ := by
  have frame : ∀ r ∈ replies, ReplyFrame {} r.unbroken r.encode := fun r member =>
    (fits r member).frame (by decide) (by decide)
  have whole : ∀ r ∈ replies, ∀ rest, (ReplyDecoder.append {} (r.encode ++ rest)).next =
      (.item r.unbroken, ReplyDecoder.append {} rest) := fun r member rest =>
    ReplyDecoder.next_of_reply ((frame r member).scan rest)
  have fresh : ∀ (d : ReplyDecoder) more, d.append more = {} → more = [] := by
    intro d more same
    exact (List.append_eq_nil_iff.mp (congrArg ReplyDecoder.buffer same)).2
  have inTime : ∀ r ∈ replies, ∀ early, early <+: r.encode →
      (ReplyDecoder.append {} early).next.1 ≠ .failed .replyLineTooLong := by
    intro r member early part refused
    exact (frame r member).in_time part (ReplyDecoder.refused_of_next refused)
  have idle : ({} : ReplyDecoder).next = (.waiting, {}) := ReplyDecoder.next_of_incomplete rfl
  exact ReplyDecoder.resumes.feedAll_encoded whole trivial fresh inTime idle
    ReplyDecoder.feed_eq_drain form

/-- An error text that tries to look like a reply of its own, and cuts inside terminators. -/
theorem quotedBreak_survives :
    feedAll ReplyDecoder.feed {}
        [Bytes.ofAscii "-ERR a  +OK\r", Bytes.ofAscii "\n:-7\r\n$2\r\n\r",
          Bytes.ofAscii "\n\r\n$-1\r\n"] =
      ⟨[.error "ERR a  +OK", .integer (-7), .bulk Bytes.crlf, .nil], none, {}⟩ := by
  have survived := replies_survive [.error "ERR a\r\n+OK", .integer (-7), .bulk Bytes.crlf, .nil]
    (by decide)
    [Bytes.ofAscii "-ERR a  +OK\r", Bytes.ofAscii "\n:-7\r\n$2\r\n\r",
      Bytes.ofAscii "\n\r\n$-1\r\n"]
    (by decide +kernel)
  have seen : [.error "ERR a\r\n+OK", .integer (-7), .bulk Bytes.crlf, .nil].map Reply.unbroken =
      [.error "ERR a  +OK", .integer (-7), .bulk Bytes.crlf, .nil] := by decide +kernel
  rwa [seen] at survived

end IdService.Wire
