import IdService.Proofs.Wire.Replies
import Mathlib.Data.List.Forall2

/-! # Where a stream of replies is cut

A reply is a mark, a line and, for a bulk string, the announced bytes; what a reader takes from the
front of its buffer is one of these forms, and it takes all of it. A line may be longer than a line
may wait for its terminator: cut inside, it is refused, and whole it is read like any other. So the
cuts of a stream are unseen exactly if every such line starts a reply that is refused when it comes
in one piece, too.
-/

namespace IdService.Wire

variable {limits : Limits}

/-! ## The forms of replies -/

/-- The replies that a reader takes, each with its bytes. A line may hold a CR, but no CR LF. -/
inductive ReplyForm (limits : Limits) : Reply → Bytes → Prop where
  | status {line : Bytes} (unbroken : crlfIndex? line = none) :
      ReplyForm limits (.status (Text.ofUtf8Lossy line)) (Byte.ofAscii '+' :: line ++ Bytes.crlf)
  | error {line : Bytes} (unbroken : crlfIndex? line = none) :
      ReplyForm limits (.error (Text.ofUtf8Lossy line)) (Byte.ofAscii '-' :: line ++ Bytes.crlf)
  | integer {line : Bytes} {n : Int} (numeral : IsNumeral line n) :
      ReplyForm limits (.integer (Int64.ofInt n)) (Byte.ofAscii ':' :: line ++ Bytes.crlf)
  | nil {line : Bytes} (numeral : IsNumeral line (-1)) :
      ReplyForm limits .nil (Byte.ofAscii '$' :: line ++ Bytes.crlf)
  | bulk {line data : Bytes} (numeral : IsNumeral line data.length)
      (small : data.length ≤ limits.bulkBytes) :
      ReplyForm limits (.bulk data)
        (Byte.ofAscii '$' :: line ++ Bytes.crlf ++ (data ++ Bytes.crlf))

/-- The start of a reply whose line goes on for more bytes than may wait, and has not ended. -/
structure OverlongReply (limits : Limits) (start : Bytes) : Prop where
  unended : crlfIndex? start.tail = none
  long : limits.lineBytes < start.length

/-! ## A form is taken, and nothing else -/

namespace ReplyForm

theorem scan {r : Reply} {form : Bytes} (written : ReplyForm limits r form) (rest : Bytes) :
    scanReply limits (form ++ rest) = .reply r rest := by
  cases written with
  | status unbroken => rw [scanReply_of_line unbroken, scanReplyLine_status]
  | error unbroken => rw [scanReply_of_line unbroken, scanReplyLine_error]
  | integer numeral =>
      rw [scanReply_of_line numeral.unbroken, scanReplyLine_integer numeral.integer?]
  | nil numeral =>
      rw [scanReply_of_line numeral.unbroken, scanReplyLine_bulk numeral.integer?]
      rfl
  | bulk numeral small =>
      rw [List.append_assoc, scanReply_of_line numeral.unbroken,
        scanReplyLine_bulk numeral.integer?, scanBulkReply_of_payload small]

end ReplyForm

theorem scanBulkReply_eq_reply {n : Int} {behind rest : Bytes} {r : Reply}
    (found : scanBulkReply limits n behind = .reply r rest) :
    (n = -1 ∧ r = .nil ∧ behind = rest) ∨
      ∃ data : Bytes, n = data.length ∧ data.length ≤ limits.bulkBytes ∧ r = .bulk data ∧
        behind = data ++ Bytes.crlf ++ rest := by
  unfold scanBulkReply at found
  split at found
  · rename_i absent
    cases found
    exact .inl ⟨absent, rfl, rfl⟩
  · cases sized : bulkSize limits n with
    | error fault =>
        rw [sized] at found
        cases found
    | ok size =>
        obtain ⟨rfl, small⟩ := bulkSize_eq_ok_iff.mp sized
        simp only [sized] at found
        split at found
        · rename_i a b after cut
          split at found
          · rename_i terminator
            obtain ⟨rfl, rfl⟩ := terminator
            cases found
            obtain ⟨data, rfl, rfl⟩ := split_of_drop cut
            refine .inr ⟨data, rfl, small, ?_, rfl⟩
            rw [List.append_assoc, List.take_left]
          · cases found
        · cases found

theorem scanReplyLine_eq_reply {mark : UInt8} {line behind rest : Bytes} {r : Reply}
    (unbroken : crlfIndex? line = none)
    (found : scanReplyLine limits mark line behind = .reply r rest) :
    ∃ payload, behind = payload ++ rest ∧
      ReplyForm limits r (mark :: line ++ Bytes.crlf ++ payload) := by
  unfold scanReplyLine at found
  split at found
  · rename_i status
    subst status
    cases found
    exact ⟨[], rfl, by simpa using ReplyForm.status unbroken⟩
  split at found
  · rename_i error
    subst error
    cases found
    exact ⟨[], rfl, by simpa using ReplyForm.error unbroken⟩
  split at found
  · rename_i integer
    subst integer
    split at found
    · cases found
    · rename_i n read
      cases found
      exact ⟨[], rfl, by simpa using ReplyForm.integer (integer?_eq_some_iff.mp read)⟩
  split at found
  · rename_i bulk
    subst bulk
    split at found
    · cases found
    · rename_i n read
      have numeral := integer?_eq_some_iff.mp read
      rcases scanBulkReply_eq_reply found with ⟨rfl, rfl, rfl⟩ | ⟨data, rfl, small, rfl, rfl⟩
      · exact ⟨[], rfl, by simpa using ReplyForm.nil numeral⟩
      · exact ⟨data ++ Bytes.crlf, rfl, .bulk numeral small⟩
  · cases found

/-- A reader takes a reply exactly if its buffer starts with a form of that reply. -/
theorem scanReply_eq_reply_iff {buffer rest : Bytes} {r : Reply} :
    scanReply limits buffer = .reply r rest ↔
      ∃ form, buffer = form ++ rest ∧ ReplyForm limits r form := by
  constructor
  · intro found
    cases buffer with
    | nil => cases found
    | cons mark tail =>
        cases ended : crlfIndex? tail with
        | none =>
            simp only [scanReply, ended] at found
            split at found <;> cases found
        | some i =>
            obtain ⟨line, behind, rfl, -, unbroken⟩ := crlfIndex?_eq_some_iff.mp ended
            have whole := @scanReply_of_line limits mark line unbroken behind
            rw [List.cons_append, List.cons_append, found] at whole
            obtain ⟨payload, rfl, written⟩ := scanReplyLine_eq_reply unbroken whole.symm
            exact ⟨mark :: line ++ Bytes.crlf ++ payload, by simp, written⟩
  · rintro ⟨form, rfl, written⟩
    exact written.scan rest

theorem scanReply_tooLong_iff {buffer : Bytes} :
    scanReply limits buffer = .refused .replyLineTooLong ↔ OverlongReply limits buffer := by
  constructor
  · intro refused
    obtain ⟨unended, long⟩ := scanReply_tooLong refused
    exact ⟨unended, long⟩
  · rintro ⟨unended, long⟩
    cases buffer with
    | nil => exact absurd long (Nat.not_lt_zero _)
    | cons mark tail =>
        simp only [List.tail_cons] at unended
        have long : limits.lineBytes < tail.length + 1 := long
        simp only [scanReply, unended, if_pos long]

/-! ## Forms one behind the other -/

/-- Forms give their replies, and then what stands behind them is decoded. -/
theorem feed_forms {replies : List Reply} {forms : List Bytes}
    (written : List.Forall₂ (ReplyForm limits) replies forms) (rest : Bytes) :
    ({ limits } : ReplyDecoder).feed (forms.flatten ++ rest) =
      (({ limits } : ReplyDecoder).feed rest).prepend replies := by
  induction written with
  | nil => rfl
  | @cons r form replies forms first _ ih =>
      rw [List.flatten_cons, List.append_assoc]
      refine (drain_item (ReplyDecoder.next_of_reply (first.scan _))).trans ?_
      exact congrArg (Drained.prepend [r]) ih

/-- What has been given came from forms, and they are gone from the buffer. -/
theorem forms_of_yields {bytes : Bytes} {replies : List Reply} {d d' : ReplyDecoder}
    (yields : Yields ReplyDecoder.next d replies d') (fresh : d = { limits, buffer := bytes }) :
    ∃ forms rest, bytes = forms.flatten ++ rest ∧ List.Forall₂ (ReplyForm limits) replies forms ∧
      d' = { limits, buffer := rest } := by
  induction yields generalizing bytes with
  | done d => exact ⟨[], bytes, rfl, .nil, fresh⟩
  | @item d next _ r _ found _ ih =>
      subst fresh
      cases scan : scanReply limits bytes with
      | incomplete =>
          rw [ReplyDecoder.next_of_incomplete scan] at found
          cases found
      | refused fault =>
          rw [ReplyDecoder.next_of_refused scan] at found
          cases found
      | reply r' rest =>
          rw [ReplyDecoder.next_of_reply scan] at found
          cases found
          obtain ⟨form, rfl, written⟩ := scanReply_eq_reply_iff.mp scan
          obtain ⟨forms, rest', rfl, others, last⟩ := ih rfl
          exact ⟨form :: forms, rest', by simp, .cons written others, last⟩

/-- A decoder refuses a line for its length where one goes on for too long behind whole forms. -/
theorem feed_replyTooLong_iff {bytes : Bytes} {replies : List Reply} :
    (({ limits } : ReplyDecoder).feed bytes).items = replies ∧
        (({ limits } : ReplyDecoder).feed bytes).fault = some .replyLineTooLong ↔
      ∃ forms start, bytes = forms.flatten ++ start ∧
        List.Forall₂ (ReplyForm limits) replies forms ∧ OverlongReply limits start := by
  constructor
  · rintro ⟨rfl, failed⟩
    obtain ⟨d', yields, ⟨-, waits⟩ | ⟨fault, found, same⟩⟩ :=
      @drain_cases _ _ ReplyDecoder.next (·.buffer.length)
        (fun _ _ _ => ReplyDecoder.length_next_lt) { limits, buffer := bytes }
    · exact absurd (failed.symm.trans waits) (by simp)
    · obtain rfl : fault = .replyLineTooLong := Option.some.inj (same.symm.trans failed)
      obtain ⟨forms, rest, rfl, written, rfl⟩ := forms_of_yields yields rfl
      have refused := ReplyDecoder.refused_of_next (congrArg Prod.fst found)
      exact ⟨forms, rest, rfl, written, scanReply_tooLong_iff.mp refused⟩
  · rintro ⟨forms, start, rfl, written, overlong⟩
    have failed : ({ limits } : ReplyDecoder).feed start = _ :=
      drain_failed (ReplyDecoder.next_of_refused (scanReply_tooLong_iff.mpr overlong))
    rw [feed_forms written, failed]
    simp [Drained.prepend]

theorem feed_refused_iff {bytes : Bytes} :
    (({ limits } : ReplyDecoder).feed bytes).items = [] ∧
        (({ limits } : ReplyDecoder).feed bytes).fault.isSome ↔
      ∃ fault, scanReply limits bytes = .refused fault := by
  cases scan : scanReply limits bytes with
  | incomplete =>
      have waits : ({ limits } : ReplyDecoder).feed bytes = _ :=
        drain_waiting (ReplyDecoder.next_of_incomplete scan)
      simp [waits]
  | refused fault =>
      have failed : ({ limits } : ReplyDecoder).feed bytes = _ :=
        drain_failed (ReplyDecoder.next_of_refused scan)
      simp [failed]
  | reply r rest =>
      have given : ({ limits } : ReplyDecoder).feed bytes = _ :=
        drain_item (ReplyDecoder.next_of_reply scan)
      simp [given, Drained.prepend]

/-! ## Cuts -/

/-- The cuts of a stream of replies are unseen exactly if every line that goes on for longer than it
may wait starts a reply that is refused whole. -/
theorem reply_cuts_unseen_iff (limits : Limits) (bytes : Bytes) :
    (∀ cs ds : List Bytes, cs.flatten = bytes → ds.flatten = bytes →
        SeenAlike (feedAll ReplyDecoder.feed { limits } cs)
          (feedAll ReplyDecoder.feed { limits } ds)) ↔
      ∀ replies forms start after, bytes = forms.flatten ++ start ++ after →
        List.Forall₂ (ReplyForm limits) replies forms → OverlongReply limits start →
        ∃ fault, scanReply limits (start ++ after) = .refused fault := by
  have idle : ({ limits } : ReplyDecoder).next = (.waiting, { limits }) :=
    ReplyDecoder.next_of_incomplete rfl
  rw [ReplyDecoder.resumes.seenAlike_iff ReplyDecoder.feed_eq_drain trivial idle]
  constructor
  · rintro stands replies forms start after rfl written overlong
    obtain ⟨given, failed⟩ := feed_replyTooLong_iff.mpr ⟨forms, start, rfl, written, overlong⟩
    obtain ⟨items, fault⟩ := stands _ after rfl failed
    rw [given, List.append_assoc, feed_forms written] at items
    rw [failed, List.append_assoc, feed_forms written] at fault
    exact feed_refused_iff.mp ⟨List.self_eq_append_right.mp items, fault.symm⟩
  · rintro refuses early later rfl failed
    obtain ⟨forms, start, form, written, overlong⟩ := feed_replyTooLong_iff.mp ⟨rfl, failed⟩
    have refused := refuses _ forms start later (by rw [form]) written overlong
    obtain ⟨nothing, fault⟩ := feed_refused_iff.mpr refused
    rw [SeenAlike, failed]
    conv => enter [1, 2]; rw [form]
    conv => enter [2, 2]; rw [form]
    rw [List.append_assoc, feed_forms written]
    exact ⟨by simp [Drained.prepend, nothing], fault.symm⟩

/-- A cut between an error text that fills its line and the terminator is seen. -/
theorem full_error_seen {text : Bytes} (unbroken : crlfIndex? text = none)
    (full : limits.lineBytes ≤ text.length) :
    ¬ SeenAlike (feedAll ReplyDecoder.feed { limits } [Byte.ofAscii '-' :: text, Bytes.crlf])
      (feedAll ReplyDecoder.feed { limits } [Byte.ofAscii '-' :: text ++ Bytes.crlf]) := by
  have overlong : OverlongReply limits (Byte.ofAscii '-' :: text) :=
    ⟨unbroken, Nat.lt_succ_of_le full⟩
  have refused : ({ limits } : ReplyDecoder).feed (Byte.ofAscii '-' :: text) = _ :=
    drain_failed (ReplyDecoder.next_of_refused (scanReply_tooLong_iff.mpr overlong))
  have cut : feedAll ReplyDecoder.feed { limits } [Byte.ofAscii '-' :: text, Bytes.crlf] =
      ({ limits } : ReplyDecoder).feed (Byte.ofAscii '-' :: text) := by
    simp only [feedAll, refused]
  have read := feed_forms (.cons (@ReplyForm.error limits _ unbroken) .nil) []
  rw [List.flatten_singleton, List.append_nil] at read
  rintro ⟨items, -⟩
  rw [cut, refused, feedAll_singleton, read] at items
  simp [Drained.prepend] at items

def fullText : Bytes := List.replicate 65536 (Byte.ofAscii 'a')

theorem fullText_unbroken : crlfIndex? fullText = none :=
  crlfIndex?_of_plain fun member => absurd (List.eq_of_mem_replicate member) (by decide)

/-- So it is with the limits that there are by default. -/
theorem fullText_cut_seen :
    ¬ SeenAlike (feedAll ReplyDecoder.feed {} [Byte.ofAscii '-' :: fullText, Bytes.crlf])
      (feedAll ReplyDecoder.feed {} [Byte.ofAscii '-' :: fullText ++ Bytes.crlf]) := by
  have size : fullText.length = 65536 := List.length_replicate
  exact full_error_seen fullText_unbroken (Nat.le_of_eq size.symm)

end IdService.Wire
