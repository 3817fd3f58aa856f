import IdService.Connection
import IdService.Proofs.Wire.Faults
import IdService.Proofs.Wire.Requests.Cuts

/-! # What a connection writes

A connection asks its decoder and the service in turn. What it writes is said here by the decoder
and the service apart: the requests of the stream, all of them, and the replies to them, one for
each, up to the first request that comes to a crash. Only a fault of the stream or a crash is
answered with one reply more, and then nothing is read or handled any longer.
-/

namespace IdService

open Wire

namespace Wire

/-- How a stream is read: the requests of its frames in order, and whether what stands behind them
is waited with or refused, part of it at least. -/
inductive Reads (limits : Limits) (stream : Bytes) (requests : List Request) :
    Option Fault → Prop where
  | waits {frames rest : Bytes} (form : stream = frames ++ rest)
      (carries : Frames limits requests frames)
      (waiting : ({ limits, buffer := rest } : RequestDecoder).next.1 = .waiting) :
      Reads limits stream requests none
  | refuses {frames malformed unread : Bytes} {fault : Fault}
      (form : stream = frames ++ malformed ++ unread) (carries : Frames limits requests frames)
      (failed : ({ limits, buffer := malformed } : RequestDecoder).next.1 = .failed fault) :
      Reads limits stream requests (some fault)

theorem feedAll_reads (limits : Limits) (chunks : List Bytes) :
    Reads limits chunks.flatten (feedAll RequestDecoder.feed { limits } chunks).items
      (feedAll RequestDecoder.feed { limits } chunks).fault := by
  obtain ⟨read, unread, rfl, fed, all⟩ := RequestDecoder.resumes.feedAll_eq_drain
    RequestDecoder.feed_eq_drain (RequestDecoder.valid_fresh limits)
    (RequestDecoder.next_fresh limits) chunks
  have fresh : (RequestDecoder.append { limits } read.flatten) =
      { limits, buffer := read.flatten } := rfl
  rw [fed] at all ⊢
  obtain ⟨d, yields, stop⟩ := @drain_cases _ _ RequestDecoder.next (·.buffer.length)
    (fun _ _ _ => RequestDecoder.length_next_lt) (RequestDecoder.append { limits } read.flatten)
  obtain ⟨frames, rest, form, carries, rfl⟩ := frames_of_yields yields fresh
  rcases stop with ⟨found, waits⟩ | ⟨fault, found, failed⟩
  · rw [waits]
    rw [all waits, List.append_nil]
    exact .waits form carries (congrArg Prod.fst found)
  · rw [failed]
    have whole : (read ++ unread).flatten = frames ++ rest ++ unread.flatten := by
      rw [List.flatten_append, form]
    exact .refuses whole carries (congrArg Prod.fst found)

end Wire

/-! ## Requests and their replies -/

namespace Service

variable [Patterns]

/-- Requests are handled one after the other, and each is replied to. -/
inductive Answers : Service → List Request → List Reply → Service → Prop where
  | none (s : Service) : Answers s [] [] s
  | next {s s' s'' : Service} {r : Request} {reply : Reply} {rest : List Request}
      {replies : List Reply} (handled : s.handle r = (.reply reply, s'))
      (others : Answers s' rest replies s'') : Answers s (r :: rest) (reply :: replies) s''

/-- The server ends a connection. It has replied to every request in front of a fault, or to those
in front of one that has come to a crash, and it replies once more. -/
inductive Ends (s : Service) : List Request → Option Fault → List Reply → Service → Prop where
  | refused {s' : Service} {requests : List Request} {replies : List Reply} {fault : Fault}
      (answers : s.Answers requests replies s') :
      Ends s requests (some fault) (replies ++ [.error ("Protocol error: " ++ fault.reason)]) s'
  | crashed {s' s'' : Service} {before after : List Request} {r : Request} {replies : List Reply}
      {fault : Option Fault} (answers : s.Answers before replies s')
      (crash : s'.handle r = (.crash, s'')) :
      Ends s (before ++ r :: after) fault (replies ++ [.error "internal error"]) s''

variable {s s' s'' : Service} {requests more : List Request} {replies later : List Reply}
  {fault : Option Fault}

theorem Answers.append (first : s.Answers requests replies s') (second : s'.Answers more later s'') :
    s.Answers (requests ++ more) (replies ++ later) s'' := by
  induction first with
  | none => exact second
  | next handled _ ih => exact .next handled (ih second)

theorem Answers.ends (first : s.Answers requests replies s') (last : s'.Ends more fault later s'') :
    s.Ends (requests ++ more) fault (replies ++ later) s'' := by
  cases last with
  | refused answers =>
      rw [← List.append_assoc]
      exact .refused (first.append answers)
  | crashed answers crash =>
      rw [← List.append_assoc, ← List.append_assoc]
      exact .crashed (first.append answers) crash

theorem Ends.behind (ends : s.Ends requests none replies s') (more : List Request)
    (fault : Option Fault) : s.Ends (requests ++ more) fault replies s' := by
  cases ends with
  | crashed answers crash =>
      rw [List.append_assoc, List.cons_append]
      exact .crashed answers crash

end Service

/-! ## The loop of a connection -/

namespace Connection

variable [Patterns]

/-- What comes of requests and perhaps a fault: every request has been replied to and the connection
waits for more, or the server has ended it. -/
def Comes (service : Service) (fed : Drained RequestDecoder Request) (replies : List Reply)
    (c : Connection) (service' : Service) : Prop :=
  (c = { decoder := fed.decoder } ∧ fed.fault = none ∧
      service.Answers fed.items replies service') ∨
    (c.closed ∧ service.Ends fed.items fed.fault replies service')

section answer

variable {service service' : Service} {d d' : RequestDecoder}

/-- The loop in which a connection answers what it has received. -/
abbrev answerAll (service : Service) (d : RequestDecoder) (replies : List Reply) : Exchange :=
  answer RequestDecoder.next (fun _ _ _ => RequestDecoder.length_next_lt) service d replies

theorem answer_waiting (found : d.next = (.waiting, d')) (replies : List Reply) :
    answerAll service d replies = ⟨replies.reverse, ⟨d', false⟩, service⟩ := by
  unfold answerAll answer
  split <;> rename_i other <;> rw [found] at other <;> cases other
  rfl

theorem answer_failed {fault : Fault} (found : d.next = (.failed fault, d'))
    (replies : List Reply) : answerAll service d replies =
      ⟨replies.reverse ++ [.error ("Protocol error: " ++ fault.reason)], ⟨d', true⟩, service⟩ := by
  have protocol := RequestDecoder.next_protocol found
  unfold answerAll answer
  split <;> rename_i other <;> rw [found] at other <;> cases other
  rw [faultReplies, if_pos protocol, Fault.message_eq protocol]

theorem answer_reply {r : Request} {reply : Reply} (found : d.next = (.item r, d'))
    (handled : service.handle r = (.reply reply, service')) (replies : List Reply) :
    answerAll service d replies = answerAll service' d' (reply :: replies) := by
  conv => lhs; unfold answerAll answer
  split <;> rename_i other <;> rw [found] at other <;> cases other
  rw [handled]

theorem answer_crash {r : Request} (found : d.next = (.item r, d'))
    (crash : service.handle r = (.crash, service')) (replies : List Reply) :
    answerAll service d replies =
      ⟨replies.reverse ++ [.error "internal error"], ⟨d', true⟩, service'⟩ := by
  unfold answerAll answer
  split <;> rename_i other <;> rw [found] at other <;> cases other
  rw [crash]
  rfl

theorem answer_comes (service : Service) (d : RequestDecoder) (replies : List Reply) :
    ∃ given, (answerAll service d replies).replies = replies.reverse ++ given ∧
      Comes service d.drain given (answerAll service d replies).connection
        (answerAll service d replies).service := by
  induction size : d.buffer.length using Nat.strongRecOn generalizing service d replies with
  | ind n ih =>
      rcases found : d.next with ⟨_ | r | fault, d'⟩
      · have drained : d.drain = ⟨[], none, d'⟩ := drain_waiting found
        rw [answer_waiting found, drained]
        exact ⟨[], by simp, .inl ⟨rfl, rfl, .none service⟩⟩
      · have drained : d.drain = d'.drain.prepend [r] := drain_item found
        have shorter := RequestDecoder.length_next_lt found
        rw [drained]
        rcases handled : service.handle r with ⟨reply | _, service'⟩
        · rw [answer_reply found handled]
          obtain ⟨given, written, comes⟩ :=
            ih d'.buffer.length (by omega) service' d' (reply :: replies) rfl
          have one : service.Answers [r] [reply] service' := .next handled (.none service')
          refine ⟨reply :: given, by rw [written]; simp, ?_⟩
          rcases comes with ⟨connection, waits, answers⟩ | ⟨closed, ends⟩
          · exact .inl ⟨connection, waits, one.append answers⟩
          · exact .inr ⟨closed, one.ends ends⟩
        · rw [answer_crash found handled]
          exact ⟨_, rfl, .inr ⟨rfl, .crashed (.none service) handled⟩⟩
      · have drained : d.drain = ⟨[], some fault, d'⟩ := drain_failed found
        rw [answer_failed found, drained]
        exact ⟨_, rfl, .inr ⟨rfl, .refused (.none service)⟩⟩

end answer

/-! ## Chunk by chunk -/

variable {c : Connection}

theorem receive_opened (opened : c.closed = false) (service : Service) (chunk : Bytes) :
    c.receive service chunk = answerAll service (c.decoder.append chunk) [] := by
  simp only [receive, opened, Bool.false_eq_true, if_false]

theorem receive_comes (opened : c.closed = false) (service : Service) (chunk : Bytes) :
    Comes service (c.decoder.feed chunk) (c.receive service chunk).replies
      (c.receive service chunk).connection (c.receive service chunk).service := by
  obtain ⟨given, written, comes⟩ := answer_comes service (c.decoder.append chunk) []
  rw [receive_opened opened, written]
  exact comes

theorem serve_closed (closed : c.closed) (service : Service) (chunks : List Bytes) :
    c.serve service chunks = ⟨[], c, service⟩ := by
  induction chunks with
  | nil => simp only [serve, finish, closed, if_true]
  | cons chunk chunks ih =>
      have unread : c.receive service chunk = ⟨[], c, service⟩ := by
        simp only [receive, closed, if_true]
      simp only [serve, unread, ih, List.append_nil]

/-- At the end of its stream a decoder that waits is given up, whether or not it waits inside a
frame. -/
theorem finish_waiting (opened : c.closed = false) (idle : c.decoder.next = (.waiting, c.decoder))
    (service : Service) : c.finish service = ⟨[], { c with closed := true }, service⟩ := by
  have atEnd : c.decoder.nextAtEnd = (.waiting, c.decoder) ∨
      c.decoder.nextAtEnd = (.failed .unfinished, c.decoder) := by
    simp only [RequestDecoder.nextAtEnd, idle]
    cases c.decoder.buffer.isEmpty with
    | true => exact .inl rfl
    | false => exact .inr rfl
  rw [finish, if_neg (by simp [opened])]
  unfold answer
  rcases atEnd with found | found
  all_goals
    split <;> rename_i other <;> rw [found] at other <;> cases other
    rfl

theorem serve_comes (opened : c.closed = false) (valid : c.decoder.Valid)
    (idle : c.decoder.next = (.waiting, c.decoder)) (service : Service) (chunks : List Bytes) :
    let fed := feedAll RequestDecoder.feed c.decoder chunks
    let e := c.serve service chunks
    (fed.fault = none ∧ service.Answers fed.items e.replies e.service ∨
      service.Ends fed.items fed.fault e.replies e.service) ∧ e.connection.closed := by
  induction chunks generalizing c service with
  | nil =>
      simp only [serve, finish_waiting opened idle]
      exact ⟨.inl ⟨rfl, .none service⟩, trivial⟩
  | cons chunk chunks ih =>
      have comes := receive_comes opened service chunk
      simp only [serve, feedAll]
      generalize c.receive service chunk = e at comes
      rcases comes with ⟨connection, waits, answers⟩ | ⟨closed, ends⟩
      · have settled := RequestDecoder.resumes.idle_of_drain (valid.append chunk) waits
        have later := ih (c := e.connection) (by rw [connection])
          (by rw [connection]; exact settled.1)
          (by rw [connection]; exact settled.2) e.service
        rw [connection] at later ⊢
        simp only [waits]
        obtain ⟨others | others, closed⟩ := later
        · exact ⟨.inl ⟨others.1, answers.append others.2⟩, closed⟩
        · exact ⟨.inr (answers.ends others), closed⟩
      · rw [serve_closed closed]
        dsimp only
        rw [List.append_nil]
        cases stop : (c.decoder.feed chunk).fault with
        | some fault =>
            simp only [stop] at ends ⊢
            exact ⟨.inr ends, closed⟩
        | none =>
            simp only [stop] at ends ⊢
            exact ⟨.inr (ends.behind _ _), closed⟩

end Connection

/-- What a connection writes for a stream of chunks and its end: the replies to the requests of the
stream, one for each and in their order. Nothing more is written at the end of the stream. A fault
of the stream is answered with its reason, once every request in front of it has been replied to, and
a crash in place of a reply; after either nothing is handled any longer. -/
theorem connection_writes [Patterns] (service : Service) (chunks : List Bytes) :
    let fed := feedAll RequestDecoder.feed {} chunks
    let e := ({} : Connection).serve service chunks
    Reads {} chunks.flatten fed.items fed.fault ∧
      (fed.fault = none ∧ service.Answers fed.items e.replies e.service ∨
        service.Ends fed.items fed.fault e.replies e.service) ∧
      e.written = e.replies.flatMap Reply.encode ∧ e.connection.closed := by
  obtain ⟨comes, closed⟩ := Connection.serve_comes (c := {}) rfl (RequestDecoder.valid_fresh {})
    (RequestDecoder.next_fresh {}) service chunks
  exact ⟨feedAll_reads {} chunks, comes, rfl, closed⟩

end IdService
