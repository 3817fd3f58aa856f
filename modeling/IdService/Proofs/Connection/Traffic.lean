import IdService.Log.Plain
import IdService.Proofs.Connection
import IdService.Proofs.Service.Crashes
import IdService.Proofs.Wire.Requests.Progress

/-! # Connections side by side

The connections of a server share its service and nothing else. What happens to them comes in any
order: bytes arrive, the loop of one of them takes a turn, one of them ends, and in between the store
is told to fail. A fault of a stream is found before anything is handled, and a crash comes before
anything has changed, so a connection that ends by either leaves the others where they would be had
it only sent the requests that it was replied to.
-/

namespace IdService

open Wire

/-! ## Turns -/

namespace Connection

variable [Patterns]

/-- Bytes come in. -/
def arrive (c : Connection) (chunk : Bytes) : Connection :=
  if c.closed then c else { c with decoder := c.decoder.append chunk }

/-- One turn of the loop: the decoder is asked once, and a request that it gives is handled. -/
def turn (c : Connection) (service : Service) : Exchange :=
  if c.closed then ⟨[], c, service⟩
  else
    match c.decoder.next with
    | (.waiting, d) => ⟨[], ⟨d, false⟩, service⟩
    | (.failed fault, d) => ⟨faultReplies fault, ⟨d, true⟩, service⟩
    | (.item request, d) =>
      match service.handle request with
      | (.reply reply, service) => ⟨[reply], ⟨d, false⟩, service⟩
      | (.crash, service) => ⟨[crashReply], ⟨d, true⟩, service⟩

/-- What a server has to say to a connection that it ends. -/
inductive LastWord : Reply → Prop where
  | refused (fault : Fault) : LastWord (.error ("Protocol error: " ++ fault.reason))
  | crashed : LastWord (.error "internal error")

/-- What a turn comes to. -/
inductive Turns (c : Connection) (service : Service) : Exchange → Prop where
  | none (closed : c.closed) : Turns c service ⟨[], c, service⟩
  | waits {d : RequestDecoder} (opened : c.closed = false) (found : c.decoder.next = (.waiting, d)) :
      Turns c service ⟨[], ⟨d, false⟩, service⟩
  | replies {d : RequestDecoder} {request : Request} {reply : Reply} {service' : Service}
      (opened : c.closed = false) (found : c.decoder.next = (.item request, d))
      (handled : service.handle request = (.reply reply, service')) :
      Turns c service ⟨[reply], ⟨d, false⟩, service'⟩
  | ends {d : RequestDecoder} {word : Reply} (opened : c.closed = false) (last : LastWord word) :
      Turns c service ⟨[word], ⟨d, true⟩, service⟩

theorem turn_turns (c : Connection) (service : Service) : Turns c service (c.turn service) := by
  unfold turn
  cases opened : c.closed with
  | true => exact .none opened
  | false =>
      rw [if_neg Bool.false_ne_true]
      rcases found : c.decoder.next with ⟨_ | request | fault, d⟩
      · exact .waits opened found
      · dsimp only
        rcases handled : service.handle request with ⟨reply | _, service'⟩
        · exact .replies opened found handled
        · obtain ⟨same, -⟩ := Service.handle_crash (congrArg Prod.fst handled)
          rw [handled] at same
          dsimp only at same ⊢
          rw [same]
          exact .ends opened .crashed
      · have protocol := RequestDecoder.next_protocol found
        dsimp only
        rw [faultReplies, if_pos protocol, Fault.message_eq protocol]
        exact .ends opened (.refused fault)

theorem turn_closed {c : Connection} (closed : c.closed) (service : Service) :
    c.turn service = ⟨[], c, service⟩ :=
  if_pos closed

/-- A new connection that is sent the bytes of one request is new again when it has replied. -/
theorem turn_request {service service' : Service} {bytes : Bytes} {request : Request}
    {reply : Reply} (found : ({ buffer := bytes } : RequestDecoder).next = (.item request, {}))
    (handled : service.handle request = (.reply reply, service')) :
    (arrive {} bytes).turn service = ⟨[reply], {}, service'⟩ := by
  have received : (arrive {} bytes).decoder = { buffer := bytes } := rfl
  unfold turn
  rw [if_neg (by simp [arrive]), received, found]
  dsimp only
  rw [handled]

end Connection

/-! ## One connection among others -/

/-- What happens to a connection. -/
inductive Act where
  | arrive (chunk : Bytes)
  | turn
  /-- It ends without a fault, at the end of its stream for one. -/
  | hangUp

/-- A connection, all that it has written, and whether a fault or a crash has ended it. -/
structure Party where
  connection : Connection := {}
  written : Bytes := []
  failed : Bool := false

namespace Party

variable [Patterns]

/-- The connection has written the replies of an exchange. -/
def after (p : Party) (e : Exchange) : Party where
  connection := e.connection
  written := p.written ++ e.written
  failed := p.failed || !p.connection.closed && e.connection.closed

def act (p : Party) (service : Service) : Act → Party × Service
  | .arrive chunk => ({ p with connection := p.connection.arrive chunk }, service)
  | .turn => (p.after (p.connection.turn service), (p.connection.turn service).service)
  | .hangUp => ({ p with connection := { p.connection with closed := true } }, service)

def acts (p : Party) (service : Service) : List Act → Party × Service
  | [] => (p, service)
  | a :: rest => (p.act service a).1.acts (p.act service a).2 rest

/-- What is left of an act if only requests that are replied to are sent: the bytes of such a
request, and the turn in which it is handled. -/
def kept (p : Party) (service : Service) : Act → List Act
  | .turn =>
    let e := p.connection.turn service
    let held := p.connection.decoder.buffer
    if e.replies.isEmpty || e.connection.closed then []
    else [.arrive (held.take (held.length - e.connection.decoder.buffer.length)), .turn]
  | _ => []

/-- A connection beside the one that it would be if it had only sent requests that were replied to.
That one is still new, but for what it has written, and it lacks the last word of a failure. -/
inductive Shadows : Party → Party → Prop where
  | serves {d : RequestDecoder} {written : Bytes} (limits : d.limits = {}) (unmarked : d.Unmarked) :
      Shadows { connection := ⟨d, false⟩, written } { written }
  | gone {c : Connection} {written : Bytes} (closed : c.closed) :
      Shadows { connection := c, written } { written }
  | failed {c : Connection} {written : Bytes} {word : Reply} (closed : c.closed)
      (last : Connection.LastWord word) :
      Shadows { connection := c, written := written ++ word.encode, failed := true } { written }

variable {p q : Party}

theorem act_closed (closed : p.connection.closed) (service : Service) (a : Act) :
    (p.act service a = (p, service)) ∧ p.kept service a = [] := by
  have still := Connection.turn_closed closed service
  obtain ⟨⟨decoder, done⟩, written, failed⟩ := p
  obtain rfl : done = true := closed
  cases a with
  | arrive chunk => exact ⟨rfl, rfl⟩
  | turn =>
      refine ⟨?_, by simp only [kept, still, List.isEmpty_nil, Bool.true_or, if_true]⟩
      simp [act, after, still, Exchange.written]
  | hangUp => exact ⟨rfl, rfl⟩

theorem Shadows.turn {d : RequestDecoder} {written : Bytes} (limits : d.limits = {})
    (unmarked : d.Unmarked) (service : Service) :
    let p : Party := { connection := ⟨d, false⟩, written }
    let shadow := ({ written } : Party).acts service (p.kept service .turn)
    (p.act service .turn).1.Shadows shadow.1 ∧ shadow.2 = (p.act service .turn).2 := by
  have turns := Connection.turn_turns ⟨d, false⟩ service
  simp only [act, kept]
  generalize Connection.turn ⟨d, false⟩ service = e at turns
  cases turns with
  | none closed => cases closed
  | @waits d' _ found =>
      obtain ⟨same, settled⟩ := unmarked.waiting found
      simp only [after, Exchange.written, List.flatMap_nil, List.append_nil]
      exact ⟨.serves (same.trans limits) settled, rfl⟩
  | @replies d' request reply service' _ found handled =>
      obtain ⟨fresh, taken, form, alone⟩ := unmarked.item found
      rw [limits] at fresh alone
      have bytes : d.buffer.take (d.buffer.length - d'.buffer.length) = taken := by
        rw [form, List.length_append, Nat.add_sub_cancel, List.take_left]
      have replied := Connection.turn_request alone handled
      simp only [List.isEmpty_cons, Bool.or_self, Bool.false_eq_true, if_false, bytes, acts, act,
        replied]
      simp only [after]
      rw [fresh]
      exact ⟨.serves rfl (.fresh {} _), trivial⟩
  | @ends d' word _ last =>
      simp only [after, Exchange.written, List.flatMap_singleton, Bool.or_true, if_true, acts]
      exact ⟨.failed rfl last, trivial⟩

/-- Whatever happens to a connection, the one beside it goes along, and so does the service. -/
theorem Shadows.act (shadows : p.Shadows q) (service : Service) (a : Act) :
    (p.act service a).1.Shadows (q.acts service (p.kept service a)).1 ∧
      (q.acts service (p.kept service a)).2 = (p.act service a).2 := by
  cases done : p.connection.closed with
  | true =>
      obtain ⟨still, nothing⟩ := act_closed done service a
      rw [still, nothing]
      exact ⟨shadows, rfl⟩
  | false =>
      cases shadows with
      | serves limits unmarked =>
          cases a with
          | arrive chunk => exact ⟨.serves limits (unmarked.append chunk), rfl⟩
          | turn => exact Shadows.turn limits unmarked service
          | hangUp => exact ⟨.gone rfl, rfl⟩
      | gone closed => cases closed.symm.trans done
      | failed closed => cases closed.symm.trans done

omit [Patterns] in
theorem Shadows.of_failed (shadows : p.Shadows q) (failed : p.failed) :
    ∃ written word, Connection.LastWord word ∧ q = { written } ∧
      p.written = written ++ word.encode := by
  cases shadows with
  | serves => cases failed
  | gone => cases failed
  | failed closed last => exact ⟨_, _, last, rfl, rfl⟩

/-! ## The loop, turn by turn -/

omit [Patterns] in
theorem after_after {first second : Exchange} (opened : p.connection.closed = false)
    (onward : first.connection.closed = false) :
    (p.after first).after second =
      p.after { second with replies := first.replies ++ second.replies } := by
  simp [after, opened, onward, Exchange.written]

theorem acts_answer (d : RequestDecoder) (opened : p.connection = ⟨d, false⟩) (service : Service)
    (replies : List Reply) :
    let e := Connection.answerAll service d replies
    ∃ turns given, e.replies = replies.reverse ++ given ∧
      p.acts service (List.replicate turns .turn) =
        (p.after { e with replies := given }, e.service) := by
  induction size : d.buffer.length using Nat.strongRecOn generalizing p d service replies with
  | ind n ih =>
      have turned : p.connection.turn service = Connection.turn ⟨d, false⟩ service := by rw [opened]
      have once : p.acts service (List.replicate 1 .turn) =
          (p.after (p.connection.turn service), (p.connection.turn service).service) := rfl
      rcases found : d.next with ⟨_ | request | fault, d'⟩
      · rw [Connection.answer_waiting found]
        refine ⟨1, [], by simp, ?_⟩
        rw [once, turned]
        simp [Connection.turn, found]
      · rcases handled : service.handle request with ⟨reply | _, service'⟩
        · rw [Connection.answer_reply found handled]
          have shorter := RequestDecoder.length_next_lt found
          have here : p.connection.turn service = ⟨[reply], ⟨d', false⟩, service'⟩ := by
            rw [turned]
            simp [Connection.turn, found, handled]
          obtain ⟨turns, given, written, comes⟩ := ih d'.buffer.length (by omega)
            (p := p.after ⟨[reply], ⟨d', false⟩, service'⟩) d' rfl service' (reply :: replies) rfl
          refine ⟨turns + 1, reply :: given, by rw [written]; simp, ?_⟩
          rw [List.replicate_succ]
          simp only [acts, act, here, comes]
          rw [after_after (by rw [opened]) rfl]
          rfl
        · rw [Connection.answer_crash found handled]
          refine ⟨1, _, rfl, ?_⟩
          rw [once, turned]
          simp [Connection.turn, found, handled, Connection.crashReply]
      · rw [Connection.answer_failed found]
        have protocol := RequestDecoder.next_protocol found
        refine ⟨1, _, rfl, ?_⟩
        rw [once, turned]
        simp [Connection.turn, found, Connection.faultReplies, protocol, Fault.message_eq protocol]

theorem acts_receive (p : Party) (service : Service) (chunk : Bytes) :
    let e := p.connection.receive service chunk
    ∃ turns, p.acts service (.arrive chunk :: List.replicate turns .turn) =
      (p.after e, e.service) := by
  obtain ⟨⟨d, closed⟩, written, failed⟩ := p
  cases closed with
  | true =>
      refine ⟨0, ?_⟩
      simp [acts, act, Connection.arrive, Connection.receive, after, Exchange.written]
  | false =>
      let arrived : Party := { connection := ⟨d.append chunk, false⟩, written, failed }
      obtain ⟨turns, given, replied, comes⟩ :=
        acts_answer (p := arrived) (d.append chunk) rfl service []
      have received := Connection.receive_opened (c := ⟨d, false⟩) rfl service chunk
      have all : (Connection.answerAll service (d.append chunk) []).replies = given := replied
      rw [← all] at comes
      refine ⟨turns, ?_⟩
      rw [received]
      exact comes

theorem act_finish (p : Party) (service : Service)
    (idle : p.connection.decoder.next = (.waiting, p.connection.decoder)) :
    let e := p.connection.finish service
    p.act service .hangUp =
      ({ p with connection := e.connection, written := p.written ++ e.written }, e.service) := by
  obtain ⟨⟨d, closed⟩, written, failed⟩ := p
  cases closed with
  | true => simp [act, Connection.finish, Exchange.written]
  | false =>
      have finished := Connection.finish_waiting (c := ⟨d, false⟩) rfl idle service
      simp only [act, finished, Exchange.written, List.flatMap_nil, List.append_nil]

end Party

/-! ## All connections -/

/-- The connections of a server by their names, and the service that they share. -/
structure Traffic where
  service : Service
  party : String → Party := fun _ => {}

/-- What happens next: something to one connection, or the store is told to fail. -/
inductive Move where
  | act (name : String) (act : Act)
  | disturb (d : Disturbance)

namespace Traffic

variable [Patterns]

def put (t : Traffic) (name : String) (next : Party × Service) : Traffic where
  service := next.2
  party other := if other = name then next.1 else t.party other

def move (t : Traffic) : Move → Traffic
  | .act name a => t.put name ((t.party name).act t.service a)
  | .disturb d => { t with service := (t.service.undergo (.disturb d)).2 }

def run (t : Traffic) : List Move → Traffic
  | [] => t
  | m :: rest => (t.move m).run rest

/-- The moves of the others, and what is kept of those of the faulty connections. -/
def kept (t : Traffic) (faulty : String → Bool) : Move → List Move
  | .act name a =>
    if faulty name then ((t.party name).kept t.service a).map (.act name) else [.act name a]
  | .disturb d => [.disturb d]

/-- The moves of a run in which faulty connections only send the requests that they are replied to,
and send nothing after that. -/
def calmed (t : Traffic) (faulty : String → Bool) : List Move → List Move
  | [] => []
  | m :: rest => t.kept faulty m ++ (t.move m).calmed faulty rest

theorem run_append (t : Traffic) (moves more : List Move) :
    t.run (moves ++ more) = (t.run moves).run more := by
  induction moves generalizing t with
  | nil => rfl
  | cons m rest ih => exact ih (t.move m)

omit [Patterns] in
theorem put_same (t : Traffic) (name : String) : t.put name (t.party name, t.service) = t := by
  have same : (fun other => if other = name then t.party name else t.party other) = t.party := by
    funext other
    split
    · rename_i here
      rw [here]
    · rfl
  rw [put, same]

theorem run_acts (t : Traffic) (name : String) (as : List Act) :
    t.run (as.map (.act name)) = t.put name ((t.party name).acts t.service as) := by
  induction as generalizing t with
  | nil => exact (t.put_same name).symm
  | cons a rest ih =>
      have acted : (t.move (.act name a)).party name = ((t.party name).act t.service a).1 := by
        simp only [move, put, if_true]
      rw [List.map_cons, run, ih, acted]
      simp only [put, move, Party.acts, mk.injEq, true_and]
      funext other
      split <;> rfl

/-! ## Faults stay private -/

/-- A run beside the calm one: the service is the same, the others are, and the faulty ones lack
their last word at most. -/
structure Beside (faulty : String → Bool) (t calm : Traffic) : Prop where
  service : calm.service = t.service
  others : ∀ name, faulty name = false → calm.party name = t.party name
  faulty : ∀ name, faulty name → (t.party name).Shadows (calm.party name)

theorem Beside.move {faulty : String → Bool} {t calm : Traffic} (beside : Beside faulty t calm)
    (m : Move) : Beside faulty (t.move m) (calm.run (t.kept faulty m)) := by
  obtain ⟨service, others, shadowed⟩ := beside
  cases m with
  | disturb d => exact ⟨by simp only [kept, run, Traffic.move, service], others, shadowed⟩
  | act name a =>
      cases is : faulty name with
      | false =>
          have moved : calm.run (t.kept faulty (.act name a)) =
              calm.put name ((t.party name).act t.service a) := by
            simp only [kept, is, Bool.false_eq_true, if_false, run, Traffic.move, others name is,
              service]
          rw [moved]
          refine ⟨rfl, ?_, ?_⟩
          · intro other sound
            simp only [put, Traffic.move, others other sound]
          · intro other fails
            have apart : other ≠ name := by
              rintro rfl
              cases is.symm.trans fails
            simp only [put, Traffic.move, if_neg apart]
            exact shadowed other fails
      | true =>
          obtain ⟨shadows, same⟩ := (shadowed name is).act t.service a
          have moved : calm.run (t.kept faulty (.act name a)) =
              calm.put name ((calm.party name).acts t.service ((t.party name).kept t.service a)) := by
            simp only [kept, is, if_true, run_acts, service]
          rw [moved]
          refine ⟨same, ?_, ?_⟩
          · intro other sound
            have apart : other ≠ name := by
              rintro rfl
              cases is.symm.trans sound
            simp only [put, Traffic.move, if_neg apart]
            exact others other sound
          · intro other fails
            simp only [put, Traffic.move]
            by_cases here : other = name
            · rw [if_pos here, if_pos here]
              exact shadows
            · rw [if_neg here, if_neg here]
              exact shadowed other fails

theorem Beside.run {faulty : String → Bool} {t calm : Traffic} (beside : Beside faulty t calm)
    (moves : List Move) : Beside faulty (t.run moves) (calm.run (t.calmed faulty moves)) := by
  induction moves generalizing t calm with
  | nil => exact beside
  | cons m rest ih =>
      rw [calmed, run_append]
      exact ih (beside.move m)

end Traffic

/-- A connection that ends by a fault of its stream or by a crash affects nobody else. In any run,
the service and all other connections come to what they come to in the calm run, in which such
connections only send the requests that they are replied to. There they are idle in the end, and all
that they lack is the last word. A crash changes nothing; it comes of a GET of a registered key, or of
a SET of the log level. -/
theorem faults_stay_private [Patterns] (service : Service) (moves : List Move) :
    let full := Traffic.run { service } moves
    let faulty name := (full.party name).failed
    let calm := Traffic.run { service } (Traffic.calmed { service } faulty moves)
    calm.service = full.service ∧
      (∀ name, faulty name = false → calm.party name = full.party name) ∧
      (∀ name, faulty name → ∃ written word, Connection.LastWord word ∧
        calm.party name = { written } ∧
          (full.party name).written = written ++ word.encode) ∧
      ∀ (s : Service) (r : Request), (s.handle r).1 = .crash → (s.handle r).2 = s ∧ s.Trips r := by
  intro full faulty calm
  have beside : Traffic.Beside faulty full calm :=
    Traffic.Beside.run ⟨rfl, fun _ _ => rfl, fun _ _ => .serves rfl (.fresh {} [])⟩ moves
  refine ⟨beside.service, beside.others, ?_, fun _ _ => Service.handle_crash⟩
  intro name fails
  exact (beside.faulty name fails).of_failed fails

/-- A connection sends malformed bytes behind two requests, another has the store crash at its second
one, and a third goes on between them. -/
def crossedMoves : List Move :=
  let arrive name text := Move.act name (.arrive (Bytes.ofAscii text))
  let turn name := Move.act name .turn
  [arrive "stray" "SET k 5\r\nGET k\r\n*1\r\n:5\r\n", turn "stray", .disturb (.crashReads ["boom"]),
    arrive "unlucky" "SET boom 0\r\nGET boom\r\nGET k\r\n", arrive "third" "GET k\r\n", turn "unlucky",
    turn "unlucky", turn "third", turn "unlucky", turn "stray", arrive "third" "GET k\r\n",
    turn "stray", turn "third"]

theorem crossedMoves_private :
    let service := Service.launch (.ofBatchSize 2) (by decide) Engine.volatile.emptyStore
    let full := Traffic.run { service } crossedMoves
    let faulty name := (full.party name).failed
    let calm := Traffic.run { service } (Traffic.calmed { service } faulty crossedMoves)
    faulty "stray" ∧ faulty "unlucky" ∧
      (full.party "third").written = Bytes.ofAscii "$1\r\n6\r\n$1\r\n8\r\n" ∧
      calm.party "third" = full.party "third" ∧ calm.service = full.service := by
  intro service full faulty calm
  obtain ⟨same, others, -⟩ := faults_stay_private service crossedMoves
  exact ⟨by decide +kernel, by decide +kernel, by decide +kernel,
    others "third" (by decide +kernel), same⟩

end IdService
