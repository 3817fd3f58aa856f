import IdService.Log.Plain
import IdService.Proofs.Run
import IdService.Proofs.Service.Settings
import IdService.Proofs.Store.Counts

/-! # What batches cost

The life of a key falls into epochs. One begins with each successful SET of the key; it ends with the
next one, with the DEL that removes the key, or with the run. The identifiers of an epoch fill
batches, all but the last of them whole, and each batch is one read and one increment of the counter.
So the store is read and written once for every batch that the identifiers of an epoch fill or begin,
and that is how far the counter has moved. A ledger of the epochs is kept beside the run.
-/

namespace IdService

open Wire

/-! ## Epochs -/

/-- An epoch of a key: the value of the SET that began it, the batch size of its allocator, and the
number of successful GETs. -/
structure Epoch where
  value : Int
  batchSize : Int64
  issued : Nat := 0
deriving Repr, DecidableEq

namespace Epoch

/-- The number of its identifiers over the batch size, rounded up. -/
def refills (e : Epoch) : Nat :=
  let batch := e.batchSize.toInt.toNat
  (e.issued + (batch - 1)) / batch

/-- Where the counter of the key stands. -/
def stand (e : Epoch) : Int := e.value + e.refills * e.batchSize.toInt

/-- One more identifier has been issued. -/
def issue (e : Epoch) : Epoch := { e with issued := e.issued + 1 }

variable {e : Epoch}

/-- The refills are the least number of batches that hold the identifiers. -/
theorem refills_eq_iff (positive : 0 < e.batchSize.toInt) {m : Nat} :
    e.refills = m ↔ (e.issued : Int) ≤ m * e.batchSize.toInt ∧
      m * e.batchSize.toInt < e.issued + e.batchSize.toInt := by
  obtain ⟨batch, size⟩ := Int.eq_ofNat_of_zero_le (Int.le_of_lt positive)
  have some : 0 < batch := by omega
  rw [refills, size, Int.toNat_natCast, Nat.div_eq_iff some]
  norm_cast
  omega

theorem refills_bounds (positive : 0 < e.batchSize.toInt) :
    (e.issued : Int) ≤ e.refills * e.batchSize.toInt ∧
      e.refills * e.batchSize.toInt < e.issued + e.batchSize.toInt :=
  (refills_eq_iff positive).mp rfl

theorem refills_begun (positive : 0 < e.batchSize.toInt) (none : e.issued = 0) : e.refills = 0 :=
  (refills_eq_iff positive).mpr (by simp [none, positive])

/-- An identifier from a batch that is not used up needs no other batch. -/
theorem refills_atHand (positive : 0 < e.batchSize.toInt)
    (left : e.issued < e.refills * e.batchSize.toInt) : e.issue.refills = e.refills := by
  have bounds := refills_bounds positive
  refine (refills_eq_iff (e := e.issue) positive).mpr ?_
  simp only [issue]
  omega

theorem refills_renewed (positive : 0 < e.batchSize.toInt)
    (used : e.refills * e.batchSize.toInt ≤ e.issued) : e.issue.refills = e.refills + 1 := by
  have bounds := refills_bounds positive
  refine (refills_eq_iff (e := e.issue) positive).mpr ?_
  simp only [issue]
  push_cast
  rw [Int.add_mul]
  omega

end Epoch

/-! ## The ledger -/

/-- The epochs of a run: those that have not ended by their keys, those that have, each with what was
kept for the counter of its key then, and how often an identifier was refused for a batch that did
not fit. -/
structure Ledger where
  opened : Table String Epoch := {}
  closed : List (Epoch × Option Entry) := []
  overflows : Nat := 0

namespace Ledger

def epochs (l : Ledger) : List Epoch := l.closed.map (·.1) ++ l.opened.entries.map (·.2)

/-- The refills of all epochs. -/
def refills (l : Ledger) : Nat := (l.epochs.map Epoch.refills).sum

/-- The epoch of a key ends, if there is one. -/
def close (l : Ledger) (s : Issuer) (key : String) : Ledger :=
  match l.opened.get? key with
  | none => l
  | some e => { l with
      opened := l.opened.erase key
      closed := (e, s.store.contents.counter? key) :: l.closed }

def closeAll (l : Ledger) (s : Issuer) : List String → Ledger
  | [] => l
  | key :: rest => (l.close s key).closeAll s rest

/-- An epoch begins. A key that has an allocator keeps it; another one is made an allocator of the
batch size in force. -/
def start (l : Ledger) (s : Issuer) (key : String) (value : Int) : Ledger :=
  let batchSize := ((l.opened.get? key).map (·.batchSize)).getD s.registry.batchSize
  { l.close s key with opened := (l.close s key).opened.insert key { value, batchSize } }

/-- The epoch of a key gets an identifier. -/
def issue (l : Ledger) (key : String) : Ledger :=
  match l.opened.get? key with
  | none => l
  | some e => { l with opened := l.opened.insert key e.issue }

/-- What a request means to the ledger: a successful GET or SET of a key, a GET that is refused
for an overflow, or a DEL, which ends the epochs of the keys that it removes. -/
def note [Patterns] (l : Ledger) (s : Service) (r : Request) : Ledger :=
  match r.counterKey? "GET", r.counterKey? "SET" with
  | some key, _ =>
    match (s.handle r).1 with
    | .reply (.bulk _) => l.issue key
    | .reply (.error text) =>
      if text = (CounterFault.overflow key).message then { l with overflows := l.overflows + 1 }
      else l
    | _ => l
  | none, some key =>
    match (s.handle r).1, (r.arg? 1).bind integer? with
    | .reply (.status _), some value => l.start s.issuer key value
    | _, _ => l
  | none, none =>
    if r.name = "DEL" then
      l.closeAll s.issuer
        (l.opened.keys.filter fun key => !(s.handle r).2.issuer.registry.contains key)
    else l

end Ledger

/-- The ledger of a run of requests. -/
def Service.ledger [Patterns] (s : Service) (l : Ledger) : List Request → Ledger
  | [] => l
  | r :: rest => (s.handle r).2.ledger (l.note s r) rest

namespace Ledger

variable {l : Ledger} {s s' : Issuer} {key : String} {e : Epoch}

theorem refills_eq (l : Ledger) :
    l.refills = (l.closed.map (·.1.refills)).sum + l.opened.total Epoch.refills := by
  simp only [refills, epochs, List.map_append, List.map_map, List.sum_append, Table.total]
  rfl

theorem refills_close (l : Ledger) (s : Issuer) (key : String) :
    (l.close s key).refills = l.refills := by
  have total := l.opened.total_erase Epoch.refills key
  unfold close
  rw [Table.weight] at total
  cases found : l.opened.get? key with
  | none => rfl
  | some e =>
      rw [found] at total
      simp only [refills_eq, List.map_cons, List.sum_cons]
      simp only [Option.map_some, Option.getD_some] at total
      omega

theorem issue_eq (opened : l.opened.get? key = some e) :
    l.issue key = { l with opened := l.opened.insert key e.issue } := by
  simp only [issue, opened]

theorem refills_issue (opened : l.opened.get? key = some e) :
    (l.issue key).refills + e.refills = l.refills + e.issue.refills := by
  have total := l.opened.total_insert Epoch.refills key e.issue
  rw [Table.weight, opened, Option.map_some, Option.getD_some] at total
  rw [issue_eq opened]
  simp only [refills_eq]
  omega

theorem opened_close (l : Ledger) (s : Issuer) (key k : String) :
    (l.close s key).opened.get? k = if k = key then none else l.opened.get? k := by
  unfold close
  cases found : l.opened.get? key with
  | none =>
      by_cases here : k = key
      · rw [if_pos here, here, found]
      · rw [if_neg here]
  | some e => exact Table.get?_erase ..

theorem refills_start {value : Int} {batchSize : Int64}
    (size : ((l.opened.get? key).map (·.batchSize)).getD s.registry.batchSize = batchSize)
    (positive : 0 < batchSize.toInt) : (l.start s key value).refills = l.refills := by
  have begun := Epoch.refills_begun (e := { value, batchSize }) positive rfl
  have total := (l.close s key).opened.total_insert Epoch.refills key { value, batchSize }
  have ended := (l.opened_close s key key).trans (if_pos rfl)
  rw [Table.weight, ended, Option.map_none, Option.getD_none, begun] at total
  have before := refills_close l s key
  unfold start
  rw [size]
  simp only [refills_eq] at before ⊢
  omega

theorem closed_close {x : Epoch × Option Entry} (ended : x ∈ (l.close s key).closed) :
    x ∈ l.closed ∨
      ∃ e, l.opened.get? key = some e ∧ x = (e, s.store.contents.counter? key) := by
  unfold close at ended
  cases found : l.opened.get? key with
  | none =>
      rw [found] at ended
      exact .inl ended
  | some e =>
      rw [found] at ended
      rcases List.mem_cons.mp ended with rfl | before
      · exact .inr ⟨e, rfl, rfl⟩
      · exact .inl before

theorem overflows_close (l : Ledger) (s : Issuer) (key : String) :
    (l.close s key).overflows = l.overflows := by
  unfold close
  split <;> rfl

end Ledger

/-! ## Where a key stands -/

namespace Epoch

/-- The epoch tells where the records of its key are. -/
structure Tells (e : Epoch) (h : Holding) : Prop where
  positive : 0 < e.batchSize.toInt
  records : ∃ a n, h = ⟨some a, some (.value n), true⟩ ∧ a.batchSize = e.batchSize ∧
    a.segment.reserved = n ∧ n.toInt = e.stand ∧ a.segment.current.toInt = e.value + e.issued

/-- The counter that an epoch has left. -/
def Leaves (e : Epoch) (counter : Option Entry) : Prop :=
  ∃ n, counter = some (.value n) ∧ n.toInt = e.stand

variable {e : Epoch} {h h' : Holding} {key : String}

theorem Tells.leaves (tells : e.Tells h) : e.Leaves h.counter? := by
  obtain ⟨a, n, rfl, -, -, stands, -⟩ := tells.records
  exact ⟨n, rfl, stands⟩

theorem tells_begun {a : Allocator} (positive : 0 < a.batchSize.toInt) (value : Int64) :
    Tells { value := value.toInt, batchSize := a.batchSize }
      ⟨some { a with segment := ⟨value, value⟩ }, some (.value value), true⟩ := by
  have none := refills_begun (e := { value := value.toInt, batchSize := a.batchSize }) positive rfl
  exact ⟨positive, _, value, rfl, rfl, rfl, by simp [stand, none], by simp⟩

/-- An identifier at hand leaves the refills as they are, and one from a new batch is one refill
more. -/
theorem Tells.issue (tells : e.Tells h) {id : Int}
    (step : Holding.Step key (some (.issued id)) h h') :
    e.issue.Tells h' ∧ ∃ a, h.allocator? = some a ∧
      (a.segment.current.toInt < a.segment.reserved.toInt ∧ e.issue.refills = e.refills ∨
        a.segment.reserved.toInt ≤ a.segment.current.toInt ∧
          e.issue.refills = e.refills + 1) := by
  obtain ⟨positive, a, n, rfl, size, rfl, stands, current⟩ := tells
  have value : e.issue.value = e.value := rfl
  have batchSize : e.issue.batchSize = e.batchSize := rfl
  have issued : (e.issue.issued : Int) = e.issued + 1 := by simp [Epoch.issue]
  cases step with
  | issued _ _ left =>
      have same : e.issue.refills = e.refills := refills_atHand positive (by unfold stand at *; omega)
      refine ⟨⟨positive, _, _, rfl, size, rfl, ?_, ?_⟩, a, rfl, .inl ⟨left, same⟩⟩
      · rw [stands, stand, stand, same, value, batchSize]
      · have next := Counter.toInt_succ left
        dsimp only
        omega
  | renewed _ _ sum used total =>
      have more : e.issue.refills = e.refills + 1 :=
        refills_renewed positive (by unfold stand at *; omega)
      have bounds := refills_bounds positive
      refine ⟨⟨positive, _, sum, rfl, size, rfl, ?_, ?_⟩, a, rfl, .inr ⟨used, more⟩⟩
      · rw [stand] at stands
        rw [stand, more, value, batchSize, total, stands, size]
        push_cast
        rw [Int.add_mul]
        omega
      · have room : a.segment.reserved.toInt < sum.toInt := by
          rw [total, size]
          omega
        have next := Counter.toInt_succ room
        rw [stand] at stands
        dsimp only
        omega

end Epoch

/-! ## One request -/

namespace Ledger

/-- The epochs tell where the keys stand, and those that have ended told it when they did. -/
structure Tells (l : Ledger) (s : Issuer) : Prop where
  opened : ∀ key e, l.opened.get? key = some e → e.Tells (s.holding key)
  closed : ∀ x ∈ l.closed, x.1.Leaves x.2

/-- The ledger accounts for all that a server has that is told of no failures: for every key that
is there, and for every read and increment. -/
structure Accounts (l : Ledger) (s : Issuer) : Prop extends l.Tells s where
  absent : ∀ key, l.opened.get? key = none → s.holding key = {}
  tally : s.store.tally? = some ⟨l.refills + l.overflows, l.refills⟩
  sound : s.Sound
  faultless : s.store.contents.Faultless

variable {l : Ledger} {s s' : Issuer} {key : String} {number : Nat} {a : Allocator}

theorem Tells.close (tells : l.Tells s) (key : String) : (l.close s key).Tells s where
  opened := by
    intro k e found
    rw [opened_close] at found
    split at found
    · cases found
    · exact tells.opened k e found
  closed := by
    intro x ended
    rcases closed_close ended with before | ⟨e, found, rfl⟩
    · exact tells.closed x before
    · exact (tells.opened key e found).leaves

theorem Tells.closeAll (tells : l.Tells s) (keys : List String) :
    (l.closeAll s keys).Tells s ∧ (l.closeAll s keys).refills = l.refills ∧
      (l.closeAll s keys).overflows = l.overflows ∧
      ∀ k, (l.closeAll s keys).opened.get? k = if k ∈ keys then none else l.opened.get? k := by
  induction keys generalizing l with
  | nil => exact ⟨tells, rfl, rfl, fun k => (if_neg List.not_mem_nil).symm⟩
  | cons key rest ih =>
      obtain ⟨tells', refills, overflows, opened⟩ := ih (tells.close key)
      refine ⟨tells', refills.trans (refills_close l s key),
        overflows.trans (overflows_close l s key), ?_⟩
      intro k
      rw [closeAll, opened, opened_close]
      by_cases here : k = key <;> simp [here]

namespace Accounts

theorem keeps (accounts : l.Accounts s) (keeps : s.Keeps s') (overflows : Nat)
    (tally : s'.store.tally? = some ⟨l.refills + overflows, l.refills⟩) :
    ({ l with overflows } : Ledger).Accounts s' where
  opened := by
    intro key e found
    rw [keeps.holdings]
    exact accounts.opened key e found
  closed := accounts.closed
  absent := by
    intro key none
    rw [keeps.holdings]
    exact accounts.absent key none
  tally := tally
  sound := keeps.sound
  faultless := keeps.faultless accounts.faultless

theorem stays (accounts : l.Accounts s) (keeps : s.Keeps s')
    (tally : s'.store.tally? = s.store.tally?) : l.Accounts s' :=
  accounts.keeps keeps l.overflows (tally.trans accounts.tally)

theorem takes {l' : Ledger} {mark : Option Mark} {e : Epoch} (accounts : l.Accounts s)
    (takes : s.Takes key mark s') (own : l'.opened.get? key = some e)
    (tells : e.Tells (s'.holding key))
    (others : ∀ k, k ≠ key → l'.opened.get? k = l.opened.get? k)
    (closed : ∀ x ∈ l'.closed, x.1.Leaves x.2)
    (tally : s'.store.tally? = some ⟨l'.refills + l'.overflows, l'.refills⟩) : l'.Accounts s' where
  opened := by
    intro k e' found
    by_cases here : k = key
    · rw [here, own] at found
      cases found
      exact here ▸ tells
    · rw [others k here] at found
      rw [takes.others k here]
      exact accounts.opened k e' found
  closed := closed
  absent := by
    intro k none
    by_cases here : k = key
    · rw [here, own] at none
      cases none
    · rw [others k here] at none
      rw [takes.others k here]
      exact accounts.absent k none
  tally := tally
  sound := takes.sound
  faultless := takes.faultless accounts.faultless

theorem opened_of_found (accounts : l.Accounts s) (found : s.find? key = some (number, a)) :
    ∃ e, l.opened.get? key = some e := by
  cases opened : l.opened.get? key with
  | some e => exact ⟨e, rfl⟩
  | none =>
      obtain ⟨n, is⟩ := Issuer.holding_of_found accounts.sound found
      rw [accounts.absent key opened] at is
      cases is

theorem issueNext (accounts : l.Accounts s) (found : s.find? key = some (number, a)) :
    (∃ id, (s.issueNext number a).1 = .ok id ∧ (l.issue key).Accounts (s.issueNext number a).2) ∨
      ((s.issueNext number a).1 = .error (.fault (.overflow key)) ∧
        ({ l with overflows := l.overflows + 1 } : Ledger).Accounts (s.issueNext number a).2) := by
  obtain ⟨e, opened⟩ := accounts.opened_of_found found
  obtain ⟨n, is⟩ := Issuer.holding_of_found accounts.sound found
  have tally := accounts.tally
  rcases Issuer.issueNext_spec accounts.sound found with
    ⟨id, issued, takes⟩ | ⟨halt, refused, keeps, used, reserves⟩
  · left
    refine ⟨id, issued, ?_⟩
    obtain ⟨tells, b, isAllocator, cost⟩ := (accounts.opened key e opened).issue takes.step
    obtain rfl : a = b := Option.some.inj ((congrArg Holding.allocator? is).symm.trans isAllocator)
    have grown := refills_issue opened
    have tallied : (s.issueNext number a).2.store.tally? =
        some ⟨(l.issue key).refills + l.overflows, (l.issue key).refills⟩ := by
      rcases cost with ⟨left, same⟩ | ⟨used, more⟩
      · have free : (s.issueNext number a).2.store.tally? = s.store.tally? :=
          Allocator.tally?_atHand left
        have same' : (l.issue key).refills = l.refills := by omega
        rw [free, tally, same']
      · have paid : (s.issueNext number a).2.store.tally? =
            s.store.tally?.map fun t => t.read.increment := Allocator.tally?_renewed used issued
        have more' : (l.issue key).refills = l.refills + 1 := by omega
        rw [paid, tally, more', Nat.add_right_comm]
        rfl
    rw [issue_eq opened] at tallied ⊢
    refine accounts.takes takes ?_ tells ?_ accounts.closed tallied
    · rw [Table.get?_insert, if_pos rfl]
    · intro k apart
      rw [Table.get?_insert, if_neg apart]
  · right
    have isKey := accounts.sound.numbered.key_eq found
    have held : s.store.contents.counter? a.key = some (.value n) :=
      isKey ▸ congrArg Holding.counter? is
    obtain ⟨rfl, outside⟩ := reserves.overflow_of_error accounts.faultless held
    have reads : a.key ∉ s.store.contents.crashing := by
      rw [accounts.faultless.reads]
      exact List.not_mem_nil
    have paid : (s.issueNext number a).2.store.tally? = s.store.tally?.map Tally.read :=
      Allocator.tally?_overflow used reads held outside
    refine ⟨by rw [refused, isKey], accounts.keeps keeps _ ?_⟩
    rw [paid, tally]
    rfl

theorem moveKey (accounts : l.Accounts s) (counterKey : Command.IsCounterKey key)
    (value : Int64) :
    (l.start s key value.toInt).Accounts (Command.moveKey s key value).2 := by
  obtain ⟨-, takes⟩ := Issuer.moveKey_takes accounts.sound counterKey value
  have after := Issuer.holding_moveKey accounts.sound.numbered accounts.sound.batchSize
    counterKey.1 value key
  have ended := accounts.toTells.close key
  have size : (s.allocatorFor key).batchSize =
      ((l.opened.get? key).map (·.batchSize)).getD s.registry.batchSize := by
    unfold Issuer.allocatorFor
    cases opened : l.opened.get? key with
    | none =>
        rw [accounts.absent key opened]
        rfl
    | some e =>
        obtain ⟨-, a, n, is, size, -⟩ := accounts.opened key e opened
        rw [is]
        exact size
  have positive := (accounts.sound.allocatorFor key).2
  have tells := Epoch.tells_begun positive value
  rw [if_pos rfl] at after
  rw [← after] at tells
  refine accounts.takes takes ?_ tells ?_ ended.closed ?_
  · rw [start, Table.get?_insert, if_pos rfl, size]
  · intro k apart
    rw [start, Table.get?_insert, if_neg apart, opened_close, if_neg apart]
  · rw [refills_start size.symm positive, Issuer.tally?_moveKey, accounts.tally]
    simp only [start, overflows_close]

theorem deleteKeys (accounts : l.Accounts s) (args : List Bytes) :
    let s' := (Command.deleteKeys s 0 args).2
    (l.closeAll s (l.opened.keys.filter fun key => !s'.registry.contains key)).Accounts s' := by
  intro s'
  have follows := (Command.deleteKeys_spec accounts.sound 0 args).1
  have registered : ∀ k, s'.registry.contains k = (s'.holding k).allocator?.isSome :=
    Issuer.contains_eq follows.sound.numbered
  have removed : ∀ k, k ∈ (l.opened.keys.filter fun key => !s'.registry.contains key) ↔
      l.opened.contains k ∧ (s'.holding k).allocator? = none := by
    intro k
    rw [List.mem_filter, Table.mem_keys, registered]
    simp
  obtain ⟨tells, refills, overflows, opened⟩ :=
    accounts.closeAll (l.opened.keys.filter fun key => !s'.registry.contains key)
  generalize l.closeAll s _ = l' at *
  refine { opened := ?_, closed := tells.closed, absent := ?_, tally := ?_,
           sound := follows.sound, faultless := follows.faultless accounts.faultless }
  · intro k e found
    rw [opened] at found
    split at found
    · cases found
    · rename_i left
      have before := accounts.opened k e found
      rcases (follows.steps k).last_none with same | gone
      · rw [same]
        exact before
      · have there : l.opened.contains k := by rw [Table.contains, found]; rfl
        exact absurd ((removed k).mpr ⟨there, by rw [gone]⟩) left
  · intro k none
    rw [opened] at none
    split at none
    · rename_i member
      rcases (follows.steps k).last_none with same | gone
      · obtain ⟨there, unregistered⟩ := (removed k).mp member
        obtain ⟨e, found⟩ := Option.isSome_iff_exists.mp there
        obtain ⟨-, a, n, is, -⟩ := accounts.opened k e found
        rw [same, is] at unregistered
        cases unregistered
      · exact gone
    · have step := follows.steps k
      rw [accounts.absent k none] at step
      exact step.absent
  · rw [refills, overflows, Issuer.tally?_deleteKeys, accounts.tally]

end Accounts

/-! ## Requests -/

variable [Patterns] {t : Service} {r : Request}

namespace Accounts

theorem get (accounts : l.Accounts t.issuer) (about : r.counterKey? "GET" = some key) :
    (l.note t r).Accounts (t.handle r).2.issuer := by
  obtain ⟨named, first, counter⟩ := Request.counterKey?_eq_some.mp about
  have performs : t.perform r = t.get r := by simp only [Service.perform, named]
  simp only [note, about, Service.handle_eq, performs, Service.get, first, counter]
  cases found : t.issuer.find? key with
  | none => exact accounts
  | some entry =>
      obtain ⟨number, a⟩ := entry
      have issues := accounts.issueNext found
      dsimp only
      rcases issuing : t.issuer.issueNext number a with ⟨result, issuer⟩
      rw [issuing] at issues
      dsimp only at issues
      rcases issues with ⟨id, rfl, after⟩ | ⟨rfl, after⟩
      · exact after
      · have text : CommandFault.message (.counter (.overflow key)) =
            CounterFault.message (.overflow key) := rfl
        generalize CounterFault.message (.overflow key) = overflow at text ⊢
        simp only [CommandHalt.ofHalt, Answer.ofResult, text, if_true]
        exact after

theorem set (accounts : l.Accounts t.issuer) (about : r.counterKey? "SET" = some key) :
    (l.note t r).Accounts (t.handle r).2.issuer := by
  obtain ⟨named, first, counter⟩ := Request.counterKey?_eq_some.mp about
  have other : r.counterKey? "GET" = none := if_neg (by simp [named])
  have performs : t.perform r = t.set r := by simp only [Service.perform, named]
  simp only [note, about, other, Service.handle_eq, performs, Service.set, first, counter]
  cases argument : r.arg? 1 with
  | none => exact accounts
  | some raw =>
      dsimp only
      cases read : integer? raw with
      | none => exact accounts
      | some value =>
          have counterKey : Command.IsCounterKey key := ⟨Command.firstKey_ne_empty first, counter⟩
          obtain ⟨moves, -⟩ := Issuer.moveKey_takes accounts.sound counterKey (Int64.ofInt value)
          have after := accounts.moveKey counterKey (Int64.ofInt value)
          rw [Counter.toInt_ofInt (contains_of_integer? read)] at after
          dsimp only
          rcases moving : Command.moveKey t.issuer key (Int64.ofInt value) with ⟨result, issuer⟩
          rw [moving] at moves after
          obtain rfl := moves
          simp only [Option.bind_some, read, Answer.ofResult, Reply.ok]
          exact after

theorem del (accounts : l.Accounts t.issuer) (named : r.name = "DEL") :
    (l.note t r).Accounts (t.handle r).2.issuer := by
  have noGet : r.counterKey? "GET" = none := if_neg (by simp [named])
  have noSet : r.counterKey? "SET" = none := if_neg (by simp [named])
  have performs : t.perform r = t.del r := by simp only [Service.perform, named]
  have deletes : (t.del r).2.issuer = (Command.deleteKeys t.issuer 0 r.args).2 := by
    rw [Service.del_eq]
  simp only [note, noGet, noSet, named, if_true, Service.handle_eq, performs, deletes]
  exact accounts.deleteKeys r.args

theorem setAside (accounts : l.Accounts t.issuer) (named : r.name = "SET")
    (noSet : r.counterKey? "SET" = none) : l.Accounts (t.set r).2.issuer := by
  have ways := t.set_cases r
  generalize t.set r = outcome at ways
  cases ways with
  | badKey | noValue | notText | notInteger => exact accounts
  | setting key name text =>
      exact accounts.stays (Service.writeSetting_keeps accounts.sound name text)
        (t.tally?_writeSetting name text)
  | moved key raw value first counter =>
      rw [Request.counterKey?_eq_some.mpr ⟨named, first, counter⟩] at noSet
      cases noSet

theorem aside (accounts : l.Accounts t.issuer) (noGet : r.counterKey? "GET" = none)
    (noSet : r.counterKey? "SET" = none) (noDel : r.name ≠ "DEL") :
    l.Accounts (t.handle r).2.issuer := by
  rw [Service.handle_eq]
  unfold Service.perform
  split
  · rename_i named
    have same : (t.get r).2 = t := by
      have gets := Service.get_gets accounts.sound r
      generalize (t.get r).1 = result, (t.get r).2 = t' at gets
      cases gets with
      | badKey | setting | absent => rfl
      | issued key _ _ first counter | refused key _ _ _ _ first counter =>
          rw [Request.counterKey?_eq_some.mpr ⟨named, first, counter⟩] at noGet
          cases noGet
    rw [same]
    exact accounts
  · exact accounts.setAside ‹_› noSet
  · rw [Service.exist_eq]
    exact accounts
  · exact absurd ‹_› noDel
  · exact accounts
  · exact accounts
  · exact accounts

theorem handle (accounts : l.Accounts t.issuer) (r : Request) :
    (l.note t r).Accounts (t.handle r).2.issuer := by
  cases noGet : r.counterKey? "GET" with
  | some key => exact accounts.get noGet
  | none =>
      cases noSet : r.counterKey? "SET" with
      | some key => exact accounts.set noSet
      | none =>
          by_cases named : r.name = "DEL"
          · exact accounts.del named
          · simp only [note, noGet, noSet, if_neg named]
            exact accounts.aside noGet noSet named

/-! ## Runs -/

theorem run (accounts : l.Accounts t.issuer) (requests : List Request) :
    (t.ledger l requests).Accounts (t.run (requests.map .request)).2.issuer := by
  induction requests generalizing l t with
  | nil => exact accounts
  | cons r rest ih => exact ih (accounts.handle r)

theorem launch {c : Configuration} (runnable : 0 < c.batchSize.toInt) :
    Accounts {} (Service.launch c runnable Engine.volatile.emptyStore).issuer := by
  obtain ⟨empty, sound⟩ := Engine.volatile.launch_sound runnable
  refine { opened := ?_, closed := ?_, absent := fun key _ => empty key, tally := ?_,
           sound, faultless := Engine.volatile.launch_faultless runnable }
  · intro key e found
    cases found
  · intro x ended
    cases ended
  · rw [Service.tally?_launch runnable]
    rfl

end Accounts
end Ledger

/-- Reads and writes of counters are amortised exactly. In a run from an empty store that is told of
no failures, the increments come to the number of identifiers over the batch size, rounded up, summed
over all epochs; so do the reads, but for one for each GET that is refused for an overflow. And at
the end of an epoch, be it that of the run, the counter has moved by that many batches. -/
theorem refills_amortised [Patterns] {c : Configuration} (runnable : 0 < c.batchSize.toInt)
    (requests : List Request) :
    let l := (Service.launch c runnable Engine.volatile.emptyStore).ledger {} requests
    let final := (Engine.volatile.run c runnable (requests.map .request)).2.issuer.store
    let refills := (l.epochs.map Epoch.refills).sum
    (∃ st, final = .volatile st ∧ st.calls.increments = refills ∧
        st.calls.reads = refills + l.overflows) ∧
      (∀ key e, l.opened.get? key = some e → e.Leaves (final.contents.counter? key)) ∧
      ∀ e counter, (e, counter) ∈ l.closed → e.Leaves counter := by
  intro l final refills
  have accounts : l.Accounts (Engine.volatile.run c runnable (requests.map .request)).2.issuer :=
    (Ledger.Accounts.launch runnable).run requests
  refine ⟨?_, fun key e opened => (accounts.opened key e opened).leaves,
    fun e counter ended => accounts.closed (e, counter) ended⟩
  have tally : final.tally? = some ⟨refills + l.overflows, refills⟩ := accounts.tally
  generalize final = store at tally
  cases store with
  | persistent st => cases tally
  | volatile st =>
      obtain ⟨reads, increments⟩ := Tally.mk.inj (Option.some.inj tally)
      exact ⟨st, rfl, increments, reads⟩

/-- Batches of three, and of two for keys that come later; one key is moved inside a batch, deleted
and made again, and another one has no room for a batch. -/
def batchedRequests : List Request :=
  let request command args : Request := ⟨Text.utf8 command, args.map Text.utf8⟩
  [request "SET" ["k", "10"], request "GET" ["k"], request "GET" ["k"], request "GET" ["k"],
    request "GET" ["k"], request "SET" ["cfg.batch_size", "2"], request "SET" ["k", "20"],
    request "GET" ["k"], request "SET" ["end", "9223372036854775806"], request "GET" ["end"],
    request "DEL" ["k"], request "SET" ["k", "0"], request "GET" ["k"], request "GET" ["k"],
    request "GET" ["k"]]

/-- Two refills, one and two, and a read for the key without room. -/
theorem batchedRequests_amortised :
    let final := (Engine.volatile.run (.ofBatchSize 3) (by decide)
      (batchedRequests.map .request)).2.issuer.store
    (∃ st, final = .volatile st ∧ st.calls.increments = 5 ∧ st.calls.reads = 6) ∧
      final.contents.counter? "k" = some (.value 4) := by
  intro final
  obtain ⟨⟨st, is, increments, reads⟩, -, -⟩ :=
    refills_amortised (c := .ofBatchSize 3) (by decide) batchedRequests
  refine ⟨⟨st, is, increments.trans (by decide +kernel), reads.trans (by decide +kernel)⟩, ?_⟩
  decide +kernel

end IdService
