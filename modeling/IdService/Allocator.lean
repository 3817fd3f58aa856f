import IdService.Store

/-!
# Allocators

An allocator issues the identifiers of one key. It reserves a batch of them in the store at a time
and issues these from memory; what it has reserved and not issued when it is forgotten is skipped.
-/

namespace IdService

/-- The identifiers an allocator has at hand: `current` was issued last, `reserved` is the last one
that the store has set aside. -/
structure Segment where
  current : Int64 := 0
  reserved : Int64 := 0
deriving Repr, DecidableEq

/-- Whether no identifier is left. -/
def Segment.isExhausted (s : Segment) : Bool := s.reserved ≤ s.current

/-- An allocator of the identifiers of one key. -/
structure Allocator where
  key : String
  batchSize : Int64
  segment : Segment := {}
deriving Repr, DecidableEq

namespace Allocator

def make (key : String) (batchSize : Int64) : Except CounterFault Allocator :=
  if key.isEmpty then .error .emptyKey
  else if batchSize ≤ 0 then .error (.batchSize batchSize)
  else .ok { key, batchSize }

/-- Reserves a batch: the counter is read and moved on, and the identifiers in between are those at
hand. -/
def reserveBatch (a : Allocator) (st : Store) : Except Halt Segment × Store :=
  match st.readCounter a.key with
  | (.error halt, st) => (.error halt, st)
  | (.ok base, st) =>
    match Counter.add? base a.batchSize with
    | none => (.error (.fault (.overflow a.key)), st)
    | some reserved =>
      match st.advance a.key a.batchSize with
      | (.error halt, st) => (.error halt, st)
      | (.ok (), st) => (.ok ⟨base, reserved⟩, st)

/-- Issues the identifier after `s.current`. -/
def issue (a : Allocator) (s : Segment) : Int64 × Allocator :=
  let id := s.current + 1
  (id, { a with segment := { s with current := id } })

/-- Issues the next identifier, from a new batch if none is at hand. -/
def issueNext (a : Allocator) (st : Store) : Except Halt Int64 × Allocator × Store :=
  if a.segment.isExhausted then
    match a.reserveBatch st with
    | (.error halt, st) => (.error halt, a, st)
    | (.ok segment, st) =>
      let (id, a) := a.issue segment
      (.ok id, a, st)
  else
    let (id, a) := a.issue a.segment
    (.ok id, a, st)

/-- Makes the counter anew if there is none, and overwrites it. -/
def overwrite (a : Allocator) (value : Int64) (st : Store) :
    Except Halt Unit × Allocator × Store :=
  match (st.ensureCounter a.key).overwriteCounter a.key value with
  | (.error halt, st) => (.error halt, a, st)
  | (.ok (), st) => (.ok (), { a with segment := ⟨value, value⟩ }, st)

/-- Moves the counter to `value`, so that the next identifier is the one after it. By force the
counter is dropped first. -/
def moveTo (a : Allocator) (value : Int64) (force : Bool) (st : Store) :
    Except Halt Unit × Allocator × Store :=
  if force then
    match st.removeCounter a.key with
    | (.error halt, st) => (.error halt, a, st)
    | (.ok (), st) => a.overwrite value st
  else a.overwrite value st

def retire (a : Allocator) (st : Store) : Except Halt Unit × Store := st.removeCounter a.key

end Allocator
end IdService
