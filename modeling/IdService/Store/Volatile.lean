import IdService.Counter.Fault
import IdService.Counter.Value
import IdService.Table

/-!
# The memory engine

A store that forgets everything at its end. It counts the calls that succeed, can be told to fail
the next increments or drops, and may hold keys whose counters crash when they are read.
-/

namespace IdService

/-- How many calls of each kind have succeeded. -/
structure CallCounts where
  creates : Nat := 0
  reads : Nat := 0
  increments : Nat := 0
  sets : Nat := 0
  drops : Nat := 0
deriving Repr, DecidableEq

structure VolatileStore where
  counters : Table String Int64 := {}
  known : Table String Unit := {}
  settings : Table String String := {}
  calls : CallCounts := {}
  /-- How many increments to come will fail. -/
  failingIncrements : Nat := 0
  /-- How many drops to come will fail. -/
  failingDrops : Nat := 0
  /-- The keys whose counters cannot be read without a crash. -/
  crashing : List String := []
deriving Repr, DecidableEq

namespace VolatileStore

def ensureCounter (st : VolatileStore) (key : String) : VolatileStore :=
  { st with
    counters := if st.counters.contains key then st.counters else st.counters.insert key 0
    calls := { st.calls with creates := st.calls.creates + 1 } }

def readCounter (st : VolatileStore) (key : String) : Except Halt Int64 × VolatileStore :=
  if key ∈ st.crashing then (.error .crash, st)
  else match st.counters.get? key with
    | none => (.error (.fault (.missing key)), st)
    | some n => (.ok n, { st with calls := { st.calls with reads := st.calls.reads + 1 } })

/-- Adds to a counter. A failure that was asked for comes first. -/
def advance (st : VolatileStore) (key : String) (delta : Int64) :
    Except Halt Unit × VolatileStore :=
  match st.failingIncrements with
  | failing + 1 =>
    (.error (.fault (.unavailable (.increment key))), { st with failingIncrements := failing })
  | 0 =>
    match st.counters.get? key with
    | none => (.error (.fault (.missing key)), st)
    | some n =>
      match Counter.add? n delta with
      | none => (.error (.fault (.overflow key)), st)
      | some sum =>
        (.ok (), { st with
          counters := st.counters.insert key sum
          calls := { st.calls with increments := st.calls.increments + 1 } })

def overwriteCounter (st : VolatileStore) (key : String) (value : Int64) :
    Except Halt Unit × VolatileStore :=
  if st.counters.contains key then
    (.ok (), { st with
      counters := st.counters.insert key value
      calls := { st.calls with sets := st.calls.sets + 1 } })
  else (.error (.fault (.missing key)), st)

/-- Removes a counter, if there is one. A failure that was asked for comes first. -/
def removeCounter (st : VolatileStore) (key : String) : Except Halt Unit × VolatileStore :=
  match st.failingDrops with
  | failing + 1 => (.error (.fault (.unavailable (.drop key))), { st with failingDrops := failing })
  | 0 =>
    (.ok (), { st with
      counters := st.counters.erase key
      calls := { st.calls with drops := st.calls.drops + 1 } })

end VolatileStore
end IdService
