import IdService.Allocator

/-!
# The registry

Which keys identifiers are issued for. Allocators are told apart by a number, so that one that has
been taken out of the registry is still the same allocator for whoever holds it, and a new one for
the same key is another.
-/

namespace IdService

/-- The keys that are registered, each with the number of its allocator, and the batch size that
new allocators get. -/
structure Registry where
  batchSize : Int64
  registered : Table String Nat := {}
deriving Repr, DecidableEq

namespace Registry

def make (batchSize : Int64) : Except CounterFault Registry :=
  if batchSize ≤ 0 then .error (.batchSize batchSize) else .ok { batchSize }

/-- Changes the batch size of allocators to come. -/
def withBatchSize (r : Registry) (batchSize : Int64) : Except CounterFault Registry :=
  if batchSize ≤ 0 then .error (.batchSize batchSize) else .ok { r with batchSize }

def get? (r : Registry) (key : String) : Option Nat := r.registered.get? key

def contains (r : Registry) (key : String) : Bool := r.registered.contains key

def remove (r : Registry) (key : String) : Registry :=
  { r with registered := r.registered.erase key }

/-- The registered keys, in the order of their bytes. -/
def keys (r : Registry) : List String := r.registered.keys

end Registry

/-- All that identifiers are issued from: the store, the allocators made since the start, each at
its number, and the registry. -/
structure Issuer where
  store : Store
  allocators : Array Allocator := #[]
  registry : Registry
deriving Repr, DecidableEq

namespace Issuer

def allocator? (s : Issuer) (number : Nat) : Option Allocator := s.allocators[number]?

/-- The allocator that is registered for a key, behind its number. -/
def find? (s : Issuer) (key : String) : Option (Nat × Allocator) := do
  let number ← s.registry.get? key
  let a ← s.allocator? number
  return (number, a)

/-- Makes an allocator that is not registered, and gives it behind its number. -/
def makeAllocator (s : Issuer) (key : String) (batchSize : Int64) :
    Except CounterFault (Nat × Allocator) × Issuer :=
  match Allocator.make key batchSize with
  | .error fault => (.error fault, s)
  | .ok a => (.ok (s.allocators.size, a), { s with allocators := s.allocators.push a })

/-- Replaces an allocator and the store that it has worked on. -/
def update (s : Issuer) (number : Nat) (a : Allocator) (store : Store) : Issuer :=
  { s with store, allocators := s.allocators.setIfInBounds number a }

def issueNext (s : Issuer) (number : Nat) (a : Allocator) : Except Halt Int64 × Issuer :=
  let (result, a, store) := a.issueNext s.store
  (result, s.update number a store)

def moveTo (s : Issuer) (number : Nat) (a : Allocator) (value : Int64) (force : Bool) :
    Except Halt Unit × Issuer :=
  let (result, a, store) := a.moveTo value force s.store
  (result, s.update number a store)

def retire (s : Issuer) (a : Allocator) : Except Halt Unit × Issuer :=
  let (result, store) := a.retire s.store
  (result, { s with store })

/-- Registers a new allocator, of the batch size given, for a key. -/
def register (s : Issuer) (key : String) (batchSize : Int64) :
    Except CounterFault (Nat × Allocator) × Issuer :=
  match s.makeAllocator key batchSize with
  | (.error fault, s) => (.error fault, s)
  | (.ok (number, a), s) =>
    let registry := { s.registry with registered := s.registry.registered.insert key number }
    (.ok (number, a), { s with registry })

/-- The allocator of a key behind its number; the key is registered if it was not. -/
def obtain (s : Issuer) (key : String) : Except CounterFault (Nat × Allocator) × Issuer :=
  match s.find? key with
  | some found => (.ok found, s)
  | none => s.register key s.registry.batchSize

/-- Registers those of some keys that are not registered, each with a counter, and counts them. -/
def restore (s : Issuer) (batchSize : Int64) (count : Nat) :
    List String → Except CounterFault Nat × Issuer
  | [] => (.ok count, s)
  | key :: rest =>
    if key.isEmpty || s.registry.contains key then s.restore batchSize count rest
    else
      match ({ s with store := s.store.ensureCounter key } : Issuer).register key batchSize with
      | (.error fault, s) => (.error fault, s)
      | (.ok _, s) => s.restore batchSize (count + 1) rest

/-- Registers the known keys of the store. A counter that went missing is made anew; one that is
there is kept, and its next identifier comes from a new batch. -/
def restoreKnown (s : Issuer) : Except CounterFault Nat × Issuer :=
  s.restore s.registry.batchSize 0 s.store.knownKeys

end Issuer
end IdService
