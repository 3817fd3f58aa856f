import IdService.Wire.Fault

/-!
# Feeding a decoder

A decoder holds a buffer of received bytes. Asked for its next item it gives one, waits for more
bytes, or fails; each item takes at least one byte from the buffer, so asking again and again ends.
-/

namespace IdService.Wire

/-- What a decoder gives when it is asked for its next item. -/
inductive Outcome (α : Type) where
  /-- The buffer holds no whole frame yet. -/
  | waiting
  | item (a : α)
  | failed (fault : Fault)
deriving Repr, DecidableEq

/-- What came of asking a decoder until it waits or fails: the items in order, the fault if there
was one, and the decoder afterwards. -/
structure Drained (σ α : Type) where
  items : List α
  fault : Option Fault
  decoder : σ

/-- Asks a decoder for items until it waits or fails. `shrinks` says that an item takes bytes. -/
def drain {σ α : Type} (next : σ → Outcome α × σ) (left : σ → Nat)
    (shrinks : ∀ s a s', next s = (.item a, s') → left s' < left s)
    (s : σ) (items : List α) : Drained σ α :=
  match _found : next s with
  | (.item a, s') => drain next left shrinks s' (a :: items)
  | (.waiting, s') => ⟨items.reverse, none, s'⟩
  | (.failed fault, s') => ⟨items.reverse, some fault, s'⟩
termination_by left s
decreasing_by exact shrinks s a s' _found

/-- The outcome once the stream has ended: a decoder that waits with bytes in its buffer has been
cut off inside a frame. -/
def Outcome.atEnd {α : Type} (bufferEmpty : Bool) : Outcome α → Outcome α
  | .waiting => if bufferEmpty then .waiting else .failed .unfinished
  | outcome => outcome

/-- The end of the stream neither makes nor loses an item. -/
theorem Outcome.atEnd_eq_item {α : Type} {empty : Bool} {o : Outcome α} {a : α} :
    o.atEnd empty = .item a ↔ o = .item a := by
  cases o <;> cases empty <;> simp [atEnd]

end IdService.Wire
