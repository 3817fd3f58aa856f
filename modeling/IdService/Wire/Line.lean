import IdService.Wire.Fault
import IdService.Wire.Limits

/-!
# Lines of the wire format

Finding a line terminator, and reading the lines that announce a length: one mark byte, a numeral,
CR LF.
-/

namespace IdService.Wire

/-- The index of the first CR LF of `bs`, counted from `i`. -/
def crlfIndexFrom (i : Nat) : Bytes → Option Nat
  | [] => none
  | b :: rest =>
    if b = Byte.cr ∧ rest.head? = some Byte.lf then some i else crlfIndexFrom (i + 1) rest

/-- The index of the first CR LF of `bs`. -/
def crlfIndex? (bs : Bytes) : Option Nat := crlfIndexFrom 0 bs

/-- The 64-bit integer that ASCII bytes write, if they write one. Bytes outside ASCII are no
digits, so they are taken as the characters of their own number. -/
def integer? (bs : Bytes) : Option Int :=
  match Numeral.read Numeral.Range.int64 (bs.map fun b => Char.ofNat b.toNat) with
  | .ok n => some n
  | .error _ => none

/-- A line that announces a length: its value, and how many bytes its numeral takes. -/
structure LengthLine where
  value : Int
  width : Nat
deriving Repr, DecidableEq

/-- All bytes of the line: the mark, the numeral and the terminator. -/
def LengthLine.size (line : LengthLine) : Nat := line.width + 3

/-- The most bytes that may wait for the terminator of a length line: its mark, a 64-bit numeral
and some slack. -/
def lengthLineBytes : Nat := 32

/-- Reads the length line at the front of `input`, or nothing if its terminator has not arrived.
The bytes that wait are limited only while it has not. -/
def lengthLine (input : Bytes) : Except Fault (Option LengthLine) :=
  match crlfIndex? input.tail with
  | none => if lengthLineBytes < input.length then .error .lengthLineTooLong else .ok none
  | some width =>
    match integer? (input.tail.take width) with
    | none => .error .invalidLength
    | some value => .ok (some ⟨value, width⟩)

/-- The size that a bulk string may announce. -/
def bulkSize (limits : Limits) (announced : Int) : Except Fault Nat :=
  if 0 ≤ announced ∧ announced ≤ limits.bulkBytes then .ok announced.toNat
  else .error (.bulkLength announced)

end IdService.Wire
