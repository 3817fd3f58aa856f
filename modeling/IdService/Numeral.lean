/-!
# Numerals

Whole numbers in decimal, read within a range and written without leading zeros. A numeral is an
optional sign and at least one digit; `-` is a sign only where the range reaches below zero.
Digits are taken from the left, and the first fault decides: a numeral that has left the range
already is out of range, whatever stands behind.
-/

namespace IdService.Numeral

inductive Fault where
  | empty
  | invalidDigit
  | tooLarge
  | tooSmall
deriving Repr, DecidableEq

def Fault.message : Fault → String
  | .empty => "cannot parse integer from empty string"
  | .invalidDigit => "invalid digit found in string"
  | .tooLarge => "number too large to fit in target type"
  | .tooSmall => "number too small to fit in target type"

/-- The numbers a reader accepts: `low` to `high`, both included. -/
structure Range where
  low : Int
  high : Int
deriving Repr, DecidableEq

namespace Range

def int64 : Range := ⟨-9223372036854775808, 9223372036854775807⟩

def uint64 : Range := ⟨0, 18446744073709551615⟩

def uint16 : Range := ⟨0, 65535⟩

def Contains (r : Range) (n : Int) : Prop := r.low ≤ n ∧ n ≤ r.high

instance (r : Range) (n : Int) : Decidable (r.Contains n) :=
  inferInstanceAs (Decidable (r.low ≤ n ∧ n ≤ r.high))

end Range

def digit? (c : Char) : Option Nat :=
  if '0' ≤ c ∧ c ≤ '9' then some (c.toNat - 48) else none

/-- Reads the digits of a number that is not negative, `n` being the value of those before. -/
def readUp (high : Int) (n : Int) : List Char → Except Fault Int
  | [] => .ok n
  | c :: rest =>
    match digit? c with
    | none => .error .invalidDigit
    | some d =>
      let next := n * 10 + d
      if next ≤ high then readUp high next rest else .error .tooLarge

/-- Reads the digits behind a minus sign, `n` being the value of those before. -/
def readDown (low : Int) (n : Int) : List Char → Except Fault Int
  | [] => .ok n
  | c :: rest =>
    match digit? c with
    | none => .error .invalidDigit
    | some d =>
      let next := n * 10 - d
      if low ≤ next then readDown low next rest else .error .tooSmall

/-- Reads a numeral of the range `r`. A sign without a digit is an invalid digit. -/
def read (r : Range) : List Char → Except Fault Int
  | [] => .error .empty
  | ['+'] | ['-'] => .error .invalidDigit
  | '+' :: digits => readUp r.high 0 digits
  | '-' :: digits => if r.low < 0 then readDown r.low 0 digits else .error .invalidDigit
  | digits => readUp r.high 0 digits

/-- The digit character of a number below ten. -/
def digitChar (n : Nat) : Char := Char.ofNat (48 + n)

def digits (n : Nat) : List Char :=
  if n < 10 then [digitChar n] else digits (n / 10) ++ [digitChar (n % 10)]
termination_by n

/-- The decimal form of a whole number. -/
def write (n : Int) : List Char :=
  if n < 0 then '-' :: digits n.natAbs else digits n.natAbs

def text (n : Int) : String := String.ofList (write n)

end IdService.Numeral
