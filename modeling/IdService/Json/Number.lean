import IdService.Decimal.Shortest
import IdService.Json.Lexeme

/-!
# Numbers of JSON

An integer of at most 64 bits is kept as such. Any other number becomes a binary fraction: its
first digits, as many as fit 64 bits, times a power of ten. It is only ever shown, so what is kept
of it are its bits.
-/

namespace IdService.Json

/-- A number that has been read. -/
inductive Number where
  | integer (n : Int)
  | fraction (bits : UInt64)
deriving Repr, DecidableEq

def digit? (b : UInt8) : Option Nat := Numeral.digit? (char b)

/-- Reads digits into a significand as long as it fits 64 bits: the significand, how many digits it
took, and what is left, which starts with a digit only if that one does not fit. -/
def takeDigits (significand taken : Nat) : Bytes → Nat × Nat × Bytes
  | [] => (significand, taken, [])
  | b :: rest =>
    match digit? b with
    | none => (significand, taken, b :: rest)
    | some d =>
      if significand * 10 + d < UInt64.size then takeDigits (significand * 10 + d) (taken + 1) rest
      else (significand, taken, b :: rest)

theorem takeDigits_length_le (significand taken : Nat) (bs : Bytes) :
    (takeDigits significand taken bs).2.2.length ≤ bs.length := by
  fun_induction takeDigits significand taken bs <;> grind

/-- Whether a digit comes next. -/
def startsWithDigit : Bytes → Bool
  | [] => false
  | b :: _ => (digit? b).isSome

/-- Passes over digits and counts them. -/
def skipDigits (count : Nat) : Bytes → Nat × Bytes
  | [] => (count, [])
  | b :: rest => if (digit? b).isSome then skipDigits (count + 1) rest else (count, b :: rest)

theorem skipDigits_length_le (count : Nat) (bs : Bytes) :
    (skipDigits count bs).2.length ≤ bs.length := by
  fun_induction skipDigits count bs <;> grind

/-- Whether the letter of an exponent comes next. -/
def startsWithExponent : Bytes → Bool
  | [] => false
  | b :: _ => char b == 'e' || char b == 'E'

/-- The power of ten, for an exponent of up to 308. -/
def powerOfTen (exponent : Nat) : Float := Float.ofScientific 1 false exponent

/-- Moves the point of `f` by `exponent` places, at most 308 at a time. -/
def shift (f : Float) (exponent : Int) : Option Float :=
  if 0 ≤ exponent then
    if exponent ≤ 308 then
      let shifted := f * powerOfTen exponent.toNat
      if shifted.isInf then none else some shifted
    else if f == 0.0 then some f
    else none
  else if -308 ≤ exponent then some (f / powerOfTen (-exponent).toNat)
  else if f == 0.0 then some f
  else shift (f / powerOfTen 308) (exponent + 308)
termination_by exponent.natAbs

/-- The fraction of a sign, a significand and an exponent; `rest` follows its text. -/
def fraction (negative : Bool) (significand : Nat) (exponent : Int) (rest : Bytes) :
    Except Fault (Number × Bytes) :=
  match shift (UInt64.ofNat significand).toFloat exponent with
  | none => faultBehind .numberOutOfRange rest
  | some f => .ok (.fraction (if negative then -f else f).toBits, rest)

theorem fraction_length_le {negative : Bool} {significand : Nat} {exponent : Int}
    {bs rest : Bytes} {n : Number} (h : fraction negative significand exponent bs = .ok (n, rest)) :
    rest.length ≤ bs.length := by
  unfold fraction at h
  grind [faultBehind]

def maxExponent : Nat := 2147483647

/-- Reads the digits of an exponent up to the largest. The flag says that a digit has left it. -/
def exponentDigits (exponent : Nat) : Bytes → Nat × Bool × Bytes
  | [] => (exponent, false, [])
  | b :: rest =>
    match digit? b with
    | none => (exponent, false, b :: rest)
    | some d =>
      if exponent * 10 + d ≤ maxExponent then exponentDigits (exponent * 10 + d) rest
      else (exponent, true, rest)

theorem exponentDigits_length_le (exponent : Nat) (bs : Bytes) :
    (exponentDigits exponent bs).2.2.length ≤ bs.length := by
  fun_induction exponentDigits exponent bs <;> grind

/-- Reads an optional sign of an exponent. The flag says that it is negative. -/
def exponentSign : Bytes → Bool × Bytes
  | [] => (false, [])
  | b :: rest =>
    if char b = '+' then (false, rest)
    else if char b = '-' then (true, rest)
    else (false, b :: rest)

theorem exponentSign_length_le (bs : Bytes) : (exponentSign bs).2.length ≤ bs.length := by
  unfold exponentSign
  grind

/-- Reads an exponent behind its letter. Beyond the largest exponent a number is zero or out of
range. -/
def exponent (negative : Bool) (significand : Nat) (start : Int) (bs : Bytes) :
    Except Fault (Number × Bytes) :=
  let (down, bs) := exponentSign bs
  match bs with
  | [] => faultBehind .endInValue []
  | b :: rest =>
    match digit? b with
    | none => faultBehind .invalidNumber rest
    | some d =>
      let (e, beyond, rest) := exponentDigits d rest
      if beyond then
        if significand ≠ 0 ∧ !down then faultBehind .numberOutOfRange rest
        else fraction negative 0 0 (skipDigits 0 rest).2
      else fraction negative significand (if down then start - e else start + e) rest

theorem exponent_length_le {negative : Bool} {significand : Nat} {start : Int}
    {bs rest : Bytes} {n : Number} (h : exponent negative significand start bs = .ok (n, rest)) :
    rest.length ≤ bs.length := by
  unfold exponent at h
  grind [faultBehind, → fraction_length_le, exponentSign_length_le, exponentDigits_length_le,
    skipDigits_length_le]

/-- Reads the places behind the point. -/
def places (negative : Bool) (significand : Nat) (start : Int) (bs : Bytes) :
    Except Fault (Number × Bytes) :=
  let (significand, taken, rest) := takeDigits significand 0 bs
  let exponentSoFar := start - taken
  if taken = 0 ∧ !startsWithDigit rest then
    if rest.isEmpty then faultBehind .endInValue [] else faultAt .invalidNumber rest
  else
    let rest := (skipDigits 0 rest).2
    if startsWithExponent rest then exponent negative significand exponentSoFar rest.tail
    else fraction negative significand exponentSoFar rest

theorem places_length_le {negative : Bool} {significand : Nat} {start : Int}
    {bs rest : Bytes} {n : Number} (h : places negative significand start bs = .ok (n, rest)) :
    rest.length ≤ bs.length := by
  unfold places at h
  grind [faultBehind, faultAt, → fraction_length_le, → exponent_length_le, takeDigits_length_le,
    skipDigits_length_le]

/-- Reads what may follow the digits of a number: `extra` of them did not fit. -/
def afterDigits (negative : Bool) (significand extra : Nat) (rest : Bytes) :
    Except Fault (Number × Bytes) :=
  if rest.head?.map char = some '.' then places negative significand extra rest.tail
  else if startsWithExponent rest then exponent negative significand extra rest.tail
  else if extra ≠ 0 then fraction negative significand extra rest
  else if !negative then .ok (.integer significand, rest)
  else if 0 < significand ∧ Numeral.Range.int64.Contains (-significand) then
    .ok (.integer (-significand), rest)
  else fraction negative significand 0 rest

theorem afterDigits_length_le {negative : Bool} {significand extra : Nat} {bs rest : Bytes}
    {n : Number} (h : afterDigits negative significand extra bs = .ok (n, rest)) :
    rest.length ≤ bs.length := by
  unfold afterDigits at h
  grind [→ fraction_length_le, → exponent_length_le, → places_length_le]

/-- Reads a number, its sign having been read. -/
def number (negative : Bool) : Bytes → Except Fault (Number × Bytes)
  | [] => faultBehind .endInValue []
  | b :: rest =>
    match digit? b with
    | none => faultBehind .invalidNumber rest
    | some 0 =>
      if startsWithDigit rest then faultAt .invalidNumber rest
      else afterDigits negative 0 0 rest
    | some (d + 1) =>
      let (significand, _, rest) := takeDigits (d + 1) 0 rest
      let (extra, rest) := skipDigits 0 rest
      afterDigits negative significand extra rest

theorem number_length_lt {negative : Bool} {bs rest : Bytes} {n : Number}
    (h : number negative bs = .ok (n, rest)) : rest.length < bs.length := by
  unfold number at h
  grind [faultBehind, faultAt, → afterDigits_length_le, takeDigits_length_le,
    skipDigits_length_le]

/-- Passes over an exponent behind its letter. -/
def skipExponent (bs : Bytes) : Except Fault Bytes :=
  match (exponentSign bs).2 with
  | [] => faultBehind .invalidNumber []
  | b :: rest =>
    if (digit? b).isSome then .ok (skipDigits 0 rest).2 else faultBehind .invalidNumber rest

theorem skipExponent_length_le {bs rest : Bytes} (h : skipExponent bs = .ok rest) :
    rest.length ≤ bs.length := by
  unfold skipExponent at h
  grind [faultBehind, exponentSign_length_le, skipDigits_length_le]

/-- Passes over a number that nobody asks for, its sign having been read. -/
def skipNumber : Bytes → Except Fault Bytes
  | [] => faultBehind .invalidNumber []
  | b :: rest =>
    match digit? b with
    | none => faultBehind .invalidNumber rest
    | some d =>
      if d = 0 ∧ startsWithDigit rest then faultAt .invalidNumber rest
      else
        let rest := (skipDigits 0 rest).2
        if rest.head?.map char = some '.' then
          let (count, rest) := skipDigits 0 rest.tail
          if count = 0 then faultAt .invalidNumber rest
          else if startsWithExponent rest then skipExponent rest.tail
          else .ok rest
        else if startsWithExponent rest then skipExponent rest.tail
        else .ok rest

theorem skipNumber_length_lt {bs rest : Bytes} (h : skipNumber bs = .ok rest) :
    rest.length < bs.length := by
  unfold skipNumber at h
  grind [faultBehind, faultAt, → skipExponent_length_le, skipDigits_length_le]

/-! ## The text of a fraction -/

/-- Writes `digits * 10^exponent`: in positions from `10^-5` up to `10^16`, always with a point,
and with a signed exponent otherwise, the point behind the first digit. -/
def decimalText (digits : List Char) (exponent : Int) : List Char :=
  let count : Int := digits.length
  let point := count + exponent
  if 0 ≤ exponent ∧ point ≤ 16 then
    digits ++ List.replicate exponent.toNat '0' ++ ['.', '0']
  else if 0 < point ∧ point ≤ 16 then
    digits.take point.toNat ++ '.' :: digits.drop point.toNat
  else if -5 < point ∧ point ≤ 0 then
    '0' :: '.' :: List.replicate (-point).toNat '0' ++ digits
  else
    let lead := match digits with
      | [] => []
      | [d] => [d]
      | d :: more => d :: '.' :: more
    lead ++ 'e' :: (if 0 < point then ['+'] else []) ++ Numeral.write (point - 1)

/-- The shortest text of a fraction that reads back. -/
def fractionText (bits : UInt64) : String :=
  let x := Decimal.Binary.ofBits bits
  let text :=
    if x.m = 0 then ['0', '.', '0']
    else
      let d := x.shortest
      decimalText (Numeral.digits d.digits) d.exponent
  String.ofList (if Decimal.isNegative bits then '-' :: text else text)

/-- How an error message names a number. -/
def Number.found : Number → Found
  | .integer n => .integer n
  | .fraction bits => .fraction (fractionText bits)

end IdService.Json
