import IdService.Bytes
import IdService.Numeral

/-!
# Counter values

Counters are integers of 64 bits. Adding to one gives nothing where the sum leaves their range. The
durable form of a counter is its eight bytes in two's complement, the most significant first.
-/

namespace IdService.Counter

/-- The sum of two counters, if it is one. -/
def add? (a b : Int64) : Option Int64 :=
  let sum := a.toInt + b.toInt
  if Numeral.Range.int64.Contains sum then some (Int64.ofInt sum) else none

/-- The last `places` digits of `n` to the base 256, the most significant first. -/
def digits : (places : Nat) → Nat → Bytes
  | 0, _ => []
  | places + 1, n => digits places (n / 256) ++ [UInt8.ofNat (n % 256)]

/-- The number that digits to the base 256 write. -/
def ofDigits (bs : Bytes) : Nat := bs.foldl (fun n b => n * 256 + b.toNat) 0

/-- The durable form of a counter. -/
def encode (n : Int64) : Bytes := digits 8 n.toUInt64.toNat

/-- The counter of a durable form, which has eight bytes. -/
def decode? (raw : Bytes) : Option Int64 :=
  if raw.length = 8 then some (UInt64.ofNat (ofDigits raw)).toInt64 else none

end IdService.Counter
