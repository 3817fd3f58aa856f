import IdService.Counter.Value

/-! # Arithmetic of counters

The durable form of a counter is read back as the counter, and sums of counters are those of the
integers they stand for, or none.
-/

namespace IdService.Counter

theorem length_digits (places n : Nat) : (digits places n).length = places := by
  induction places generalizing n with
  | zero => rfl
  | succ places ih => simp [digits, ih]

theorem ofDigits_append (bs : Bytes) (b : UInt8) :
    ofDigits (bs ++ [b]) = ofDigits bs * 256 + b.toNat := by
  simp [ofDigits]

theorem ofDigits_digits (places n : Nat) :
    ofDigits (digits places n) = n % Nat.pow 256 places := by
  induction places generalizing n with
  | zero => simp [digits, ofDigits, Nat.mod_one]
  | succ places ih =>
      have last : (UInt8.ofNat (n % 256)).toNat = n % 256 := by simp
      calc ofDigits (digits (places + 1) n)
          = ofDigits (digits places (n / 256)) * 256 + n % 256 := by
            rw [digits, ofDigits_append, last]
        _ = n % 256 + 256 * (n / 256 % Nat.pow 256 places) := by
            rw [ih]
            omega
        _ = n % (256 * Nat.pow 256 places) := Nat.mod_mul.symm
        _ = n % Nat.pow 256 (places + 1) := congrArg (n % ·) (Nat.mul_comm ..)

@[simp] theorem decode?_encode (n : Int64) : decode? (encode n) = some n := by
  have small : n.toUInt64.toNat % Nat.pow 256 8 = n.toUInt64.toNat :=
    Nat.mod_eq_of_lt n.toUInt64.toNat_lt
  rw [decode?, encode, if_pos (length_digits 8 _), ofDigits_digits, small, UInt64.ofNat_toNat,
    Int64.toInt64_toUInt64]

theorem contains_toInt (n : Int64) : Numeral.Range.int64.Contains n.toInt :=
  ⟨n.le_toInt, Int.le_of_lt_add_one n.toInt_lt⟩

theorem toInt_ofInt {n : Int} (within : Numeral.Range.int64.Contains n) :
    (Int64.ofInt n).toInt = n :=
  Int64.toInt_ofInt_of_le within.1 (Int.lt_add_one_of_le within.2)

theorem add?_eq_some {a b sum : Int64} :
    add? a b = some sum ↔ sum.toInt = a.toInt + b.toInt := by
  simp only [add?]
  constructor
  · intro found
    split at found
    · rename_i within
      rw [← Option.some.inj found, toInt_ofInt within]
    · simp at found
  · intro same
    rw [← same, if_pos (contains_toInt sum), Int64.ofInt_toInt]

theorem add?_eq_none {a b : Int64} :
    add? a b = none ↔ ¬ Numeral.Range.int64.Contains (a.toInt + b.toInt) := by
  simp [add?]

theorem toInt_succ {a b : Int64} (less : a.toInt < b.toInt) : (a + 1).toInt = a.toInt + 1 := by
  have low := a.le_toInt
  have high := b.toInt_lt
  rw [Int64.toInt_add, Int64.toInt_one, Int.bmod_eq_of_le] <;> omega

end IdService.Counter
