import IdService.Wire.Line

/-! # Numerals survive as text

A whole number that lies in a range is read back from its decimal form, and a reader gives no
number that lies outside. The digits are read from the left, so what is generalized is the value of
those already read and the text behind them.
-/

namespace IdService.Numeral

theorem digit?_digitChar : ∀ k : Nat, k < 10 → digit? (digitChar k) = some k
  | 0, _ | 1, _ | 2, _ | 3, _ | 4, _ | 5, _ | 6, _ | 7, _ | 8, _ | 9, _ => by decide
  | _ + 10, large => absurd large (by omega)

theorem digitChar_ascii : ∀ k : Nat, k < 10 → 48 ≤ (digitChar k).toNat ∧ (digitChar k).toNat < 58
  | 0, _ | 1, _ | 2, _ | 3, _ | 4, _ | 5, _ | 6, _ | 7, _ | 8, _ | 9, _ => by decide
  | _ + 10, large => absurd large (by omega)

theorem digits_ascii {n : Nat} {c : Char} (member : c ∈ digits n) :
    48 ≤ c.toNat ∧ c.toNat < 58 := by
  fun_induction digits n with
  | case1 n small =>
      obtain rfl := List.mem_singleton.mp member
      exact digitChar_ascii n small
  | case2 n large ih =>
      rcases List.mem_append.mp member with before | last
      · exact ih before
      · obtain rfl := List.mem_singleton.mp last
        exact digitChar_ascii _ (by omega)

theorem digits_ne_nil (n : Nat) : digits n ≠ [] := by
  unfold digits
  split <;> simp

theorem readUp_digits {high : Int} {n : Nat} (within : (n : Int) ≤ high) (rest : List Char) :
    readUp high 0 (digits n ++ rest) = readUp high n rest := by
  fun_induction digits n generalizing rest with
  | case1 n small =>
      have value : (0 : Int) * 10 + n = n := by omega
      simp only [List.cons_append, List.nil_append, readUp, digit?_digitChar n small, value,
        if_pos within]
  | case2 n large ih =>
      have value : ((n / 10 : Nat) : Int) * 10 + (n % 10 : Nat) = n := by omega
      rw [List.append_assoc, ih (by omega)]
      simp only [List.cons_append, List.nil_append, readUp,
        digit?_digitChar (n % 10) (by omega), value, if_pos within]

theorem readDown_digits {low : Int} {n : Nat} (within : low ≤ -(n : Int)) (rest : List Char) :
    readDown low 0 (digits n ++ rest) = readDown low (-n) rest := by
  fun_induction digits n generalizing rest with
  | case1 n small =>
      have value : (0 : Int) * 10 - n = -n := by omega
      simp only [List.cons_append, List.nil_append, readDown, digit?_digitChar n small, value,
        if_pos within]
  | case2 n large ih =>
      have value : -((n / 10 : Nat) : Int) * 10 - (n % 10 : Nat) = -n := by omega
      rw [List.append_assoc, ih (by omega)]
      simp only [List.cons_append, List.nil_append, readDown,
        digit?_digitChar (n % 10) (by omega), value, if_pos within]

private theorem read_digits (r : Range) (n : Nat) :
    read r (digits n) = readUp r.high 0 (digits n) := by
  obtain ⟨c, rest, form⟩ := List.exists_cons_of_ne_nil (digits_ne_nil n)
  have ascii := digits_ascii (n := n) (c := c) (by simp [form])
  have notPlus : c ≠ '+' := by rintro rfl; simp at ascii
  have notMinus : c ≠ '-' := by rintro rfl; simp at ascii
  rw [form]
  simp [read, notPlus, notMinus]

theorem read_write {r : Range} {n : Int} (within : r.Contains n) : read r (write n) = .ok n := by
  obtain ⟨above, below⟩ := within
  unfold write
  split
  · rename_i negative
    obtain ⟨c, rest, form⟩ := List.exists_cons_of_ne_nil (digits_ne_nil n.natAbs)
    have value : -((n.natAbs : Nat) : Int) = n := by omega
    have down : readDown r.low 0 (digits n.natAbs ++ []) = readDown r.low (-(n.natAbs : Nat)) [] :=
      readDown_digits (by omega) []
    rw [List.append_nil, value] at down
    rw [form] at down ⊢
    simp only [read, if_pos (by omega : r.low < 0)]
    rw [down, readDown]
  · rename_i notNegative
    have value : ((n.natAbs : Nat) : Int) = n := by omega
    have up : readUp r.high 0 (digits n.natAbs ++ []) = readUp r.high (n.natAbs : Nat) [] :=
      readUp_digits (by omega) []
    rw [List.append_nil, value] at up
    rw [read_digits, up, readUp]

theorem write_ascii {n : Int} {c : Char} (member : c ∈ write n) : c.toNat < 128 := by
  have digit : ∀ {m : Nat}, c ∈ digits m → c.toNat < 128 := fun inside => by
    have := digits_ascii inside
    omega
  unfold write at member
  split at member
  · rcases List.mem_cons.mp member with rfl | inside
    · decide
    · exact digit inside
  · exact digit member

theorem digits_length_le {n k : Nat} (small : n < Nat.pow 10 (k + 1)) :
    (digits n).length ≤ k + 1 := by
  induction k generalizing n with
  | zero =>
      have digit : n < 10 := small
      unfold digits
      rw [if_pos digit]
      exact Nat.le_refl 1
  | succ k ih =>
      have larger : Nat.pow 10 (k + 1 + 1) = Nat.pow 10 (k + 1) * 10 := rfl
      unfold digits
      split
      · exact Nat.le_add_left 1 _
      · rw [List.length_append]
        exact Nat.succ_le_succ (ih (by omega))

theorem write_length_le {n : Int} (within : Range.int64.Contains n) : (write n).length ≤ 20 := by
  obtain ⟨low, high⟩ := within
  have power : Nat.pow 10 19 = 10000000000000000000 := by decide
  have small : n.natAbs < Nat.pow 10 19 := by
    simp only [Range.int64] at low high
    omega
  have digits : (digits n.natAbs).length ≤ 19 := digits_length_le small
  unfold write
  split
  · exact Nat.succ_le_succ digits
  · exact Nat.le_succ_of_le digits

/-! ## The range -/

private theorem readUp_within {high n m : Int} {text : List Char}
    (found : readUp high n text = .ok m) (above : 0 ≤ n) (below : n ≤ high) :
    0 ≤ m ∧ m ≤ high := by
  fun_induction readUp high n text with
  | case1 n =>
      cases found
      exact ⟨above, below⟩
  | case2 | case4 => cases found
  | case3 n c rest d digit next fits ih => exact ih found (by omega) fits

private theorem readDown_within {low n m : Int} {text : List Char}
    (found : readDown low n text = .ok m) (above : low ≤ n) (below : n ≤ 0) :
    low ≤ m ∧ m ≤ 0 := by
  fun_induction readDown low n text with
  | case1 n =>
      cases found
      exact ⟨above, below⟩
  | case2 | case4 => cases found
  | case3 n c rest d digit next fits ih => exact ih found fits (by omega)

theorem Range.contains_uint16 (v : UInt16) : uint16.Contains v.toNat :=
  ⟨Int.natCast_nonneg _, Int.ofNat_le.mpr (Nat.le_of_lt_succ v.toNat_lt)⟩

theorem Range.contains_uint64 (v : UInt64) : uint64.Contains v.toNat :=
  ⟨Int.natCast_nonneg _, Int.ofNat_le.mpr (Nat.le_of_lt_succ v.toNat_lt)⟩

theorem contains_of_read {r : Range} {n : Int} {text : List Char} (zero : r.Contains 0)
    (found : read r text = .ok n) : r.Contains n := by
  obtain ⟨low, high⟩ := zero
  have up : ∀ {digits}, readUp r.high 0 digits = .ok n → r.Contains n := fun found => by
    obtain ⟨above, below⟩ := readUp_within found (Int.le_refl 0) high
    exact ⟨Int.le_trans low above, below⟩
  unfold read at found
  split at found
  · cases found
  · cases found
  · cases found
  · exact up found
  · split at found
    · obtain ⟨above, below⟩ := readDown_within found low (Int.le_refl 0)
      exact ⟨above, Int.le_trans below high⟩
    · cases found
  · exact up found

end IdService.Numeral

namespace IdService.Wire

theorem contains_of_integer? {bs : Bytes} {n : Int} (found : integer? bs = some n) :
    Numeral.Range.int64.Contains n := by
  unfold integer? at found
  split at found
  · rename_i read
    cases found
    exact Numeral.contains_of_read (by decide) read
  · cases found

private theorem ofAscii_toNat {c : Char} (ascii : c.toNat < 128) :
    Char.ofNat (Byte.ofAscii c).toNat = c := by
  have small : c.toNat % 256 = c.toNat := Nat.mod_eq_of_lt (by omega)
  have same : (Byte.ofAscii c).toNat = c.toNat := by
    rw [Byte.ofAscii, UInt32.toNat_toUInt8]
    exact small
  rw [same, Char.ofNat_toNat]

theorem integer?_write {n : Int} (within : Numeral.Range.int64.Contains n) :
    integer? ((Numeral.write n).map Byte.ofAscii) = some n := by
  have same : ((Numeral.write n).map Byte.ofAscii).map (fun b => Char.ofNat b.toNat) =
      Numeral.write n := by
    rw [List.map_map]
    conv => rhs; rw [← List.map_id (Numeral.write n)]
    apply List.map_congr_left
    intro c member
    exact ofAscii_toNat (Numeral.write_ascii member)
  simp only [integer?, same, Numeral.read_write within]

end IdService.Wire
