import IdService.Text.Utf8

/-! # Text survives as bytes

Reading the bytes of a text gives the text back, with nothing replaced. The machine goes through
the encoding of one character from between characters to between characters, so the bytes of a
text are read one character after the other.
-/

namespace IdService.Text

namespace Reading

theorem opening_ofNat {n : Nat} (byte : n < 256) :
    opening (UInt8.ofNat n) =
      if n < 0xC2 then none
      else if n < 0xE0 then some ⟨0, 0x80, 0xBF, n - 0xC0⟩
      else if n = 0xE0 then some ⟨1, 0xA0, 0xBF, 0⟩
      else if n = 0xED then some ⟨1, 0x80, 0x9F, 0xD⟩
      else if n < 0xF0 then some ⟨1, 0x80, 0xBF, n - 0xE0⟩
      else if n = 0xF0 then some ⟨2, 0x90, 0xBF, 0⟩
      else if n < 0xF4 then some ⟨2, 0x80, 0xBF, n - 0xF0⟩
      else if n = 0xF4 then some ⟨2, 0x80, 0x8F, 4⟩
      else none := by
  have small : n % 256 = n := Nat.mod_eq_of_lt byte
  simp only [opening, UInt8.lt_iff_toNat_lt, ← UInt8.toNat_inj, UInt8.toNat_ofNat,
    UInt8.toNat_ofNat', Nat.reducePow, Nat.reduceMod, small]

theorem step_ascii {r : Reading} (between : r.pending = none) {n : Nat} (ascii : n < 0x80) :
    r.step (UInt8.ofNat n) = r.push (Char.ofNat n) := by
  have small : n % 256 = n := Nat.mod_eq_of_lt (by omega)
  simp only [step, between, start, UInt8.lt_iff_toNat_lt, UInt8.toNat_ofNat, UInt8.toNat_ofNat',
    Nat.reducePow, Nat.reduceMod, small, if_pos ascii]

theorem step_lead {r : Reading} (between : r.pending = none) {n : Nat} (lead : 0x80 ≤ n)
    (byte : n < 256) {p : Pending} (opens : opening (UInt8.ofNat n) = some p) :
    r.step (UInt8.ofNat n) = { r with pending := some p } := by
  have small : n % 256 = n := Nat.mod_eq_of_lt byte
  simp only [step, between, start, UInt8.lt_iff_toNat_lt, UInt8.toNat_ofNat, UInt8.toNat_ofNat',
    Nat.reducePow, Nat.reduceMod, small, if_neg (by omega : ¬ n < 0x80), opens]

private theorem continues {p : Pending} {n : Nat} (byte : n < 256) (low : p.low.toNat ≤ n)
    (high : n ≤ p.high.toNat) : p.low ≤ UInt8.ofNat n ∧ UInt8.ofNat n ≤ p.high := by
  have small : n % 256 = n := Nat.mod_eq_of_lt byte
  simp only [UInt8.le_iff_toNat_le, UInt8.toNat_ofNat', Nat.reducePow, small]
  exact ⟨low, high⟩

theorem step_more {r : Reading} {m n bits : Nat} {low high : UInt8}
    (opened : r.pending = some ⟨m + 1, low, high, bits⟩) (byte : n < 256)
    (above : low.toNat ≤ n) (below : n ≤ high.toNat) :
    r.step (UInt8.ofNat n) = { r with pending := some ⟨m, 0x80, 0xBF, bits * 64 + n % 64⟩ } := by
  have small : n % 256 = n := Nat.mod_eq_of_lt byte
  have inside := continues (p := ⟨m + 1, low, high, bits⟩) byte above below
  simp only [step, opened, if_pos inside, UInt8.toNat_ofNat', Nat.reducePow, small]

theorem step_last {r : Reading} {n bits : Nat} {low high : UInt8}
    (opened : r.pending = some ⟨0, low, high, bits⟩) (byte : n < 256)
    (above : low.toNat ≤ n) (below : n ≤ high.toNat) :
    r.step (UInt8.ofNat n) = r.push (Char.ofNat (bits * 64 + n % 64)) := by
  have small : n % 256 = n := Nat.mod_eq_of_lt byte
  have inside := continues (p := ⟨0, low, high, bits⟩) byte above below
  simp only [step, opened, if_pos inside, UInt8.toNat_ofNat', Nat.reducePow, small]

/-! ## The bytes of one character -/

theorem read_two {r : Reading} (between : r.pending = none) {v : Nat} (low : 0x7F < v)
    (high : v ≤ 0x7FF) :
    [UInt8.ofNat (v / 64 % 0x20 + 0xC0), UInt8.ofNat (v % 0x40 + 0x80)].foldl step r =
      r.push (Char.ofNat v) := by
  have opens : opening (UInt8.ofNat (v / 64 % 0x20 + 0xC0)) = some ⟨0, 0x80, 0xBF, v / 64⟩ := by
    have bits : v / 64 % 0x20 + 0xC0 - 0xC0 = v / 64 := by omega
    rw [opening_ofNat (by omega), if_neg (by omega), if_pos (by omega), bits]
  simp only [List.foldl_cons, List.foldl_nil]
  rw [step_lead between (by omega) (by omega) opens,
    step_last rfl (by omega) (by simp) (by simp; omega)]
  have value : v / 64 * 64 + (v % 0x40 + 0x80) % 64 = v := by omega
  rw [value]
  rfl

/-- The first of three bytes narrows the second, and the second lies in what it leaves. -/
private theorem opens_three {v : Nat} (low : 0x7FF < v) (high : v ≤ 0xFFFF)
    (scalar : v < 0xD800 ∨ 0xDFFF < v) :
    ∃ least greatest : UInt8,
      opening (UInt8.ofNat (v / 4096 % 0x10 + 0xE0)) = some ⟨1, least, greatest, v / 4096⟩ ∧
      least.toNat ≤ v / 64 % 0x40 + 0x80 ∧ v / 64 % 0x40 + 0x80 ≤ greatest.toNat := by
  rw [opening_ofNat (by omega), if_neg (by omega), if_neg (by omega)]
  by_cases overlong : v < 0x1000
  · refine ⟨0xA0, 0xBF, ?_, by simp; omega, by simp; omega⟩
    have bits : v / 4096 = 0 := by omega
    rw [if_pos (by omega), bits]
  by_cases surrogate : 0xD000 ≤ v ∧ v < 0xE000
  · refine ⟨0x80, 0x9F, ?_, by simp, by simp; omega⟩
    have bits : v / 4096 = 0xD := by omega
    rw [if_neg (by omega), if_pos (by omega), bits]
  · refine ⟨0x80, 0xBF, ?_, by simp, by simp; omega⟩
    have bits : v / 4096 % 0x10 + 0xE0 - 0xE0 = v / 4096 := by omega
    rw [if_neg (by omega), if_neg (by omega), if_pos (by omega), bits]

theorem read_three {r : Reading} (between : r.pending = none) {v : Nat} (low : 0x7FF < v)
    (high : v ≤ 0xFFFF) (scalar : v < 0xD800 ∨ 0xDFFF < v) :
    [UInt8.ofNat (v / 4096 % 0x10 + 0xE0), UInt8.ofNat (v / 64 % 0x40 + 0x80),
      UInt8.ofNat (v % 0x40 + 0x80)].foldl step r = r.push (Char.ofNat v) := by
  obtain ⟨least, greatest, opens, above, below⟩ := opens_three low high scalar
  simp only [List.foldl_cons, List.foldl_nil]
  rw [step_lead between (by omega) (by omega) opens, step_more rfl (by omega) above below,
    step_last rfl (by omega) (by simp) (by simp; omega)]
  have value : (v / 4096 * 64 + (v / 64 % 0x40 + 0x80) % 64) * 64 + (v % 0x40 + 0x80) % 64 = v := by
    omega
  rw [value]
  rfl

private theorem opens_four {v : Nat} (low : 0xFFFF < v) (high : v < 0x110000) :
    ∃ least greatest : UInt8,
      opening (UInt8.ofNat (v / 262144 % 0x08 + 0xF0)) = some ⟨2, least, greatest, v / 262144⟩ ∧
      least.toNat ≤ v / 4096 % 0x40 + 0x80 ∧ v / 4096 % 0x40 + 0x80 ≤ greatest.toNat := by
  rw [opening_ofNat (by omega), if_neg (by omega), if_neg (by omega), if_neg (by omega),
    if_neg (by omega), if_neg (by omega)]
  by_cases overlong : v < 0x40000
  · refine ⟨0x90, 0xBF, ?_, by simp; omega, by simp; omega⟩
    have bits : v / 262144 = 0 := by omega
    rw [if_pos (by omega), bits]
  by_cases last : 0x100000 ≤ v
  · refine ⟨0x80, 0x8F, ?_, by simp, by simp; omega⟩
    have bits : v / 262144 = 4 := by omega
    rw [if_neg (by omega), if_neg (by omega), if_pos (by omega), bits]
  · refine ⟨0x80, 0xBF, ?_, by simp, by simp; omega⟩
    have bits : v / 262144 % 0x08 + 0xF0 - 0xF0 = v / 262144 := by omega
    rw [if_neg (by omega), if_pos (by omega), bits]

theorem read_four {r : Reading} (between : r.pending = none) {v : Nat} (low : 0xFFFF < v)
    (high : v < 0x110000) :
    [UInt8.ofNat (v / 262144 % 0x08 + 0xF0), UInt8.ofNat (v / 4096 % 0x40 + 0x80),
      UInt8.ofNat (v / 64 % 0x40 + 0x80), UInt8.ofNat (v % 0x40 + 0x80)].foldl step r =
      r.push (Char.ofNat v) := by
  obtain ⟨least, greatest, opens, above, below⟩ := opens_four low high
  simp only [List.foldl_cons, List.foldl_nil]
  rw [step_lead between (by omega) (by omega) opens, step_more rfl (by omega) above below,
    step_more (n := v / 64 % 0x40 + 0x80) rfl (by omega) (by simp) (by simp; omega),
    step_last rfl (by omega) (by simp) (by simp; omega)]
  have value : ((v / 262144 * 64 + (v / 4096 % 0x40 + 0x80) % 64) * 64 +
      (v / 64 % 0x40 + 0x80) % 64) * 64 + (v % 0x40 + 0x80) % 64 = v := by
    omega
  rw [value]
  rfl

theorem read_encodeChar {r : Reading} (between : r.pending = none) (c : Char) :
    (String.utf8EncodeChar c).foldl step r = r.push c := by
  have same : Char.ofNat c.val.toNat = c := Char.ofNat_toNat c
  have scalar : c.val.toNat < 0xD800 ∨ (0xDFFF < c.val.toNat ∧ c.val.toNat < 0x110000) := c.valid
  unfold String.utf8EncodeChar
  by_cases one : c.val.toNat ≤ 0x7F
  · rw [if_pos one, List.foldl_cons, List.foldl_nil, step_ascii between (by omega), same]
  by_cases two : c.val.toNat ≤ 0x7FF
  · rw [if_neg one, if_pos two, read_two between (by omega) two, same]
  by_cases three : c.val.toNat ≤ 0xFFFF
  · rw [if_neg one, if_neg two, if_pos three, read_three between (by omega) three (by omega), same]
  · rw [if_neg one, if_neg two, if_neg three, read_four between (by omega) (by omega), same]

end Reading

/-! ## The bytes of a text -/

open Reading

private theorem read_chars (cs : List Char) (r : Reading) (between : r.pending = none) :
    (cs.flatMap String.utf8EncodeChar).foldl step r =
      { r with chars := cs.reverse ++ r.chars } := by
  induction cs generalizing r with
  | nil => rfl
  | cons c cs ih =>
      rw [List.flatMap_cons, List.foldl_append, read_encodeChar between, ih _ rfl]
      simp [push, between]

theorem read_utf8 (s : String) : read (utf8 s) = { chars := s.toList.reverse } := by
  rw [read, utf8, read_chars _ _ rfl]
  simp [finish]

@[simp] theorem ofUtf8Lossy_utf8 (s : String) : ofUtf8Lossy (utf8 s) = s := by
  simp [ofUtf8Lossy, read_utf8]

@[simp] theorem ofUtf8?_utf8 (s : String) : ofUtf8? (utf8 s) = some s := by
  simp [ofUtf8?, read_utf8]

/-! ## ASCII -/

theorem ascii_of_mem_encodeChar {c : Char} {b : UInt8} (member : b ∈ String.utf8EncodeChar c)
    (ascii : b.toNat < 128) : c = Char.ofNat b.toNat := by
  have same : Char.ofNat c.val.toNat = c := Char.ofNat_toNat c
  have high : ∀ {n : Nat}, 128 ≤ n → n < 256 → b ≠ UInt8.ofNat n := by
    rintro n low byte rfl
    rw [UInt8.toNat_ofNat', Nat.mod_eq_of_lt byte] at ascii
    exact absurd ascii (Nat.not_lt_of_le low)
  unfold String.utf8EncodeChar at member
  by_cases one : c.val.toNat ≤ 0x7F
  · rw [if_pos one] at member
    obtain rfl := List.mem_singleton.mp member
    rw [UInt8.toNat_ofNat', Nat.mod_eq_of_lt (by omega), same]
  · rw [if_neg one] at member
    split at member
    · simp only [List.mem_cons, List.not_mem_nil, or_false] at member
      rcases member with form | form
      all_goals exact absurd form (high (by omega) (by omega))
    · split at member
      · simp only [List.mem_cons, List.not_mem_nil, or_false] at member
        rcases member with form | form | form
        all_goals exact absurd form (high (by omega) (by omega))
      · simp only [List.mem_cons, List.not_mem_nil, or_false] at member
        rcases member with form | form | form | form
        all_goals exact absurd form (high (by omega) (by omega))

end IdService.Text
