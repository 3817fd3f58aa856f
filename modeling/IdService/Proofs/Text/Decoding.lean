import IdService.Proofs.Text.Utf8

/-! # Bytes that are read as text are its bytes

What strict reading accepts are the bytes of the text it gives, so nothing else is read as that
text. Reading that replaces what is not UTF-8 shows by the replacements it has put that it did: a
text without any has been read from its own bytes.
-/

namespace IdService.Text

namespace Reading

/-- The bytes that end an opened character, and the number of the character they make. -/
inductive Completes : Pending → Bytes → Nat → Prop where
  | last {low high b : UInt8} {bits : Nat} : low ≤ b → b ≤ high →
      Completes ⟨0, low, high, bits⟩ [b] (bits * 64 + b.toNat % 64)
  | more {m bits v : Nat} {low high b : UInt8} {rest : Bytes} : low ≤ b → b ≤ high →
      Completes ⟨m, 0x80, 0xBF, bits * 64 + b.toNat % 64⟩ rest v →
      Completes ⟨m + 1, low, high, bits⟩ (b :: rest) v

/-- The bytes read of an opened character: in front of any that end it they are its bytes. -/
def Begins (front : Bytes) (p : Pending) : Prop :=
  ∀ rest v, Completes p rest v → String.utf8EncodeChar (Char.ofNat v) = front ++ rest

/-! ## Opened characters -/

theorem number_ofNat {v : Nat} (valid : v.isValidChar) : (Char.ofNat v).val.toNat = v := by
  rw [Char.ofNat, dif_pos valid]
  rfl

private theorem continuation {b : UInt8} (above : 0x80 ≤ b) (below : b ≤ 0xBF) :
    0x80 ≤ b.toNat ∧ b.toNat ≤ 0xBF :=
  ⟨UInt8.le_iff_toNat_le.mp above, UInt8.le_iff_toNat_le.mp below⟩

theorem encode_one {v : Nat} (high : v ≤ 0x7F) :
    String.utf8EncodeChar (Char.ofNat v) = [UInt8.ofNat v] := by
  unfold String.utf8EncodeChar
  rw [number_ofNat (.inl (by omega)), if_pos high]

private theorem begins_two (bits : Nat) (low : 2 ≤ bits) (high : bits < 32) :
    Begins [UInt8.ofNat (bits + 0xC0)] ⟨0, 0x80, 0xBF, bits⟩ := by
  intro rest v completes
  cases completes with
  | @last _ _ b _ above below =>
      obtain ⟨above, below⟩ := continuation above below
      have first : (bits * 64 + b.toNat % 64) / 64 % 32 = bits := by omega
      have second : (bits * 64 + b.toNat % 64) % 64 + 128 = b.toNat := by omega
      unfold String.utf8EncodeChar
      rw [number_ofNat (.inl (by omega)), if_neg (by omega), if_pos (by omega), first, second,
        UInt8.ofNat_toNat]
      rfl

private theorem begins_three (bits : Nat) {low high : UInt8} (small : bits < 16)
    (least : 0x80 ≤ low.toNat) (greatest : high.toNat ≤ 0xBF)
    (overlong : bits = 0 → 0xA0 ≤ low.toNat) (surrogate : bits = 0xD → high.toNat ≤ 0x9F) :
    Begins [UInt8.ofNat (bits + 0xE0)] ⟨1, low, high, bits⟩ := by
  intro rest v completes
  cases completes with
  | @more _ _ _ _ _ a _ above below completes =>
      cases completes with
      | @last _ _ b _ above' below' =>
          rw [UInt8.le_iff_toNat_le] at above below
          obtain ⟨above', below'⟩ := continuation above' below'
          have valid : ((bits * 64 + a.toNat % 64) * 64 + b.toNat % 64).isValidChar := by
            unfold Nat.isValidChar
            omega
          have first : ((bits * 64 + a.toNat % 64) * 64 + b.toNat % 64) / 4096 % 16 = bits := by
            omega
          have second : ((bits * 64 + a.toNat % 64) * 64 + b.toNat % 64) / 64 % 64 + 128 =
              a.toNat := by omega
          have third : ((bits * 64 + a.toNat % 64) * 64 + b.toNat % 64) % 64 + 128 = b.toNat := by
            omega
          unfold String.utf8EncodeChar
          rw [number_ofNat valid, if_neg (by omega), if_neg (by omega), if_pos (by omega), first,
            second, third, UInt8.ofNat_toNat, UInt8.ofNat_toNat]
          rfl

private theorem begins_four (bits : Nat) {low high : UInt8} (small : bits ≤ 4)
    (least : 0x80 ≤ low.toNat) (greatest : high.toNat ≤ 0xBF)
    (overlong : bits = 0 → 0x90 ≤ low.toNat) (last : bits = 4 → high.toNat ≤ 0x8F) :
    Begins [UInt8.ofNat (bits + 0xF0)] ⟨2, low, high, bits⟩ := by
  intro rest v completes
  cases completes with
  | @more _ _ _ _ _ a _ above below completes =>
      cases completes with
      | @more _ _ _ _ _ b _ above' below' completes =>
          cases completes with
          | @last _ _ c _ above'' below'' =>
              rw [UInt8.le_iff_toNat_le] at above below
              obtain ⟨above', below'⟩ := continuation above' below'
              obtain ⟨above'', below''⟩ := continuation above'' below''
              have valid : (((bits * 64 + a.toNat % 64) * 64 + b.toNat % 64) * 64 +
                  c.toNat % 64).isValidChar := by
                unfold Nat.isValidChar
                omega
              have first : (((bits * 64 + a.toNat % 64) * 64 + b.toNat % 64) * 64 +
                  c.toNat % 64) / 262144 % 8 = bits := by omega
              have second : (((bits * 64 + a.toNat % 64) * 64 + b.toNat % 64) * 64 +
                  c.toNat % 64) / 4096 % 64 + 128 = a.toNat := by omega
              have third : (((bits * 64 + a.toNat % 64) * 64 + b.toNat % 64) * 64 +
                  c.toNat % 64) / 64 % 64 + 128 = b.toNat := by omega
              have fourth : (((bits * 64 + a.toNat % 64) * 64 + b.toNat % 64) * 64 +
                  c.toNat % 64) % 64 + 128 = c.toNat := by omega
              unfold String.utf8EncodeChar
              rw [number_ofNat valid, if_neg (by omega), if_neg (by omega), if_neg (by omega),
                first, second, third, fourth, UInt8.ofNat_toNat, UInt8.ofNat_toNat,
                UInt8.ofNat_toNat]
              rfl

theorem begins_of_opening {b : UInt8} {p : Pending} (opens : opening b = some p) :
    Begins [b] p := by
  have byte := b.toNat_lt
  rw [show b = UInt8.ofNat b.toNat from UInt8.ofNat_toNat.symm] at opens ⊢
  generalize b.toNat = n at opens byte ⊢
  rw [opening_ofNat byte] at opens
  split at opens
  · cases opens
  split at opens
  · obtain ⟨bits, rfl⟩ : ∃ bits, n = bits + 0xC0 := ⟨n - 0xC0, by omega⟩
    rw [Nat.add_sub_cancel] at opens
    cases opens
    exact begins_two bits (by omega) (by omega)
  split at opens
  · rename_i here
    cases opens
    subst here
    exact begins_three 0 (by omega) (by simp) (by simp) (by simp) (by simp)
  split at opens
  · rename_i here
    cases opens
    subst here
    exact begins_three 0xD (by omega) (by simp) (by simp) (by simp) (by simp)
  split at opens
  · obtain ⟨bits, rfl⟩ : ∃ bits, n = bits + 0xE0 := ⟨n - 0xE0, by omega⟩
    rw [Nat.add_sub_cancel] at opens
    cases opens
    exact begins_three bits (by omega) (by simp) (by simp) (by omega) (by omega)
  split at opens
  · rename_i here
    cases opens
    subst here
    exact begins_four 0 (by omega) (by simp) (by simp) (by simp) (by simp)
  split at opens
  · obtain ⟨bits, rfl⟩ : ∃ bits, n = bits + 0xF0 := ⟨n - 0xF0, by omega⟩
    rw [Nat.add_sub_cancel] at opens
    cases opens
    exact begins_four bits (by omega) (by simp) (by simp) (by omega) (by omega)
  split at opens
  · rename_i here
    cases opens
    subst here
    exact begins_four 4 (by omega) (by simp) (by simp) (by simp) (by simp)
  · cases opens

/-! ## The bytes read so far -/

/-- Unless something was replaced, `bs` are the bytes of the characters read, and those of the one
that is open. -/
def Fits (bs : Bytes) (r : Reading) : Prop :=
  r.clean = true →
    match r.pending with
    | none => bs = r.chars.reverse.flatMap String.utf8EncodeChar
    | some p => ∃ front, bs = r.chars.reverse.flatMap String.utf8EncodeChar ++ front ∧
        Begins front p

theorem clean_start (r : Reading) (b : UInt8) (clean : (r.start b).clean = true) :
    r.clean = true := by
  unfold start at clean
  split at clean
  · exact clean
  · split at clean
    · exact clean
    · cases clean

private theorem fits_push {bs front : Bytes} {r : Reading} {c : Char}
    (read : bs = r.chars.reverse.flatMap String.utf8EncodeChar ++ front)
    (last : String.utf8EncodeChar c = front) : (r.push c).Fits bs := by
  intro clean
  simp only [push, List.reverse_cons, List.flatMap_append, List.flatMap_cons, List.flatMap_nil,
    List.append_nil, last]
  exact read

theorem Fits.start {bs : Bytes} {r : Reading} (fits : r.Fits bs) (between : r.pending = none)
    (b : UInt8) : (r.start b).Fits (bs ++ [b]) := by
  intro clean
  have read := fits (clean_start r b clean)
  rw [between] at read
  simp only at read
  unfold Reading.start at clean ⊢
  split at clean
  · rename_i ascii
    rw [if_pos ascii]
    rw [UInt8.lt_iff_toNat_lt, UInt8.toNat_ofNat] at ascii
    refine fits_push (congrArg (· ++ [b]) read) ?_ clean
    rw [encode_one (Nat.le_of_lt_succ ascii), UInt8.ofNat_toNat]
  · rename_i notAscii
    rw [if_neg notAscii]
    cases opens : opening b with
    | none =>
        rw [opens] at clean
        cases clean
    | some p => exact ⟨[b], congrArg (· ++ [b]) read, begins_of_opening opens⟩

theorem Fits.step {bs : Bytes} {r : Reading} (fits : r.Fits bs) (b : UInt8) :
    (r.step b).Fits (bs ++ [b]) := by
  cases pending : r.pending with
  | none =>
      simp only [Reading.step, pending]
      exact fits.start pending b
  | some p =>
      intro clean
      by_cases inside : p.low ≤ b ∧ b ≤ p.high
      · obtain ⟨more, low, high, bits⟩ := p
        simp only [Reading.step, pending, if_pos inside] at clean ⊢
        cases more with
        | zero =>
            have read := fits clean
            rw [pending] at read
            obtain ⟨front, read, begins⟩ := read
            refine fits_push ?_ (begins [b] _ (.last inside.1 inside.2)) clean
            rw [read, List.append_assoc]
        | succ m =>
            have read := fits clean
            rw [pending] at read
            obtain ⟨front, read, begins⟩ := read
            refine ⟨front ++ [b], ?_, ?_⟩
            · rw [read, List.append_assoc]
            · intro rest v completes
              rw [begins (b :: rest) v (.more inside.1 inside.2 completes), List.append_assoc]
              rfl
      · simp only [Reading.step, pending, if_neg inside] at clean
        cases clean_start _ b clean

theorem fits_foldl {bs : Bytes} (front : Bytes) {r : Reading} (fits : r.Fits front) :
    (bs.foldl Reading.step r).Fits (front ++ bs) := by
  induction bs generalizing front r with
  | nil => exact (List.append_nil front).symm ▸ fits
  | cons b rest ih =>
      rw [List.foldl_cons, List.append_cons]
      exact ih (front ++ [b]) (fits.step b)

end Reading

/-! ## Reading back -/

theorem utf8_of_clean {bs : Bytes} (clean : (read bs).clean = true) :
    utf8 (String.ofList (read bs).chars.reverse) = bs := by
  have fits : (bs.foldl Reading.step {}).Fits bs := Reading.fits_foldl [] fun _ => rfl
  unfold read Reading.finish at clean ⊢
  cases pending : (bs.foldl Reading.step {}).pending with
  | none =>
      simp only [pending] at clean ⊢
      have whole := fits clean
      rw [pending] at whole
      rw [utf8, String.toList_ofList]
      exact whole.symm
  | some p =>
      simp only [pending] at clean
      cases clean

/-- Strict reading gives a text for its bytes and for no others. -/
theorem ofUtf8?_eq_some {bs : Bytes} {t : String} : ofUtf8? bs = some t ↔ utf8 t = bs := by
  constructor
  · intro accepted
    unfold ofUtf8? at accepted
    simp only at accepted
    split at accepted
    · rename_i clean
      cases accepted
      exact utf8_of_clean clean
    · cases accepted
  · rintro rfl
    exact ofUtf8?_utf8 t

namespace Reading

/-- What was replaced shows. -/
def Shows (r : Reading) : Prop := r.clean = false → replacement ∈ r.chars

theorem shows_reject (r : Reading) : r.reject.Shows := fun _ => List.mem_cons_self ..

theorem Shows.push {r : Reading} (shows : r.Shows) (c : Char) : (r.push c).Shows :=
  fun replaced => List.mem_cons_of_mem c (shows replaced)

theorem Shows.start {r : Reading} (shows : r.Shows) (b : UInt8) : (r.start b).Shows := by
  unfold Reading.start
  split
  · exact shows.push _
  · split
    · exact shows
    · exact shows_reject r

theorem Shows.step {r : Reading} (shows : r.Shows) (b : UInt8) : (r.step b).Shows := by
  unfold Reading.step
  split
  · exact shows.start b
  · split
    · simp only
      split
      · exact shows.push _
      · exact shows
    · exact (shows_reject r).start b

theorem shows_foldl (bs : Bytes) {r : Reading} (shows : r.Shows) :
    (bs.foldl Reading.step r).Shows := by
  induction bs generalizing r with
  | nil => exact shows
  | cons b rest ih => exact ih (shows.step b)

end Reading

/-- A text without U+FFFD is read from its own bytes only. -/
theorem utf8_of_ofUtf8Lossy {bs : Bytes} {t : String} (lossy : ofUtf8Lossy bs = t)
    (plain : replacement ∉ t.toList) : utf8 t = bs := by
  have shows : (read bs).Shows := by
    have shows : (bs.foldl Reading.step {}).Shows := by
      apply Reading.shows_foldl
      intro replaced
      cases replaced
    unfold read Reading.finish
    split
    · exact shows
    · exact Reading.shows_reject _
  cases clean : (read bs).clean with
  | true =>
      rw [← lossy]
      exact utf8_of_clean clean
  | false =>
      have there := shows clean
      rw [← lossy, ofUtf8Lossy, String.toList_ofList, List.mem_reverse] at plain
      exact absurd there plain

end IdService.Text
