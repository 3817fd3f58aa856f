import IdService.Proofs.Numeral

/-! # Lines of the wire format

Which texts are numerals, and what a length line is: a mark, a numeral and a terminator. A reader
finds the first terminator, and since a numeral holds no CR, that is its own. What has been found at
the front of some bytes is found there again when more bytes follow.
-/

namespace IdService.Wire

/-! ## Numerals -/

/-- An ASCII digit. -/
def IsDigit (b : UInt8) : Prop := 48 ≤ b ∧ b ≤ 57

instance (b : UInt8) : Decidable (IsDigit b) :=
  inferInstanceAs (Decidable (48 ≤ b ∧ b ≤ 57))

/-- A number with one more digit behind it. -/
def addDigit (n : Nat) (b : UInt8) : Nat := n * 10 + (b.toNat - 48)

/-- The number that digits write. -/
def digitsValue (ds : Bytes) : Nat := ds.foldl addDigit 0

/-- The texts that write a number: digits, at least one of them, with a sign or without. -/
inductive Writes : Bytes → Int → Prop where
  | plain {ds : Bytes} (nonempty : ds ≠ []) (digits : ∀ b ∈ ds, IsDigit b) :
      Writes ds (digitsValue ds)
  | plus {ds : Bytes} (nonempty : ds ≠ []) (digits : ∀ b ∈ ds, IsDigit b) :
      Writes (Byte.ofAscii '+' :: ds) (digitsValue ds)
  | minus {ds : Bytes} (nonempty : ds ≠ []) (digits : ∀ b ∈ ds, IsDigit b) :
      Writes (Byte.ofAscii '-' :: ds) (-digitsValue ds)

/-- A numeral is a text that writes an integer of 64 bits. -/
structure IsNumeral (text : Bytes) (n : Int) : Prop where
  writes : Writes text n
  within : Numeral.Range.int64.Contains n

section Reading

/-- ASCII bytes as characters. -/
private def chars (bs : Bytes) : List Char := bs.map fun b => Char.ofNat b.toNat

private theorem toNat_byte (b : UInt8) : (Char.ofNat b.toNat).toNat = b.toNat := by
  have valid : b.toNat.isValidChar := Or.inl (by have := b.toNat_lt; omega)
  rw [Char.ofNat, dif_pos valid]
  rfl

private theorem digit?_byte (b : UInt8) :
    Numeral.digit? (Char.ofNat b.toNat) = if IsDigit b then some (b.toNat - 48) else none := by
  have same : ('0' ≤ Char.ofNat b.toNat ∧ Char.ofNat b.toNat ≤ '9') ↔ IsDigit b := by
    simp only [Char.le_def, UInt32.le_iff_toNat_le, Char.toNat_val, toNat_byte, IsDigit,
      UInt8.le_iff_toNat_le]
    rfl
  simp only [Numeral.digit?, same, toNat_byte]

private theorem readUp_cons {high : Int} {n : Nat} (d : UInt8) (ds : Bytes) :
    Numeral.readUp high n (chars (d :: ds)) =
      if IsDigit d then
        if (addDigit n d : Int) ≤ high then Numeral.readUp high (addDigit n d) (chars ds)
        else .error .tooLarge
      else .error .invalidDigit := by
  simp only [chars, List.map_cons, Numeral.readUp, digit?_byte]
  by_cases digit : IsDigit d
  · have next : (n : Int) * 10 + (d.toNat - 48 : Nat) = addDigit n d := by simp [addDigit]
    simp only [if_pos digit, next]
  · simp only [if_neg digit]

private theorem readDown_cons {low : Int} {n : Nat} (d : UInt8) (ds : Bytes) :
    Numeral.readDown low (-n) (chars (d :: ds)) =
      if IsDigit d then
        if low ≤ -(addDigit n d : Int) then Numeral.readDown low (-(addDigit n d : Nat)) (chars ds)
        else .error .tooSmall
      else .error .invalidDigit := by
  simp only [chars, List.map_cons, Numeral.readDown, digit?_byte]
  by_cases digit : IsDigit d
  · have next : -(n : Int) * 10 - (d.toNat - 48 : Nat) = -(addDigit n d : Nat) := by
      simp only [addDigit]
      omega
    simp only [if_pos digit, next]
  · simp only [if_neg digit]

private theorem le_foldl_addDigit (n : Nat) (ds : Bytes) : n ≤ ds.foldl addDigit n := by
  induction ds generalizing n with
  | nil => exact Nat.le_refl n
  | cons d ds ih =>
      have := ih (addDigit n d)
      simp only [addDigit] at this
      simp only [List.foldl_cons, addDigit]
      omega

-- The reader checks the range at every digit. That is no more than to check it at the end, because
-- each further digit leads away from zero.
private theorem readUp_eq_ok_iff {high m : Int} {n : Nat} (below : (n : Int) ≤ high)
    (ds : Bytes) : Numeral.readUp high n (chars ds) = .ok m ↔
      (∀ b ∈ ds, IsDigit b) ∧ m = ds.foldl addDigit n ∧ m ≤ high := by
  induction ds generalizing n with
  | nil =>
      simp only [chars, List.map_nil, Numeral.readUp, Except.ok.injEq, List.foldl_nil]
      grind
  | cons d ds ih =>
      have grows := le_foldl_addDigit (addDigit n d) ds
      rw [readUp_cons, List.foldl_cons, List.forall_mem_cons]
      split
      · rename_i digit
        split
        · rename_i fits
          rw [ih fits]
          simp only [digit, true_and]
        · simp only [reduceCtorEq, false_iff]
          rintro ⟨-, rfl, small⟩
          omega
      · rename_i other
        simp only [reduceCtorEq, other, false_and]

private theorem readDown_eq_ok_iff {low m : Int} {n : Nat} (above : low ≤ -(n : Int))
    (ds : Bytes) : Numeral.readDown low (-n) (chars ds) = .ok m ↔
      (∀ b ∈ ds, IsDigit b) ∧ m = -(ds.foldl addDigit n : Nat) ∧ low ≤ m := by
  induction ds generalizing n with
  | nil =>
      simp only [chars, List.map_nil, Numeral.readDown, Except.ok.injEq, List.foldl_nil]
      grind
  | cons d ds ih =>
      have grows := le_foldl_addDigit (addDigit n d) ds
      rw [readDown_cons, List.foldl_cons, List.forall_mem_cons]
      split
      · rename_i digit
        split
        · rename_i fits
          rw [ih fits]
          simp only [digit, true_and]
        · simp only [reduceCtorEq, false_iff]
          rintro ⟨-, rfl, small⟩
          omega
      · rename_i other
        simp only [reduceCtorEq, other, false_and]

private theorem readUp_digits_iff (ds : Bytes) (n : Int) :
    Numeral.readUp Numeral.Range.int64.high 0 (chars ds) = .ok n ↔
      (∀ b ∈ ds, IsDigit b) ∧ n = digitsValue ds ∧ n ≤ Numeral.Range.int64.high :=
  readUp_eq_ok_iff (n := 0) (by decide) ds

private theorem readDown_digits_iff (ds : Bytes) (n : Int) :
    Numeral.readDown Numeral.Range.int64.low 0 (chars ds) = .ok n ↔
      (∀ b ∈ ds, IsDigit b) ∧ n = -digitsValue ds ∧ Numeral.Range.int64.low ≤ n :=
  readDown_eq_ok_iff (n := 0) (by decide) ds

private theorem read_plus (ds : Bytes) :
    Numeral.read .int64 (chars (Byte.ofAscii '+' :: ds)) =
      if ds = [] then .error .invalidDigit
      else Numeral.readUp Numeral.Range.int64.high 0 (chars ds) := by
  cases ds with
  | nil => rfl
  | cons d ds => rfl

private theorem read_minus (ds : Bytes) :
    Numeral.read .int64 (chars (Byte.ofAscii '-' :: ds)) =
      if ds = [] then .error .invalidDigit
      else Numeral.readDown Numeral.Range.int64.low 0 (chars ds) := by
  cases ds with
  | nil => rfl
  | cons d ds => rfl

private theorem read_unsigned {b : UInt8} (notPlus : b ≠ Byte.ofAscii '+')
    (notMinus : b ≠ Byte.ofAscii '-') (ds : Bytes) :
    Numeral.read .int64 (chars (b :: ds)) =
      Numeral.readUp Numeral.Range.int64.high 0 (chars (b :: ds)) := by
  have differs : ∀ {c : Char}, c.toNat < 256 → b ≠ Byte.ofAscii c → Char.ofNat b.toNat ≠ c := by
    intro c ascii other same
    apply other
    rw [← same, Byte.ofAscii]
    apply UInt8.toNat_inj.mp
    have := b.toNat_lt
    rw [UInt32.toNat_toUInt8, Char.toNat_val, toNat_byte]
    omega
  have plus := differs (by decide) notPlus
  have minus := differs (by decide) notMinus
  simp [chars, Numeral.read, plus, minus]

private theorem integer?_eq (bs : Bytes) (n : Int) :
    integer? bs = some n ↔ Numeral.read .int64 (chars bs) = .ok n := by
  unfold integer? chars
  cases Numeral.read .int64 (bs.map fun b => Char.ofNat b.toNat) with
  | ok m => simp only [Option.some.injEq, Except.ok.injEq]
  | error fault => simp only [reduceCtorEq]

private theorem writes_of_integer? {bs : Bytes} {n : Int} (found : integer? bs = some n) :
    Writes bs n := by
  rw [integer?_eq] at found
  cases bs with
  | nil => cases found
  | cons b ds =>
      by_cases plus : b = Byte.ofAscii '+'
      · subst plus
        rw [read_plus] at found
        split at found
        · cases found
        · rename_i nonempty
          obtain ⟨digits, rfl, -⟩ := (readUp_digits_iff ds n).mp found
          exact .plus nonempty digits
      by_cases minus : b = Byte.ofAscii '-'
      · subst minus
        rw [read_minus] at found
        split at found
        · cases found
        · rename_i nonempty
          obtain ⟨digits, rfl, -⟩ := (readDown_digits_iff ds n).mp found
          exact .minus nonempty digits
      rw [read_unsigned plus minus] at found
      obtain ⟨digits, rfl, -⟩ := (readUp_digits_iff (b :: ds) n).mp found
      exact .plain (List.cons_ne_nil b ds) digits

theorem IsNumeral.integer? {text : Bytes} {n : Int} (numeral : IsNumeral text n) :
    integer? text = some n := by
  obtain ⟨writes, low, high⟩ := numeral
  rw [integer?_eq]
  cases writes with
  | plain nonempty digits =>
      obtain ⟨d, ds, rfl⟩ := List.exists_cons_of_ne_nil nonempty
      have digit : IsDigit d := digits d (List.mem_cons_self ..)
      have plus : d ≠ Byte.ofAscii '+' := by rintro rfl; exact absurd digit (by decide)
      have minus : d ≠ Byte.ofAscii '-' := by rintro rfl; exact absurd digit (by decide)
      rw [read_unsigned plus minus]
      exact (readUp_digits_iff _ _).mpr ⟨digits, rfl, high⟩
  | plus nonempty digits =>
      rw [read_plus, if_neg nonempty]
      exact (readUp_digits_iff _ _).mpr ⟨digits, rfl, high⟩
  | minus nonempty digits =>
      rw [read_minus, if_neg nonempty]
      exact (readDown_digits_iff _ _).mpr ⟨digits, rfl, low⟩

end Reading

theorem integer?_eq_some_iff {text : Bytes} {n : Int} :
    integer? text = some n ↔ IsNumeral text n :=
  ⟨fun found => ⟨writes_of_integer? found, contains_of_integer? found⟩, IsNumeral.integer?⟩

theorem Writes.cr_not_mem {text : Bytes} {n : Int} (writes : Writes text n) : Byte.cr ∉ text := by
  have digits : ∀ {ds : Bytes}, (∀ b ∈ ds, IsDigit b) → Byte.cr ∉ ds := fun digits member =>
    absurd (digits _ member) (by decide)
  cases writes with
  | plain _ all => exact digits all
  | plus _ all => exact List.not_mem_cons_of_ne_of_not_mem (by decide) (digits all)
  | minus _ all => exact List.not_mem_cons_of_ne_of_not_mem (by decide) (digits all)

theorem IsNumeral.cr_not_mem {text : Bytes} {n : Int} (numeral : IsNumeral text n) :
    Byte.cr ∉ text := numeral.writes.cr_not_mem

/-- A text writes one number at most: no sign is a digit. -/
theorem Writes.unique {text : Bytes} {n m : Int} (writes : Writes text n) (also : Writes text m) :
    n = m := by
  have plus : ¬ IsDigit (Byte.ofAscii '+') := by decide
  have minus : ¬ IsDigit (Byte.ofAscii '-') := by decide
  cases writes with
  | plain _ digits =>
      cases also with
      | plain => rfl
      | plus => exact absurd (digits _ (List.mem_cons_self ..)) plus
      | minus => exact absurd (digits _ (List.mem_cons_self ..)) minus
  | plus =>
      cases also with
      | plain _ digits => exact absurd (digits _ (List.mem_cons_self ..)) plus
      | plus => rfl
  | minus =>
      cases also with
      | plain _ digits => exact absurd (digits _ (List.mem_cons_self ..)) minus
      | minus => rfl

/-! ## Terminators -/

theorem crlfIndexFrom_eq (i : Nat) (bs : Bytes) :
    crlfIndexFrom i bs = (crlfIndex? bs).map (i + ·) := by
  induction bs generalizing i with
  | nil => rfl
  | cons b rest ih =>
      simp only [crlfIndex?, crlfIndexFrom]
      split
      · rfl
      · rw [ih (i + 1), ih (0 + 1), Option.map_map]
        congr 1
        funext k
        simp only [Function.comp]
        omega

theorem crlfIndex?_cons (b : UInt8) (rest : Bytes) : crlfIndex? (b :: rest) =
    if b = Byte.cr ∧ rest.head? = some Byte.lf then some 0 else (crlfIndex? rest).map (1 + ·) := by
  rw [crlfIndex?, crlfIndexFrom, crlfIndexFrom_eq]

theorem crlfIndex?_text {text : Bytes} (unbroken : crlfIndex? text = none) (rest : Bytes) :
    crlfIndex? (text ++ Bytes.crlf ++ rest) = some text.length := by
  induction text with
  | nil => simp [crlfIndex?_cons, Bytes.crlf]
  | cons b text ih =>
      rw [crlfIndex?_cons] at unbroken
      split at unbroken
      · cases unbroken
      · rename_i other
        have apart : ¬ (b = Byte.cr ∧ (text ++ Bytes.crlf ++ rest).head? = some Byte.lf) := by
          rintro ⟨isCr, next⟩
          cases text with
          | nil =>
              have isLf : Byte.cr = Byte.lf := Option.some.inj next
              exact absurd isLf (by decide)
          | cons c text => exact other ⟨isCr, next⟩
        rw [List.cons_append, List.cons_append, crlfIndex?_cons, if_neg apart,
          ih (Option.map_eq_none_iff.mp unbroken)]
        simp [Nat.add_comm]

theorem split_of_crlfIndex? {bs : Bytes} {i : Nat} (found : crlfIndex? bs = some i) :
    ∃ text rest, bs = text ++ Bytes.crlf ++ rest ∧ text.length = i := by
  induction bs generalizing i with
  | nil => cases found
  | cons b bs ih =>
      rw [crlfIndex?_cons] at found
      split at found
      · rename_i terminator
        obtain ⟨rest, form⟩ := List.head?_eq_some_iff.mp terminator.2
        cases found
        exact ⟨[], rest, by simp [Bytes.crlf, terminator.1, form], rfl⟩
      · obtain ⟨j, below, rfl⟩ := Option.map_eq_some_iff.mp found
        obtain ⟨text, rest, rfl, rfl⟩ := ih below
        exact ⟨b :: text, rest, by simp, by simp [Nat.add_comm]⟩

theorem crlfIndex?_of_plain {text : Bytes} (plain : Byte.cr ∉ text) : crlfIndex? text = none := by
  cases inside : crlfIndex? text with
  | none => rfl
  | some i =>
      obtain ⟨early, later, rfl, -⟩ := split_of_crlfIndex? inside
      exact absurd plain (by simp [Bytes.crlf])

theorem IsNumeral.unbroken {text : Bytes} {n : Int} (numeral : IsNumeral text n) :
    crlfIndex? text = none := crlfIndex?_of_plain numeral.cr_not_mem

theorem crlfIndex?_append {bs : Bytes} {i : Nat} (found : crlfIndex? bs = some i) (more : Bytes) :
    crlfIndex? (bs ++ more) = some i := by
  induction bs generalizing i with
  | nil => cases found
  | cons b bs ih =>
      rw [crlfIndex?_cons] at found
      rw [List.cons_append, crlfIndex?_cons]
      split at found
      · rename_i terminator
        have stays : (bs ++ more).head? = some Byte.lf := by
          simp [List.head?_append, terminator.2]
        rw [if_pos ⟨terminator.1, stays⟩, found]
      · rename_i other
        obtain ⟨j, below, rfl⟩ := Option.map_eq_some_iff.mp found
        have stays : (bs ++ more).head? = bs.head? := by
          cases bs with
          | nil => cases below
          | cons => rfl
        rw [stays, if_neg other, ih below, Option.map_some]

/-- The first terminator is the one behind a text that holds none. -/
theorem crlfIndex?_eq_some_iff {bs : Bytes} {i : Nat} : crlfIndex? bs = some i ↔
    ∃ text rest, bs = text ++ Bytes.crlf ++ rest ∧ text.length = i ∧ crlfIndex? text = none := by
  constructor
  · intro found
    obtain ⟨text, rest, rfl, size⟩ := split_of_crlfIndex? found
    refine ⟨text, rest, rfl, size, ?_⟩
    cases inside : crlfIndex? text with
    | none => rfl
    | some j =>
        -- it would be the first of the whole, but it ends before the text does
        rw [List.append_assoc, crlfIndex?_append inside] at found
        obtain ⟨early, later, form, place⟩ := split_of_crlfIndex? inside
        have length := congrArg List.length form
        simp only [List.length_append, Bytes.crlf, List.length_cons] at length
        cases found
        omega
  · rintro ⟨text, rest, rfl, rfl, unbroken⟩
    exact crlfIndex?_text unbroken rest

theorem length_lt_of_open {text rest early later : Bytes} (plain : Byte.cr ∉ text)
    (form : early ++ later = text ++ Bytes.crlf ++ rest) (unended : crlfIndex? early = none) :
    early.length < text.length + 2 := by
  apply Nat.lt_of_not_le
  intro long
  have whole : text ++ Bytes.crlf <+: early :=
    List.prefix_of_prefix_length_le ⟨rest, rfl⟩ ⟨later, form⟩ (by simpa [Bytes.crlf] using long)
  obtain ⟨rest', rfl⟩ := whole
  rw [crlfIndex?_text (crlfIndex?_of_plain plain)] at unended
  cases unended

/-! ## Length lines -/

/-- A line that announces `n` behind a mark. -/
def Announces (mark : Char) (n : Int) (line : Bytes) : Prop :=
  ∃ text, IsNumeral text n ∧ line = Byte.ofAscii mark :: text ++ Bytes.crlf

theorem lengthLine_eq_some {input : Bytes} {line : LengthLine}
    (found : lengthLine input = .ok (some line)) :
    crlfIndex? input.tail = some line.width ∧
      integer? (input.tail.take line.width) = some line.value := by
  unfold lengthLine at found
  split at found
  · split at found <;> cases found
  · rename_i width ended
    split at found
    · cases found
    · rename_i value read
      cases found
      exact ⟨ended, read⟩

theorem size_le_of_lengthLine {input : Bytes} {line : LengthLine}
    (found : lengthLine input = .ok (some line)) : line.size ≤ input.length := by
  obtain ⟨text, rest, form, width⟩ := split_of_crlfIndex? (lengthLine_eq_some found).1
  have length := congrArg List.length form
  simp only [List.length_tail, List.length_append, Bytes.crlf, List.length_cons,
    List.length_nil] at length
  simp only [LengthLine.size]
  omega

theorem lengthLine_tooLong {input : Bytes}
    (refused : lengthLine input = .error .lengthLineTooLong) :
    crlfIndex? input.tail = none ∧ lengthLineBytes < input.length := by
  unfold lengthLine at refused
  split at refused
  · rename_i unended
    split at refused
    · rename_i long
      exact ⟨unended, long⟩
    · cases refused
  · split at refused <;> cases refused

theorem announces_of_lengthLine {mark : Char} {tail : Bytes} {line : LengthLine}
    (found : lengthLine (Byte.ofAscii mark :: tail) = .ok (some line)) :
    ∃ bytes rest, Byte.ofAscii mark :: tail = bytes ++ rest ∧ Announces mark line.value bytes ∧
      bytes.length = line.size := by
  obtain ⟨ended, read⟩ := lengthLine_eq_some found
  obtain ⟨text, rest, form, width⟩ := split_of_crlfIndex? ended
  simp only [List.tail_cons] at form read
  subst form
  rw [← width, List.append_assoc, List.take_left] at read
  refine ⟨Byte.ofAscii mark :: text ++ Bytes.crlf, rest, by simp,
    ⟨text, integer?_eq_some_iff.mp read, rfl⟩, ?_⟩
  simp [LengthLine.size, Bytes.crlf, ← width]

theorem Announces.lengthLine {mark : Char} {n : Int} {bytes : Bytes}
    (announced : Announces mark n bytes) (rest : Bytes) :
    ∃ line, lengthLine (bytes ++ rest) = .ok (some line) ∧ line.value = n ∧
      line.size = bytes.length := by
  obtain ⟨text, numeral, rfl⟩ := announced
  refine ⟨⟨n, text.length⟩, ?_, rfl, by simp [LengthLine.size, Bytes.crlf]⟩
  have ended := crlfIndex?_text numeral.unbroken rest
  have read := numeral.integer?
  simp only [Wire.lengthLine, List.cons_append, List.tail_cons, ended]
  rw [List.append_assoc, List.take_left, read]

/-- More bytes change nothing about a length line whose terminator has arrived. -/
theorem lengthLine_append {input : Bytes} (ended : (crlfIndex? input.tail).isSome) (more : Bytes) :
    lengthLine (input ++ more) = lengthLine input := by
  obtain ⟨width, ended⟩ := Option.isSome_iff_exists.mp ended
  obtain ⟨text, rest, form, length⟩ := split_of_crlfIndex? ended
  cases input with
  | nil => cases ended
  | cons mark tail =>
      simp only [List.tail_cons] at ended form
      simp only [lengthLine, List.cons_append, List.tail_cons, ended, crlfIndex?_append ended more]
      rw [form, ← length]
      simp only [List.append_assoc, List.take_left]

theorem lengthLine_append_of_some {input : Bytes} {line : LengthLine}
    (found : lengthLine input = .ok (some line)) (more : Bytes) :
    lengthLine (input ++ more) = .ok (some line) := by
  rw [lengthLine_append (by simp [(lengthLine_eq_some found).1]), found]

/-- A refusal stands, but for that of a line whose terminator may still come. -/
theorem lengthLine_append_of_error {input : Bytes} {fault : Fault}
    (refused : lengthLine input = .error fault) (ended : fault ≠ .lengthLineTooLong)
    (more : Bytes) : lengthLine (input ++ more) = .error fault := by
  have terminator : (crlfIndex? input.tail).isSome := by
    unfold lengthLine at refused
    split at refused
    · split at refused
      · cases refused
        exact absurd rfl ended
      · cases refused
    · rename_i terminator
      simp [terminator]
  rw [lengthLine_append terminator, refused]

theorem Announces.not_tooLong {mark : Char} {n : Int} {bytes rest early later : Bytes}
    (announced : Announces mark n bytes) (short : bytes.length ≤ lengthLineBytes + 1)
    (form : early ++ later = bytes ++ rest) :
    Wire.lengthLine early ≠ .error .lengthLineTooLong := by
  intro refused
  obtain ⟨unended, long⟩ := lengthLine_tooLong refused
  obtain ⟨text, numeral, rfl⟩ := announced
  cases early with
  | nil => simp at long
  | cons b early =>
      have arrived := length_lt_of_open numeral.cr_not_mem (List.cons.inj form).2 unended
      simp only [List.length_cons] at long
      simp only [Bytes.crlf, List.length_append, List.length_cons, List.length_nil] at short
      omega

end IdService.Wire
