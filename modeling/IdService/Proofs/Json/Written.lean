import IdService.Json.Typed
import IdService.Proofs.Numeral
import IdService.Proofs.Text.Utf8

/-! # Written JSON is read

What is written of a text, of a number and of the name of a member is read as such, whatever
follows. A character is written as itself or as an escape, and either is read as the bytes of the
character; so the bytes that a string has been read as so far are what the induction generalizes.
Bytes are given by their numbers: 34 is a quote, 44 a comma, 58 a colon, 92 a backslash, 91 and 93
are brackets, 123 and 125 are braces.
-/

namespace IdService.Text

/-- The bytes of characters. -/
def encode (cs : List Char) : Bytes := cs.flatMap String.utf8EncodeChar

theorem utf8_ofList (cs : List Char) : utf8 (String.ofList cs) = encode cs := by
  rw [utf8, String.toList_ofList, encode]

theorem encode_toList (s : String) : encode s.toList = utf8 s := rfl

theorem encode_append (cs ds : List Char) : encode (cs ++ ds) = encode cs ++ encode ds :=
  List.flatMap_append

theorem encode_cons (c : Char) (cs : List Char) :
    encode (c :: cs) = String.utf8EncodeChar c ++ encode cs :=
  List.flatMap_cons

end IdService.Text

namespace IdService.Json
open Text

theorem char_toNat (b : UInt8) : (char b).toNat = b.toNat := by
  have valid : b.toNat.isValidChar := .inl (Nat.lt_of_lt_of_le b.toNat_lt (by decide))
  rw [char, Char.ofNat, dif_pos valid]
  rfl

theorem hexValue?_hexDigit : ∀ k : Nat, k < 16 →
    ∃ b, String.utf8EncodeChar (Byte.hexDigit k) = [b] ∧ hexValue? b = some k
  | 0, _ | 1, _ | 2, _ | 3, _ | 4, _ | 5, _ | 6, _ | 7, _ | 8, _ | 9, _ | 10, _ | 11, _ | 12, _
  | 13, _ | 14, _ | 15, _ => ⟨_, rfl, by decide⟩
  | _ + 16, large => absurd large (by omega)

variable {content rest : Bytes}

theorem stringBody_escape {bs : Bytes} {c : Char} (read : escape bs = .ok (c, rest)) :
    stringBody content (92 :: bs) =
      stringBody ((String.utf8EncodeChar c).reverse ++ content) rest := by
  rw [stringBody, if_neg (by decide), if_pos (by decide)]
  split
  · rename_i refused
    rw [read] at refused
    cases refused
  · rename_i read'
    rw [read] at read'
    cases read'
    rfl

theorem stringBody_plain {bs : Bytes}
    (plain : ∀ b ∈ bs, char b ≠ '"' ∧ char b ≠ '\\' ∧ ¬ b < 32) :
    stringBody content (bs ++ rest) = stringBody (bs.reverse ++ content) rest := by
  induction bs generalizing content with
  | nil => rfl
  | cons b bs ih =>
      obtain ⟨quote, backslash, control⟩ := plain b (List.mem_cons_self ..)
      rw [List.cons_append, stringBody, if_neg quote, if_neg backslash, if_neg control,
        ih fun b member => plain b (List.mem_cons_of_mem _ member)]
      simp

theorem escape_control {c : Char} (low : c.toNat < 32) :
    ∃ bs, encode ['\\', 'u', '0', '0', Byte.hexDigit (c.toNat / 16),
      Byte.hexDigit (c.toNat % 16)] = 92 :: bs ∧ ∀ rest, escape (bs ++ rest) = .ok (c, rest) := by
  obtain ⟨a, first, isFirst⟩ := hexValue?_hexDigit (c.toNat / 16) (by omega)
  obtain ⟨b, second, isSecond⟩ := hexValue?_hexDigit (c.toNat % 16) (by omega)
  refine ⟨[117, 48, 48, a, b], ?_, fun rest => ?_⟩
  · simp only [encode, List.flatMap_cons, List.flatMap_nil, first, second]
    rfl
  · have zero : hexValue? 48 = some 0 := by decide
    have value : c.toNat / 16 * 16 + c.toNat % 16 = c.toNat := by omega
    have digits : hexEscape (48 :: 48 :: a :: b :: rest) = .ok (c.toNat, rest) := by
      simp only [hexEscape, zero, isFirst, isSecond, Nat.zero_mul, Nat.zero_add, value]
    have unpaired : ¬ (0xDC00 ≤ c.toNat ∧ c.toNat ≤ 0xDFFF) := by omega
    have single : c.toNat < 0xD800 ∨ 0xDBFF < c.toNat := by omega
    have unicode : unicodeEscape (48 :: 48 :: a :: b :: rest) = .ok (c, rest) := by
      simp only [unicodeEscape, digits, bind, Except.bind, if_neg unpaired, if_pos single,
        Char.ofNat_toNat]
      rfl
    exact unicode

theorem plain_of_encodeChar {c : Char} (quote : c ≠ '"') (backslash : c ≠ '\\')
    (control : ¬ c.toNat < 32) :
    ∀ b ∈ String.utf8EncodeChar c, char b ≠ '"' ∧ char b ≠ '\\' ∧ ¬ b < 32 := by
  intro b member
  have itself : b.toNat < 128 → c = char b := ascii_of_mem_encodeChar member
  have other : ∀ d : Char, c ≠ d → d.toNat < 128 → char b ≠ d := by
    rintro _ other ascii rfl
    rw [char_toNat] at ascii
    exact other (itself ascii)
  refine ⟨other _ quote (by decide), other _ backslash (by decide), fun low => ?_⟩
  have low : b.toNat < 32 := UInt8.lt_iff_toNat_lt.mp low
  apply control
  rw [itself (by omega), char_toNat]
  exact low

/-- A character is read from what is written of it. -/
theorem stringBody_writeChar (c : Char) :
    stringBody content (encode (writeChar c) ++ rest) =
      stringBody ((String.utf8EncodeChar c).reverse ++ content) rest := by
  have named : ∀ n, c.toNat = n → c = Char.ofNat n := by
    rintro _ rfl
    exact (Char.ofNat_toNat c).symm
  unfold writeChar
  split
  · subst c
    exact stringBody_escape rfl
  split
  · subst c
    exact stringBody_escape rfl
  split
  · obtain rfl := named _ ‹_›
    exact stringBody_escape rfl
  split
  · obtain rfl := named _ ‹_›
    exact stringBody_escape rfl
  split
  · obtain rfl := named _ ‹_›
    exact stringBody_escape rfl
  split
  · obtain rfl := named _ ‹_›
    exact stringBody_escape rfl
  split
  · obtain rfl := named _ ‹_›
    exact stringBody_escape rfl
  split
  · obtain ⟨bs, bytes, read⟩ := escape_control ‹_›
    rw [bytes]
    exact stringBody_escape (read rest)
  · rw [encode, List.flatMap_singleton]
    exact stringBody_plain (plain_of_encodeChar ‹_› ‹_› ‹_›)

/-- What is written of a text is read as the text. -/
theorem string_writeString (s : String) (rest : Bytes) :
    string (encode (s.toList.flatMap writeChar ++ ['"']) ++ rest) = .ok (s, rest) := by
  have chars : ∀ (cs : List Char) (content : Bytes),
      stringBody content (encode (cs.flatMap writeChar ++ ['"']) ++ rest) =
        .ok (ofUtf8Lossy (content.reverse ++ encode cs), rest) := by
    intro cs
    induction cs with
    | nil =>
        intro content
        have quote : encode ['"'] = [34] := rfl
        have empty : encode [] = [] := rfl
        rw [List.flatMap_nil, List.nil_append, quote, empty, List.append_nil, List.cons_append,
          stringBody, if_pos (by decide), List.nil_append]
    | cons c cs ih =>
        intro content
        rw [List.flatMap_cons, List.append_assoc, encode_append, List.append_assoc,
          stringBody_writeChar, ih, List.reverse_append, List.reverse_reverse, encode_cons,
          List.append_assoc]
  have read := chars s.toList []
  rw [List.reverse_nil, List.nil_append, encode_toList, ofUtf8Lossy_utf8] at read
  exact read

/-! ## Numbers -/

theorem encode_digitChar : ∀ d : Nat, d < 10 →
    ∃ b, String.utf8EncodeChar (Numeral.digitChar d) = [b] ∧ digit? b = some d
  | 0, _ | 1, _ | 2, _ | 3, _ | 4, _ | 5, _ | 6, _ | 7, _ | 8, _ | 9, _ => ⟨_, rfl, by decide⟩
  | _ + 10, large => absurd large (by omega)

/-- A number in decimal is its first digit, which is not zero unless it is the whole, and digits
that make it up to the number. -/
theorem encode_digits {n : Nat} (fits : n < UInt64.size) :
    ∃ b d more, encode (Numeral.digits n) = b :: more ∧ digit? b = some d ∧
      (d = 0 → n = 0 ∧ more = []) ∧
      ∀ taken rest, ∃ taken', takeDigits d taken (more ++ rest) = takeDigits n taken' rest := by
  fun_induction Numeral.digits n with
  | case1 n small =>
      obtain ⟨b, bytes, digit⟩ := encode_digitChar n small
      refine ⟨b, n, [], ?_, digit, fun zero => ⟨zero, rfl⟩, fun taken rest => ⟨taken, rfl⟩⟩
      rw [encode, List.flatMap_singleton, bytes]
  | case2 n large ih =>
      obtain ⟨b, d, more, bytes, digit, zero, takes⟩ := ih (by omega)
      obtain ⟨last, lastBytes, lastDigit⟩ := encode_digitChar (n % 10) (by omega)
      refine ⟨b, d, more ++ [last], ?_, digit, ?_, ?_⟩
      · rw [encode_append, bytes, encode, List.flatMap_singleton, lastBytes]
        rfl
      · intro isZero
        obtain ⟨tenth, -⟩ := zero isZero
        omega
      · intro taken rest
        obtain ⟨taken', front⟩ := takes taken (last :: rest)
        have value : n / 10 * 10 + n % 10 = n := by omega
        refine ⟨taken' + 1, ?_⟩
        rw [List.append_assoc]
        refine front.trans ?_
        rw [takeDigits, lastDigit]
        simp only [value, if_pos fits]

/-- A byte behind which a member ends: a comma or a closing brace. -/
def EndsMember (b : UInt8) : Prop := b = 44 ∨ b = 125

theorem afterDigits_whole {b : UInt8} (ends : EndsMember b) (n : Nat) (rest : Bytes) :
    afterDigits false n 0 (b :: rest) = .ok (.integer n, b :: rest) := by
  rcases ends with rfl | rfl
  · rfl
  · rfl

theorem number_digits {n : Nat} (fits : n < UInt64.size) {b : UInt8} (ends : EndsMember b)
    (rest : Bytes) :
    number false (encode (Numeral.digits n) ++ b :: rest) = .ok (.integer n, b :: rest) := by
  obtain ⟨first, d, more, bytes, digit, zero, takes⟩ := encode_digits fits
  have noDigit : digit? b = none := by rcases ends with rfl | rfl <;> decide
  have stops : startsWithDigit (b :: rest) = false := by rw [startsWithDigit, noDigit]; rfl
  rw [bytes, List.cons_append]
  cases d with
  | zero =>
      obtain ⟨rfl, rfl⟩ := zero rfl
      simp only [number, digit, List.nil_append, stops]
      exact afterDigits_whole ends 0 rest
  | succ d =>
      obtain ⟨taken, front⟩ := takes 0 (b :: rest)
      have taken' : takeDigits n taken (b :: rest) = (n, taken, b :: rest) := by
        rw [takeDigits, noDigit]
      have skipped : skipDigits 0 (b :: rest) = (0, b :: rest) := by
        rw [skipDigits, noDigit]
        rfl
      simp only [number, digit, front, taken', skipped]
      exact afterDigits_whole ends n rest

theorem digit?_bounds {b : UInt8} {d : Nat} (digit : digit? b = some d) :
    48 ≤ b.toNat ∧ b.toNat ≤ 57 := by
  unfold digit? Numeral.digit? at digit
  split at digit
  · rename_i inside
    rw [← char_toNat b]
    exact inside
  · cases digit

theorem natural16_digits (v : UInt16) {b : UInt8} (ends : EndsMember b) (rest : Bytes) :
    natural16 (encode (Numeral.digits v.toNat) ++ b :: rest) = .ok (v, b :: rest) := by
  have small : v.toNat < UInt64.size := Nat.lt_trans v.toNat_lt (by decide)
  have read := number_digits small ends rest
  obtain ⟨first, d, more, bytes, digit, -⟩ := encode_digits small
  rw [bytes, List.cons_append] at read ⊢
  obtain ⟨low, high⟩ := digit?_bounds digit
  have notSpace : isSpace first = false := by
    simp only [isSpace, Bool.or_eq_false_iff, beq_eq_false_iff_ne, ne_eq, ← UInt8.toNat_inj,
      UInt8.toNat_ofNat]
    omega
  have notMinus : char first ≠ '-' := by
    intro same
    have number := char_toNat first
    rw [same] at number
    rw [← number] at low
    exact absurd low (by decide)
  have within := Numeral.Range.contains_uint16 v
  have value : UInt16.ofNat ((v.toNat : Int)).toNat = v := by
    rw [Int.toNat_natCast, UInt16.ofNat_toNat]
  simp only [natural16, skipSpace, List.dropWhile_cons, notSpace, Bool.false_eq_true, if_false,
    if_neg notMinus, digit, Option.isSome_some, if_true, read, bind, Except.bind, word16,
    if_pos within, value]

/-! ## Members -/

theorem encode_writeString (s : String) : encode (writeString s) =
    34 :: encode (s.toList.flatMap writeChar ++ ['"']) := by
  rw [writeString, List.cons_append, encode_cons]
  rfl

theorem text_writeString (s : String) (rest : Bytes) :
    text (encode (writeString s) ++ rest) = .ok (s, rest) := by
  rw [encode_writeString]
  exact string_writeString s rest

theorem colon_cons (bs : Bytes) : colon (58 :: bs) = .ok bs := rfl

theorem nextMember_first (name : String) (rest : Bytes) :
    nextMember true (encode (writeString name) ++ rest) = .ok (some name, rest) := by
  have read := string_writeString name rest
  rw [encode_writeString]
  have opened : skipSpace (34 :: (encode (name.toList.flatMap writeChar ++ ['"']) ++ rest)) =
    34 :: (encode (name.toList.flatMap writeChar ++ ['"']) ++ rest) := rfl
  simp only [nextMember, List.cons_append, opened, read, bind, Except.bind]
  rfl

theorem nextMember_comma (name : String) (rest : Bytes) :
    nextMember false (44 :: (encode (writeString name) ++ rest)) = .ok (some name, rest) := by
  have read := string_writeString name rest
  rw [encode_writeString]
  have opened : skipSpace (34 :: (encode (name.toList.flatMap writeChar ++ ['"']) ++ rest)) =
    34 :: (encode (name.toList.flatMap writeChar ++ ['"']) ++ rest) := rfl
  have comma : ∀ bs : Bytes, skipSpace (44 :: bs) = 44 :: bs := fun _ => rfl
  simp only [nextMember, List.cons_append, comma, opened, read, bind, Except.bind]
  rfl

end IdService.Json
