import IdService.Json.Fault
import IdService.Text.Utf8

/-!
# White space, words and strings of JSON

The readers of the smallest parts of a JSON text. Each takes the bytes that are left and gives what
it has read with the bytes after it. A lemma beside each reader says that those are fewer
(`escape_length_lt`, `string_length_lt`), or not more where nothing may be read; readers that repeat
another end by it.
-/

namespace IdService.Json

/-- The white space of JSON: space, LF, TAB and CR. -/
def isSpace (b : UInt8) : Bool := b == 32 || b == 10 || b == 9 || b == 13

def skipSpace (bs : Bytes) : Bytes := bs.dropWhile isSpace

theorem skipSpace_length_le (bs : Bytes) : (skipSpace bs).length ≤ bs.length :=
  (List.dropWhile_sublist _).length_le

def char (b : UInt8) : Char := Char.ofNat b.toNat

/-- Reads the letters of a word. -/
def word : List Char → Bytes → Except Fault Bytes
  | [], bs => .ok bs
  | _ :: _, [] => faultBehind .endInValue []
  | c :: letters, b :: rest =>
    if char b = c then word letters rest else faultBehind .expectedWord rest

theorem word_length_le {letters : List Char} {bs rest : Bytes} (h : word letters bs = .ok rest) :
    rest.length ≤ bs.length := by
  fun_induction word letters bs <;> grind [faultBehind]

/-- The value of a hexadecimal digit of either case. -/
def hexValue? (b : UInt8) : Option Nat :=
  let c := char b
  if '0' ≤ c ∧ c ≤ '9' then some (c.toNat - 48)
  else if 'a' ≤ c ∧ c ≤ 'f' then some (c.toNat - 87)
  else if 'A' ≤ c ∧ c ≤ 'F' then some (c.toNat - 55)
  else none

/-- Reads the four hexadecimal digits of a `\u` escape. -/
def hexEscape : Bytes → Except Fault (Nat × Bytes)
  | a :: b :: c :: d :: rest =>
    match hexValue? a, hexValue? b, hexValue? c, hexValue? d with
    | some a, some b, some c, some d => .ok (((a * 16 + b) * 16 + c) * 16 + d, rest)
    | _, _, _, _ => faultBehind .invalidEscape rest
  | _ => faultBehind .endInString []

theorem hexEscape_length_lt {bs rest : Bytes} {n : Nat} (h : hexEscape bs = .ok (n, rest)) :
    rest.length < bs.length := by
  unfold hexEscape at h
  grind [faultBehind]

/-- Reads the second half of a surrogate pair, whose first half is `high`. -/
def lowSurrogate (high : Nat) : Bytes → Except Fault (Char × Bytes)
  | [] => faultBehind .endInString []
  | b :: rest =>
    if char b ≠ '\\' then faultBehind .endOfSurrogate rest
    else match rest with
      | [] => faultBehind .endInString []
      | u :: rest =>
        if char u ≠ 'u' then faultBehind .endOfSurrogate rest
        else do
          let (low, rest) ← hexEscape rest
          if low < 0xDC00 ∨ 0xDFFF < low then faultBehind .loneSurrogate rest
          else return (Char.ofNat ((high - 0xD800) * 0x400 + (low - 0xDC00) + 0x10000), rest)

theorem lowSurrogate_length_lt {high : Nat} {bs rest : Bytes} {c : Char}
    (h : lowSurrogate high bs = .ok (c, rest)) : rest.length < bs.length := by
  unfold lowSurrogate at h
  simp only [bind, Except.bind, pure, Except.pure] at h
  grind [faultBehind, → hexEscape_length_lt]

/-- Reads the character of a `\u` escape. A surrogate must be one half of a pair. -/
def unicodeEscape (bs : Bytes) : Except Fault (Char × Bytes) := do
  let (n, rest) ← hexEscape bs
  if 0xDC00 ≤ n ∧ n ≤ 0xDFFF then faultBehind .loneSurrogate rest
  else if n < 0xD800 ∨ 0xDBFF < n then return (Char.ofNat n, rest)
  else lowSurrogate n rest

theorem unicodeEscape_length_lt {bs rest : Bytes} {c : Char}
    (h : unicodeEscape bs = .ok (c, rest)) : rest.length < bs.length := by
  unfold unicodeEscape at h
  simp only [bind, Except.bind, pure, Except.pure] at h
  grind [faultBehind, → hexEscape_length_lt, → lowSurrogate_length_lt]

/-- The character that a short escape stands for. -/
def shortEscape? (c : Char) : Option Char :=
  match c with
  | '"' => some '"'
  | '\\' => some '\\'
  | '/' => some '/'
  | 'b' => some (Char.ofNat 8)
  | 'f' => some (Char.ofNat 12)
  | 'n' => some '\n'
  | 'r' => some '\r'
  | 't' => some '\t'
  | _ => none

/-- Reads an escape, its backslash having been read. -/
def escape : Bytes → Except Fault (Char × Bytes)
  | [] => faultBehind .endInString []
  | b :: rest =>
    match shortEscape? (char b) with
    | some c => .ok (c, rest)
    | none => if char b = 'u' then unicodeEscape rest else faultBehind .invalidEscape rest

theorem escape_length_lt {bs rest : Bytes} {c : Char} (h : escape bs = .ok (c, rest)) :
    rest.length < bs.length := by
  unfold escape at h
  grind [faultBehind, → unicodeEscape_length_lt]

/-- Reads a string behind its opening quote, `content` being the UTF-8 of what has been read, last
byte first. -/
def stringBody (content : Bytes) (bs : Bytes) : Except Fault (String × Bytes) :=
  match bs with
  | [] => faultBehind .endInString []
  | b :: rest =>
    if char b = '"' then .ok (Text.ofUtf8Lossy content.reverse, rest)
    else if char b = '\\' then
      match _h : escape rest with
      | .error fault => .error fault
      | .ok (c, after) => stringBody ((String.utf8EncodeChar c).reverse ++ content) after
    else if b < 32 then faultBehind .controlCharacter rest
    else stringBody (b :: content) rest
termination_by bs.length
decreasing_by all_goals grind [→ escape_length_lt]

theorem stringBody_length_lt {content bs rest : Bytes} {s : String}
    (h : stringBody content bs = .ok (s, rest)) : rest.length < bs.length := by
  fun_induction stringBody content bs <;> grind [faultBehind, → escape_length_lt]

/-- Reads a string behind its opening quote. -/
def string (bs : Bytes) : Except Fault (String × Bytes) := stringBody [] bs

theorem string_length_lt {bs rest : Bytes} {s : String} (h : string bs = .ok (s, rest)) :
    rest.length < bs.length := stringBody_length_lt h

/-- Passes over an escape in a string that nobody asks for: surrogates are not looked at. -/
def skipEscape : Bytes → Except Fault Bytes
  | [] => faultBehind .endInString []
  | b :: rest =>
    if (shortEscape? (char b)).isSome then .ok rest
    else if char b = 'u' then do return (← hexEscape rest).2
    else faultBehind .invalidEscape rest

theorem skipEscape_length_lt {bs rest : Bytes} (h : skipEscape bs = .ok rest) :
    rest.length < bs.length := by
  unfold skipEscape at h
  simp only [bind, Except.bind, pure, Except.pure] at h
  grind [faultBehind, → hexEscape_length_lt]

/-- Passes over a string behind its opening quote. -/
def skipString (bs : Bytes) : Except Fault Bytes :=
  match bs with
  | [] => faultBehind .endInString []
  | b :: rest =>
    if char b = '"' then .ok rest
    else if char b = '\\' then
      match _h : skipEscape rest with
      | .error fault => .error fault
      | .ok after => skipString after
    else if b < 32 then faultBehind .controlCharacter (b :: rest)
    else skipString rest
termination_by bs.length
decreasing_by all_goals grind [→ skipEscape_length_lt]

theorem skipString_length_lt {bs rest : Bytes} (h : skipString bs = .ok rest) :
    rest.length < bs.length := by
  fun_induction skipString bs <;> grind [faultBehind, → skipEscape_length_lt]

end IdService.Json
