import IdService.Json.Number

/-!
# Values of an expected kind

Readers for a JSON text whose form is known in advance: a text, a number of 16 bits, the elements
of a list and the members of an object. A value of another kind is refused by naming what was found
and what was expected.
-/

namespace IdService.Json

/-- Refuses the value at which `bs` starts. A simple value is read first, so that the fault lies
behind it; a list or an object is not entered. -/
def mismatch {α : Type} (expected : String) (bs : Bytes) : Except Fault α :=
  match bs with
  | [] => faultAt .expectedValue []
  | b :: rest => do
    match char b with
    | 'n' => faultBehind (.wrongType .null expected) (← word ['u', 'l', 'l'] rest)
    | 't' => faultBehind (.wrongType (.boolean true) expected) (← word ['r', 'u', 'e'] rest)
    | 'f' => faultBehind (.wrongType (.boolean false) expected) (← word ['a', 'l', 's', 'e'] rest)
    | '-' =>
      let (n, rest) ← number true rest
      faultBehind (.wrongType n.found expected) rest
    | '"' =>
      let (s, rest) ← string rest
      faultBehind (.wrongType (.string s) expected) rest
    | '[' => faultBehind (.wrongType .sequence expected) bs
    | '\x7b' => faultBehind (.wrongType .map expected) bs
    | _ =>
      if (digit? b).isSome then
        let (n, rest) ← number false bs
        faultBehind (.wrongType n.found expected) rest
      else faultAt .expectedValue bs

theorem mismatch_ne_ok {α : Type} {expected : String} {bs : Bytes} {a : α} :
    mismatch expected bs ≠ .ok a := by
  unfold mismatch
  simp only [bind, Except.bind]
  grind [faultBehind, faultAt]

def text (bs : Bytes) : Except Fault (String × Bytes) :=
  match skipSpace bs with
  | [] => faultBehind .endInValue []
  | b :: rest => if char b = '"' then string rest else mismatch "a string" (b :: rest)

theorem text_length_lt {bs rest : Bytes} {s : String} (h : text bs = .ok (s, rest)) :
    rest.length < bs.length := by
  unfold text at h
  grind [faultBehind, mismatch_ne_ok, skipSpace_length_le, → string_length_lt]

/-- The number of 16 bits that a number stands for. -/
def word16 (n : Number) (rest : Bytes) : Except Fault (UInt16 × Bytes) :=
  match n with
  | .integer i =>
    if Numeral.Range.uint16.Contains i then .ok (UInt16.ofNat i.toNat, rest)
    else faultBehind (.wrongValue n.found "u16") rest
  | .fraction _ => faultBehind (.wrongType n.found "u16") rest

theorem eq_of_word16 {n : Number} {bs rest : Bytes} {v : UInt16}
    (h : word16 n bs = .ok (v, rest)) : rest = bs := by
  unfold word16 at h
  grind [faultBehind]

def natural16 (bs : Bytes) : Except Fault (UInt16 × Bytes) :=
  match skipSpace bs with
  | [] => faultBehind .endInValue []
  | b :: rest => do
    if char b = '-' then
      let (n, rest) ← number true rest
      word16 n rest
    else if (digit? b).isSome then
      let (n, rest) ← number false (b :: rest)
      word16 n rest
    else mismatch "u16" (b :: rest)

theorem natural16_length_lt {bs rest : Bytes} {v : UInt16} (h : natural16 bs = .ok (v, rest)) :
    rest.length < bs.length := by
  unfold natural16 at h
  simp only [bind, Except.bind] at h
  grind [faultBehind, mismatch_ne_ok, skipSpace_length_le, → number_length_lt, → eq_of_word16]

/-- Whether a list goes on: with an element, where the bytes then start, or not, where they start
with the closing bracket. -/
def nextElement (first : Bool) (bs : Bytes) : Except Fault (Bool × Bytes) :=
  match skipSpace bs with
  | [] => faultBehind .endInList []
  | b :: rest =>
    if char b = ']' then .ok (false, b :: rest)
    else if first then .ok (true, b :: rest)
    else if char b = ',' then
      match skipSpace rest with
      | [] => faultBehind .endInValue []
      | b :: rest =>
        if char b = ']' then faultAt .trailingComma (b :: rest) else .ok (true, b :: rest)
    else faultAt .expectedCommaInList (b :: rest)

theorem nextElement_length_le {first more : Bool} {bs rest : Bytes}
    (h : nextElement first bs = .ok (more, rest)) : rest.length ≤ bs.length := by
  unfold nextElement at h
  grind [faultBehind, faultAt, skipSpace_length_le]

/-- Closes a list of which no more elements are expected. -/
def closeList (bs : Bytes) : Except Fault Bytes :=
  match skipSpace bs with
  | [] => faultBehind .endInList []
  | b :: rest =>
    if char b = ']' then .ok rest
    else if char b = ',' then
      match skipSpace rest with
      | [] => faultBehind .trailingCharacters []
      | b :: rest =>
        faultAt (if char b = ']' then .trailingComma else .trailingCharacters) (b :: rest)
    else faultAt .trailingCharacters (b :: rest)

theorem closeList_length_lt {bs rest : Bytes} (h : closeList bs = .ok rest) :
    rest.length < bs.length := by
  unfold closeList at h
  grind [faultBehind, faultAt, skipSpace_length_le]

/-- The name of the next member of an object, or none at its closing brace, where the bytes then
start. -/
def nextMember (first : Bool) (bs : Bytes) : Except Fault (Option String × Bytes) :=
  match skipSpace bs with
  | [] => faultBehind .endInObject []
  | b :: rest => do
    if char b = '\x7d' then return (none, b :: rest)
    else if first then
      if char b = '"' then
        let (name, rest) ← string rest
        return (some name, rest)
      else faultAt .keyNotString (b :: rest)
    else if char b = ',' then
      match skipSpace rest with
      | [] => faultBehind .endInValue []
      | b :: rest =>
        if char b = '"' then
          let (name, rest) ← string rest
          return (some name, rest)
        else if char b = '\x7d' then faultAt .trailingComma (b :: rest)
        else faultAt .keyNotString (b :: rest)
    else faultAt .expectedCommaInObject (b :: rest)

theorem nextMember_length_lt {first : Bool} {name : String} {bs rest : Bytes}
    (h : nextMember first bs = .ok (some name, rest)) : rest.length < bs.length := by
  unfold nextMember at h
  simp only [bind, Except.bind, pure, Except.pure] at h
  grind [faultBehind, faultAt, skipSpace_length_le, → string_length_lt]

theorem nextMember_length_le {first : Bool} {name : Option String} {bs rest : Bytes}
    (h : nextMember first bs = .ok (name, rest)) : rest.length ≤ bs.length := by
  unfold nextMember at h
  simp only [bind, Except.bind, pure, Except.pure] at h
  grind [faultBehind, faultAt, skipSpace_length_le, → string_length_lt]

/-- Reads the colon between the name of a member and its value. -/
def colon (bs : Bytes) : Except Fault Bytes :=
  match skipSpace bs with
  | [] => faultBehind .endInObject []
  | b :: rest => if char b = ':' then .ok rest else faultAt .expectedColon (b :: rest)

theorem colon_length_lt {bs rest : Bytes} (h : colon bs = .ok rest) :
    rest.length < bs.length := by
  unfold colon at h
  grind [faultBehind, faultAt, skipSpace_length_le]

/-- Refuses anything but white space behind a whole value. -/
def finish {α : Type} (a : α) (bs : Bytes) : Except Fault α :=
  match skipSpace bs with
  | [] => .ok a
  | b :: rest => faultAt .trailingCharacters (b :: rest)

/-! ## Writing -/

/-- A character inside a string: quotes, backslashes and control characters are escaped. -/
def writeChar (c : Char) : List Char :=
  if c = '"' then ['\\', '"']
  else if c = '\\' then ['\\', '\\']
  else if c.toNat = 8 then ['\\', 'b']
  else if c.toNat = 9 then ['\\', 't']
  else if c.toNat = 10 then ['\\', 'n']
  else if c.toNat = 12 then ['\\', 'f']
  else if c.toNat = 13 then ['\\', 'r']
  else if c.toNat < 32 then
    ['\\', 'u', '0', '0', Byte.hexDigit (c.toNat / 16), Byte.hexDigit (c.toNat % 16)]
  else [c]

def writeString (s : String) : List Char := '"' :: s.toList.flatMap writeChar ++ ['"']

end IdService.Json
