import IdService.Bytes

/-!
# UTF-8

Text as bytes and bytes as text. Reading is one machine over the bytes; it never fails, but puts
U+FFFD where bytes are not UTF-8, once for each maximal invalid part, and remembers that it did.
Strict reading accepts what the machine reads without a replacement.
-/

namespace IdService.Text

def utf8 (s : String) : Bytes := s.toList.flatMap String.utf8EncodeChar

/-- Different texts have different bytes. -/
theorem utf8_injective {s t : String} (h : utf8 s = utf8 t) : s = t := by
  have encoded : s.toList.utf8Encode = t.toList.utf8Encode := by
    unfold List.utf8Encode
    unfold utf8 at h
    rw [h]
  rw [String.utf8Encode_toList, String.utf8Encode_toList] at encoded
  exact String.toByteArray_inj.mp encoded

/-- The character that stands for bytes that are not UTF-8. -/
def replacement : Char := Char.ofNat 0xFFFD

/-- A character whose first byte has been read: how many continuation bytes follow the next one,
the range the next one must lie in, and the bits read so far. -/
structure Pending where
  more : Nat
  low : UInt8
  high : UInt8
  bits : Nat
deriving Repr, DecidableEq

/-- What a byte outside ASCII opens. The narrowed ranges leave out overlong forms, surrogates and
codes above U+10FFFF. -/
def opening (b : UInt8) : Option Pending :=
  if b < 0xC2 then none
  else if b < 0xE0 then some ⟨0, 0x80, 0xBF, b.toNat - 0xC0⟩
  else if b = 0xE0 then some ⟨1, 0xA0, 0xBF, 0⟩
  else if b = 0xED then some ⟨1, 0x80, 0x9F, 0xD⟩
  else if b < 0xF0 then some ⟨1, 0x80, 0xBF, b.toNat - 0xE0⟩
  else if b = 0xF0 then some ⟨2, 0x90, 0xBF, 0⟩
  else if b < 0xF4 then some ⟨2, 0x80, 0xBF, b.toNat - 0xF0⟩
  else if b = 0xF4 then some ⟨2, 0x80, 0x8F, 4⟩
  else none

/-- Progress through bytes read as text: the characters so far (last first), the character that
has been opened, and whether every byte so far fitted. -/
structure Reading where
  chars : List Char := []
  pending : Option Pending := none
  clean : Bool := true
deriving Repr, DecidableEq

namespace Reading

def push (r : Reading) (c : Char) : Reading :=
  { r with chars := c :: r.chars, pending := none }

/-- Gives up the open bytes and puts one replacement in their place. -/
def reject (r : Reading) : Reading :=
  { chars := replacement :: r.chars, pending := none, clean := false }

/-- Reads a byte at which a character starts. -/
def start (r : Reading) (b : UInt8) : Reading :=
  if b < 0x80 then r.push (Char.ofNat b.toNat)
  else match opening b with
    | some p => { r with pending := some p }
    | none => r.reject

/-- Reads one byte: a byte that does not continue the open character ends it as invalid and is
then read on its own. -/
def step (r : Reading) (b : UInt8) : Reading :=
  match r.pending with
  | none => r.start b
  | some p =>
    if p.low ≤ b ∧ b ≤ p.high then
      let bits := p.bits * 64 + b.toNat % 64
      match p.more with
      | 0 => r.push (Char.ofNat bits)
      | n + 1 => { r with pending := some ⟨n, 0x80, 0xBF, bits⟩ }
    else r.reject.start b

/-- Ends the text; a character left open is invalid. -/
def finish (r : Reading) : Reading :=
  match r.pending with
  | none => r
  | some _ => r.reject

end Reading

/-- The whole of `bs` read as text. -/
def read (bs : Bytes) : Reading := (bs.foldl Reading.step {}).finish

/-- The text of `bs`, with U+FFFD once for each maximal part that is not UTF-8. -/
def ofUtf8Lossy (bs : Bytes) : String := String.ofList (read bs).chars.reverse

/-- The text of `bs` if all of it is UTF-8. -/
def ofUtf8? (bs : Bytes) : Option String :=
  let r := read bs
  if r.clean then some (String.ofList r.chars.reverse) else none

end IdService.Text
