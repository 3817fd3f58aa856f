import IdService.Bytes
import IdService.Numeral
import IdService.Text.Quoted

/-!
# Faults of a JSON text

What is wrong with a text that should hold JSON of a certain form, and where. A fault keeps the
bytes that had not been read when it was found; line and column follow from them.
-/

namespace IdService.Json

/-- A value found where another kind of value was expected. -/
inductive Found where
  | null
  | boolean (b : Bool)
  | integer (n : Int)
  /-- A number with a fraction or an exponent, in its shortest form. -/
  | fraction (text : String)
  | string (s : String)
  | sequence
  | map
deriving Repr, DecidableEq

/-- How an error message names a value. -/
def Found.shown : Found → String
  | .null => "null"
  | .boolean b => "boolean `" ++ (if b then "true" else "false") ++ "`"
  | .integer n => "integer `" ++ Numeral.text n ++ "`"
  | .fraction text => "floating point `" ++ text ++ "`"
  | .string s => "string " ++ Text.quoted s
  | .sequence => "sequence"
  | .map => "map"

/-- What is wrong. -/
inductive Cause where
  | endInValue
  | endInList
  | endInObject
  | endInString
  | expectedValue
  | expectedWord
  | expectedColon
  | expectedCommaInList
  | expectedCommaInObject
  | trailingComma
  | trailingCharacters
  | keyNotString
  | invalidNumber
  | numberOutOfRange
  | invalidEscape
  | loneSurrogate
  | endOfSurrogate
  | controlCharacter
  | wrongType (found : Found) (expected : String)
  | wrongValue (found : Found) (expected : String)
  | wrongLength (found : Nat) (expected : String)
  | missingMember (name : String)
  | repeatedMember (name : String)
deriving Repr, DecidableEq

/-- The text of a cause. -/
def Cause.message : Cause → String
  | .endInValue => "EOF while parsing a value"
  | .endInList => "EOF while parsing a list"
  | .endInObject => "EOF while parsing an object"
  | .endInString => "EOF while parsing a string"
  | .expectedValue => "expected value"
  | .expectedWord => "expected ident"
  | .expectedColon => "expected `:`"
  | .expectedCommaInList => "expected `,` or `]`"
  | .expectedCommaInObject => "expected `,` or `\x7d`"
  | .trailingComma => "trailing comma"
  | .trailingCharacters => "trailing characters"
  | .keyNotString => "key must be a string"
  | .invalidNumber => "invalid number"
  | .numberOutOfRange => "number out of range"
  | .invalidEscape => "invalid escape"
  | .loneSurrogate => "lone leading surrogate in hex escape"
  | .endOfSurrogate => "unexpected end of hex escape"
  | .controlCharacter => "control character (\\u0000-\\u001F) found while parsing a string"
  | .wrongType found expected => "invalid type: " ++ found.shown ++ ", expected " ++ expected
  | .wrongValue found expected => "invalid value: " ++ found.shown ++ ", expected " ++ expected
  | .wrongLength found expected =>
    "invalid length " ++ Numeral.text found ++ ", expected " ++ expected
  | .missingMember name => "missing field `" ++ name ++ "`"
  | .repeatedMember name => "duplicate field `" ++ name ++ "`"

/-- A cause and the bytes that were left when it was found. -/
structure Fault where
  cause : Cause
  unread : Bytes
deriving Repr, DecidableEq

/-- A place in a text: its line from one on, and how many bytes of that line precede it. -/
structure Place where
  line : Nat
  column : Nat
deriving Repr, DecidableEq

/-- The place behind the bytes that have been read. -/
def Place.behind (readBytes : Bytes) : Place :=
  readBytes.foldl
    (fun p b => if b = Byte.lf then ⟨p.line + 1, 0⟩ else ⟨p.line, p.column + 1⟩) ⟨1, 0⟩

/-- Where in `source` a fault was found. -/
def Fault.place (f : Fault) (source : Bytes) : Place :=
  Place.behind (source.take (source.length - f.unread.length))

/-- The text of a fault in `source`. -/
def Fault.message (f : Fault) (source : Bytes) : String :=
  let p := f.place source
  f.cause.message ++ " at line " ++ Numeral.text p.line ++ " column " ++ Numeral.text p.column

/-- A fault at a byte that has been looked at, which counts as read. -/
def faultAt {α : Type} (cause : Cause) (rest : Bytes) : Except Fault α :=
  .error ⟨cause, rest.tail⟩

/-- A fault behind the bytes that have been read. -/
def faultBehind {α : Type} (cause : Cause) (rest : Bytes) : Except Fault α :=
  .error ⟨cause, rest⟩

end IdService.Json
