/-!
# Bytes

What travels on the wire and what the durable engine keeps: finite strings of bytes, with the
ASCII classes that the request format and its error texts speak of.
-/

namespace IdService

abbrev Bytes := List UInt8

namespace Byte

/-- The byte of an ASCII character. -/
def ofAscii (c : Char) : UInt8 := c.val.toUInt8

/-- Carriage return, the first half of a line terminator. -/
def cr : UInt8 := 13

/-- Line feed, the second half of a line terminator. -/
def lf : UInt8 := 10

/-- ASCII white space: space, tab, line feed, form feed and carriage return. The vertical tab and
NUL are not among them. -/
def isSpace (b : UInt8) : Bool :=
  b == 32 || b == 9 || b == 10 || b == 12 || b == 13

/-- Upper-cases an ASCII letter and keeps every other byte. -/
def toUpper (b : UInt8) : UInt8 :=
  if 97 ≤ b ∧ b ≤ 122 then b - 32 else b

/-- The lower-case hexadecimal digit of a number below sixteen. -/
def hexDigit (n : Nat) : Char :=
  if n < 10 then Char.ofNat (48 + n) else Char.ofNat (87 + n)

/-- How an error text shows a byte: printable ASCII as itself, quotes and the backslash behind a
backslash, and the rest as a short escape or as `\xNN`. -/
def escaped (b : UInt8) : List Char :=
  if b = 9 then ['\\', 't']
  else if b = 13 then ['\\', 'r']
  else if b = 10 then ['\\', 'n']
  else if b = 39 then ['\\', '\'']
  else if b = 34 then ['\\', '"']
  else if b = 92 then ['\\', '\\']
  else if 32 ≤ b ∧ b ≤ 126 then [Char.ofNat b.toNat]
  else ['\\', 'x', hexDigit (b.toNat / 16), hexDigit (b.toNat % 16)]

end Byte

namespace Bytes

/-- The bytes of a text known to be ASCII. -/
def ofAscii (s : String) : Bytes := s.toList.map Byte.ofAscii

/-- The line terminator of the wire format. -/
def crlf : Bytes := [Byte.cr, Byte.lf]

/-- Whether two byte strings agree once ASCII letters are upper-cased. -/
def equalsIgnoringCase (a b : Bytes) : Bool :=
  a.map Byte.toUpper == b.map Byte.toUpper

end Bytes
end IdService
