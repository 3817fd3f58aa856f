import IdService.Bytes
import IdService.Text.Visible

/-!
# Quoted texts

A text between double quotes, with everything that is not plainly visible escaped: how an error
message shows a text that it refuses.
-/

namespace IdService.Text

/-- The lower-case hexadecimal digits of a number. -/
def hex (n : Nat) : List Char :=
  if n < 16 then [Byte.hexDigit n] else hex (n / 16) ++ [Byte.hexDigit (n % 16)]
termination_by n

/-- A character inside a quoted text. -/
def quotedChar (c : Char) : List Char :=
  if c.toNat = 0 then ['\\', '0']
  else if c = '\t' then ['\\', 't']
  else if c = '\r' then ['\\', 'r']
  else if c = '\n' then ['\\', 'n']
  else if c = '"' then ['\\', '"']
  else if c = '\\' then ['\\', '\\']
  else if isVisible c then [c]
  else '\\' :: 'u' :: Char.ofNat 0x7B :: hex c.toNat ++ [Char.ofNat 0x7D]

def quoted (s : String) : String :=
  String.ofList ('"' :: s.toList.flatMap quotedChar ++ ['"'])

end IdService.Text
