import IdService.Numeral
import IdService.Text.Utf8
import IdService.Wire.Request
import IdService.Wire.Reply

/-!
# Wire encodings

Requests and replies as bytes. A request is always written as an array of bulk strings; a status
or an error text is written on one line, so that no text can end its frame early.
-/

namespace IdService.Wire

/-- A mark, a number and a terminator. -/
def header (mark : Char) (n : Int) : Bytes :=
  Byte.ofAscii mark :: (Numeral.write n).map Byte.ofAscii ++ Bytes.crlf

def bulk (data : Bytes) : Bytes := header '$' data.length ++ data ++ Bytes.crlf

/-- The bytes of a text on one line: CR and LF become spaces. -/
def oneLine (text : String) : Bytes :=
  (Text.utf8 text).map fun b => if b = Byte.cr ∨ b = Byte.lf then 32 else b

/-- A line of text behind its mark. -/
def textLine (mark : Char) (text : String) : Bytes :=
  Byte.ofAscii mark :: oneLine text ++ Bytes.crlf

def Request.encode (r : Request) : Bytes :=
  header '*' r.length ++ r.parts.flatMap bulk

def Reply.encode : Reply → Bytes
  | .status text => textLine '+' text
  | .error text => textLine '-' text
  | .integer n => header ':' n.toInt
  | .bulk data => Wire.bulk data
  | .nil => header '$' (-1)

end IdService.Wire
