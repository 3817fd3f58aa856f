import IdService.Text.Utf8

/-!
# Requests

A command name and its arguments, kept as the bytes the client sent.
-/

namespace IdService.Wire

/-- A decoded client command. -/
structure Request where
  command : Bytes
  args : List Bytes
deriving Repr, DecidableEq

namespace Request

/-- The request of a command and its arguments; without parts there is none. -/
def ofParts? : List Bytes → Option Request
  | [] => none
  | command :: args => some ⟨command, args⟩

def parts (r : Request) : List Bytes := r.command :: r.args

/-- How many parts a request has, its command included. -/
def length (r : Request) : Nat := r.args.length + 1

/-- The argument at an index, counted from zero. -/
def arg? (r : Request) (i : Nat) : Option Bytes := r.args[i]?

/-- Whether the command is `name`, ASCII letters of either case being the same. -/
def hasName (r : Request) (name : String) : Bool :=
  Bytes.equalsIgnoringCase r.command (Text.utf8 name)

/-- The command as text, ASCII letters in upper case. Bytes that are not UTF-8 are replaced. -/
def name (r : Request) : String :=
  (Text.ofUtf8Lossy r.command).map Char.toUpper

end Request
end IdService.Wire
