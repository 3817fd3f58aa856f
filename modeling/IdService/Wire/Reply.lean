import IdService.Bytes

/-!
# Replies

What the server answers to a request.
-/

namespace IdService.Wire

inductive Reply where
  /-- A short text of success. -/
  | status (text : String)
  /-- A text that says what went wrong. -/
  | error (text : String)
  | integer (n : Int64)
  | bulk (data : Bytes)
  /-- The absence of a value. -/
  | nil
deriving Repr, DecidableEq

namespace Reply

/-- The plain answer of a command that has worked. -/
def ok : Reply := status "OK"

/-- Whether a reply says that something went wrong. -/
def isError : Reply → Bool
  | error _ => true
  | _ => false

end Reply
end IdService.Wire
