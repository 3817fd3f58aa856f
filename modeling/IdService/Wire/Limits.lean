/-!
# Limits

How large a frame may be. A frame beyond a limit is refused when it announces its size, before its
bytes have arrived.
-/

namespace IdService.Wire

/-- The most elements of a request, the most bytes of a bulk string, and the most bytes of a line
in front of its terminator. -/
structure Limits where
  elements : Nat := 1024 * 1024
  bulkBytes : Nat := 512 * 1024 * 1024
  lineBytes : Nat := 64 * 1024
deriving Repr, DecidableEq

end IdService.Wire
