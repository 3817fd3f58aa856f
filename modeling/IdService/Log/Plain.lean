import IdService.Log.Filter

/-!
# Plain patterns

A library for filters whose fields are asked for numbers and plain texts. Characters with which other
patterns can go wrong are refused.
-/

namespace IdService

/-- Whether a pattern can go wrong at a character. -/
def Patterns.isDelicate (c : Char) : Bool := "\\*+?()[\x7b".toList.contains c

def Patterns.plainRefusal? (value : String) : Option String :=
  match Numeral.read Numeral.Range.uint64 value.toList with
  | .ok _ => none
  | .error _ =>
    if value.toList.any isDelicate then some "only plain texts are patterns here" else none

instance : Patterns := ⟨Patterns.plainRefusal?⟩

end IdService
