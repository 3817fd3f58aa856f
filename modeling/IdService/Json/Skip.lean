import IdService.Json.Number

/-!
# Passing over a value

Members that nobody asks for may hold any JSON value; it is checked and forgotten. The lists and
objects that are open are kept on a stack, so nesting may be as deep as the text allows. Passing
over a value never adds bytes (`skipValue_length_le`).
-/

namespace IdService.Json

/-- A list or an object that has been opened. -/
inductive Enclosing where
  | list
  | object
deriving Repr, DecidableEq

/-- Passes over a value that holds no others. -/
def skipScalar : Bytes → Except Fault Bytes
  | [] => faultBehind .endInValue []
  | b :: rest =>
    match char b with
    | 'n' => word ['u', 'l', 'l'] rest
    | 't' => word ['r', 'u', 'e'] rest
    | 'f' => word ['a', 'l', 's', 'e'] rest
    | '-' => skipNumber rest
    | '"' => skipString rest
    | _ =>
      if (digit? b).isSome then skipNumber (b :: rest) else faultAt .expectedValue (b :: rest)

theorem skipScalar_length_lt {bs rest : Bytes} (h : skipScalar bs = .ok rest) :
    rest.length < bs.length := by
  unfold skipScalar at h
  grind [faultBehind, faultAt, → word_length_le, → skipNumber_length_lt, → skipString_length_lt]

/-- Passes over a key and its colon, from the place where a key must start. -/
def skipKey (bs : Bytes) : Except Fault Bytes :=
  match skipSpace bs with
  | [] => faultBehind .endInObject []
  | b :: rest =>
    if char b ≠ '"' then faultAt .keyNotString (b :: rest)
    else do
      match skipSpace (← skipString rest) with
      | [] => faultBehind .endInObject []
      | b :: rest => if char b = ':' then return rest else faultAt .expectedColon (b :: rest)

theorem skipKey_length_lt {bs rest : Bytes} (h : skipKey bs = .ok rest) :
    rest.length < bs.length := by
  unfold skipKey at h
  simp only [bind, Except.bind, pure, Except.pure] at h
  grind [faultBehind, faultAt, skipSpace_length_le, → skipString_length_lt]

/-- What is to be read next while a value is passed over. -/
inductive Stage where
  | value
  /-- A comma or the end of the innermost list or object; the first place in it, just behind its
  opening, takes no comma. -/
  | next (first : Bool)
deriving Repr, DecidableEq

/-- How many steps a stage may take before a byte is read. -/
def Stage.idle : Stage → Nat
  | value => 0
  | next _ => 1

/-- Passes over the rest of a value, `enclosing` being open around the place, innermost first. -/
def skipRest (stage : Stage) (enclosing : List Enclosing) (bs : Bytes) : Except Fault Bytes :=
  match stage, enclosing with
  | .value, enclosing =>
    match _h : skipSpace bs with
    | [] => faultBehind .endInValue []
    | b :: rest =>
      if char b = '[' then skipRest (.next true) (.list :: enclosing) rest
      else if char b = '\x7b' then skipRest (.next true) (.object :: enclosing) rest
      else match _h : skipScalar (b :: rest) with
        | .error fault => .error fault
        | .ok after => skipRest (.next false) enclosing after
  | .next _, [] => .ok bs
  | .next first, .list :: outer =>
    match _h : skipSpace bs with
    | [] => faultBehind .endInList []
    | b :: rest =>
      if char b = ']' then skipRest (.next false) outer rest
      else if first then skipRest .value (.list :: outer) (b :: rest)
      else if char b = ',' then skipRest .value (.list :: outer) rest
      else faultAt .expectedCommaInList (b :: rest)
  | .next first, .object :: outer =>
    match _h : skipSpace bs with
    | [] => faultBehind .endInObject []
    | b :: rest =>
      if char b = '\x7d' then skipRest (.next false) outer rest
      else if !first && char b ≠ ',' then faultAt .expectedCommaInObject (b :: rest)
      else match _h : skipKey (if first then b :: rest else rest) with
        | .error fault => .error fault
        | .ok after => skipRest .value (.object :: outer) after
termination_by 2 * bs.length + stage.idle
decreasing_by
  all_goals
    have := skipSpace_length_le bs
    grind [Stage.idle, → skipScalar_length_lt, → skipKey_length_lt]

def skipValue (bs : Bytes) : Except Fault Bytes := skipRest .value [] bs

theorem skipRest_length_le {stage : Stage} {enclosing : List Enclosing} {bs rest : Bytes}
    (h : skipRest stage enclosing bs = .ok rest) : rest.length ≤ bs.length := by
  fun_induction skipRest stage enclosing bs <;>
    grind [faultBehind, faultAt, skipSpace_length_le, → skipScalar_length_lt, → skipKey_length_lt]

theorem skipValue_length_le {bs rest : Bytes} (h : skipValue bs = .ok rest) :
    rest.length ≤ bs.length := skipRest_length_le h

end IdService.Json
