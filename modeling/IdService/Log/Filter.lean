import IdService.Numeral
import IdService.Text.Alphanumeric
import IdService.Text.Blank
import IdService.Text.Utf8

/-!
# Log filters

Which log records are kept. A filter is a list of directives between commas, each a level for a
target, for the spans and fields named in brackets, or for everything. The value that a field must
have is a pattern, and patterns are read by a library.
-/

namespace IdService

/-- How much is logged. -/
inductive LogLevel where
  | off
  | error
  | warn
  | info
  | debug
  | trace
deriving Repr, DecidableEq

namespace LogLevel

def name : LogLevel → String
  | off => "off"
  | error => "error"
  | warn => "warn"
  | info => "info"
  | debug => "debug"
  | trace => "trace"

/-- The levels, each at the place of its number. -/
def all : List LogLevel := [off, error, warn, info, debug, trace]

/-- The level of a number or of a name in any case. -/
def ofChars? (cs : List Char) : Option LogLevel :=
  match Numeral.read Numeral.Range.uint64 cs with
  | .ok n => all[n.toNat]?
  | .error _ => all.find? fun level => level.name.toList == cs.map Char.toLower

end LogLevel

/-- The spans that a directive is limited to: their name, and fields they must have. -/
structure LogScope where
  span : String
  fields : List String
deriving Repr, DecidableEq

/-- One directive of a log filter. -/
structure LogDirective where
  target : Option String
  scope : Option LogScope
  level : LogLevel
deriving Repr, DecidableEq

structure LogFilter where
  directives : List LogDirective
deriving Repr, DecidableEq

/-- The library that reads the values of fields. All that is known of it is which texts it refuses,
and the reasons that it gives. -/
class Patterns where
  refusal? : String → Option String

namespace LogFilter

/-- Why a text is not read as a log filter. Names are cut out of a directive by bytes, and a cut
inside a character is a crash. -/
inductive Fault where
  | directive
  | level
  /-- The value of a field is no pattern. -/
  | field (reason : String)
  | cutCharacter
deriving Repr, DecidableEq

def Fault.message : Fault → String
  | directive => "invalid filter directive"
  | level => "error parsing level filter: expected one of \"off\", \"error\", \"warn\", "
      ++ "\"info\", \"debug\", \"trace\", or a number 0-5"
  | field reason => "invalid field filter: " ++ reason
  | cutCharacter => "a name is cut inside a character"

def Fault.isCrash : Fault → Bool
  | cutCharacter => true
  | _ => false

/-! ## Cutting by bytes -/

/-- How many bytes a text takes. -/
def size (cs : List Char) : Nat := cs.foldr (fun c n => c.utf8Size + n) 0

/-- A text without its first `n` bytes. -/
def dropBytes : (n : Nat) → List Char → Except Fault (List Char)
  | 0, cs => .ok cs
  | _ + 1, [] => .error .cutCharacter
  | n + 1, c :: cs =>
    if c.utf8Size ≤ n + 1 then dropBytes (n + 1 - c.utf8Size) cs else .error .cutCharacter

/-- The first `n` bytes of a text, behind those in `taken`, the last one first. -/
def takeBytes (taken : List Char) : (n : Nat) → List Char → Except Fault (List Char)
  | 0, _ => .ok taken.reverse
  | _ + 1, [] => .error .cutCharacter
  | n + 1, c :: cs =>
    if c.utf8Size ≤ n + 1 then takeBytes (c :: taken) (n + 1 - c.utf8Size) cs
    else .error .cutCharacter

/-- The bytes of a text from `start` on and before `stop`. -/
def cut (cs : List Char) (start stop : Nat) : Except Fault String := do
  return String.ofList (← takeBytes [] (stop - start) (← dropBytes start cs))

/-! ## Reading

A directive is read without the white space around it, `part` being the directive with it. Where
its names and its level start and end is counted in the former, and they are cut from the latter. So
white space in front of a directive shifts its names, and white space behind it joins its level. -/

/-- Whether a target or a bare level may start with `c`. -/
def startsTarget (c : Char) : Bool := c == '-' || c == ':' || c == '_' || Text.isAlphanumeric c

/-- Reads the level behind an equals sign; without any text it is the most verbose one. -/
def readLevel (part : List Char) (target : Option String) (scope : Option LogScope)
    (start : Nat) : Except Fault LogDirective := do
  match ← dropBytes start part with
  | [] => return ⟨target, scope, .trace⟩
  | cs =>
    match LogLevel.ofChars? cs with
    | some level => return ⟨target, scope, level⟩
    | none => throw .level

/-- Reads what may follow the brackets: nothing, or an equals sign and a level. -/
def afterScope (part : List Char) (target : Option String) (scope : LogScope) (start : Nat) :
    List Char → Except Fault LogDirective
  | [] => .ok ⟨target, some scope, .trace⟩
  | '=' :: _ => readLevel part target (some scope) (start + 1)
  | _ => .error .directive

/-- The value that a field is asked for: what stands behind an equals sign, up to another one. -/
def fieldValue? (field : String) : Option String :=
  match field.toList.splitOn '=' with
  | _ :: value :: _ => some (String.ofList value)
  | _ => none

/-- Whether a character ends the name of a span. -/
def endsSpan (c : Char) : Bool := c == ']' || c == '\x7b'

section

variable [Patterns]

/-- Checks a field, which has a name and may have a value. -/
def checkField (field : String) : Except Fault Unit :=
  if field.isEmpty then .error .directive
  else match (fieldValue? field).bind Patterns.refusal? with
    | some reason => .error (.field reason)
    | none => .ok ()

/-- Reads brackets behind the opening one: the name of a span and, in braces, a field. -/
def readScope (part : List Char) (target : Option String) (start : Nat) (cs : List Char) :
    Except Fault LogDirective := do
  let stop := start + size (cs.takeWhile (!endsSpan ·))
  match cs.dropWhile (!endsSpan ·) with
  | ']' :: rest => afterScope part target ⟨← cut part start stop, []⟩ (stop + 1) rest
  | '\x7b' :: rest =>
    let span ← cut part start stop
    let last := stop + 1 + size (rest.takeWhile (· != '\x7d'))
    match rest.dropWhile (· != '\x7d') with
    | '\x7d' :: rest =>
      let field ← cut part (stop + 1) last
      checkField field
      match rest with
      | ']' :: rest => afterScope part target ⟨span, [field]⟩ (last + 2) rest
      | _ => throw .directive
    | _ => throw .directive
  | _ => throw .directive

/-- Whether a character ends a target. -/
def endsTarget (c : Char) : Bool := c == '=' || c == '['

/-- Reads a directive that starts with a target. A text that is a level stands for everything. -/
def readTarget (part : List Char) (cs : List Char) : Except Fault LogDirective := do
  let stop := size (cs.takeWhile (!endsTarget ·))
  match cs.dropWhile (!endsTarget ·) with
  | '=' :: _ => readLevel part (some (← cut part 0 stop)) none (stop + 1)
  | '[' :: rest => readScope part (some (← cut part 0 stop)) (stop + 1) rest
  | _ =>
    match LogLevel.ofChars? part with
    | some level => return ⟨none, none, level⟩
    | none => return ⟨some (String.ofList part), none, .trace⟩

def readDirective (part : List Char) : Except Fault LogDirective :=
  match Text.trimChars part with
  | [] => .error .directive
  | c :: rest =>
    if c = '[' then readScope part none 1 rest
    else if startsTarget c then readTarget part (c :: rest)
    else .error .directive

/-- Reads a filter, a list of directives between commas. Empty parts are dropped; the first bad
part decides. -/
def parse (s : String) : Except Fault LogFilter := do
  return ⟨← ((s.toList.splitOn ',').filter (!·.isEmpty)).mapM readDirective⟩

end

/-! ## The text of a filter -/

/-- Whether the directive of target `a` is looked at before that of `b`: a longer target comes
first, of two equally long ones the one with the greater bytes, and no target last. -/
def precedes : Option String → Option String → Bool
  | some a, some b =>
    let a := Text.utf8 a
    let b := Text.utf8 b
    b.length < a.length || (a.length == b.length && b < a)
  | some _, none => true
  | none, _ => false

/-- The directives for all spans, in the order in which they are looked at. Of several for one
target the last one counts: the sorting keeps it in front, and only the front one is kept. -/
def general (f : LogFilter) : List LogDirective :=
  ((f.directives.filter (·.scope.isNone)).reverse.mergeSort
    fun d e => !precedes e.target d.target).eraseRepsBy fun d e => d.target == e.target

/-- The text of a directive for all spans. -/
def directiveText (d : LogDirective) : String :=
  match d.target with
  | some target => target ++ "=" ++ d.level.name
  | none => d.level.name

/-- The text of the directives for all spans. -/
def text (f : LogFilter) : String := ",".intercalate (f.general.map directiveText)

end LogFilter
end IdService
