import IdService.Json.Skip
import IdService.Json.Typed

/-!
# Nodes

The other servers of a group, as the configuration lists them: a JSON list of objects with three
members each, or of lists of the three values. Other members of an object are ignored. Each node
that is read leaves fewer bytes (`Node.read_length_lt`), and so a list of them comes to its end.
-/

namespace IdService

/-- A server of the group. -/
structure Node where
  serverHost : String
  serverPort : UInt16
  transPort : UInt16
deriving Repr, DecidableEq

namespace Node

open Json

structure Draft where
  serverHost : Option String := none
  serverPort : Option UInt16 := none
  transPort : Option UInt16 := none
deriving Repr, DecidableEq

/-- The node of all three members, or the first one missing. -/
def Draft.complete (d : Draft) : Except String Node :=
  match d.serverHost, d.serverPort, d.transPort with
  | some serverHost, some serverPort, some transPort => .ok ⟨serverHost, serverPort, transPort⟩
  | none, _, _ => .error "server_host"
  | some _, none, _ => .error "server_port"
  | some _, some _, none => .error "trans_port"

/-- A member that has been named before. If the object ends here, its end is read. -/
def repeated {α : Type} (name : String) (bs : Bytes) : Except Fault α :=
  match skipSpace bs with
  | [] => faultBehind (.repeatedMember name) []
  | b :: rest =>
    faultBehind (.repeatedMember name) (if char b = '\x7d' then rest else b :: rest)

/-- Reads the value of the member `name`, from its colon on. -/
def member (d : Draft) (name : String) (bs : Bytes) : Except Fault (Draft × Bytes) := do
  match name with
  | "server_host" =>
    if d.serverHost.isSome then repeated name bs
    else
      let (v, bs) ← text (← colon bs)
      return ({ d with serverHost := some v }, bs)
  | "server_port" =>
    if d.serverPort.isSome then repeated name bs
    else
      let (v, bs) ← natural16 (← colon bs)
      return ({ d with serverPort := some v }, bs)
  | "trans_port" =>
    if d.transPort.isSome then repeated name bs
    else
      let (v, bs) ← natural16 (← colon bs)
      return ({ d with transPort := some v }, bs)
  | _ => return (d, ← skipValue (← colon bs))

theorem repeated_ne_ok {α : Type} {name : String} {bs : Bytes} {a : α} :
    repeated name bs ≠ .ok a := by
  unfold repeated
  grind [faultBehind]

theorem member_length_lt {d e : Draft} {name : String} {bs rest : Bytes}
    (h : member d name bs = .ok (e, rest)) : rest.length < bs.length := by
  unfold member at h
  simp only [bind, Except.bind, pure, Except.pure] at h
  grind [repeated_ne_ok, → colon_length_lt, → text_length_lt, → natural16_length_lt,
    → skipValue_length_le]

def members (first : Bool) (d : Draft) (bs : Bytes) : Except Fault (Node × Bytes) :=
  match _h : nextMember first bs with
  | .error fault => .error fault
  | .ok (some name, value) =>
    match _h : member d name value with
    | .error fault => .error fault
    | .ok (d, rest) => members false d rest
  | .ok (none, rest) =>
    match d.complete with
    | .ok node => .ok (node, rest.tail)
    | .error name => faultBehind (.missingMember name) rest.tail
termination_by bs.length
decreasing_by grind [→ nextMember_length_lt, → member_length_lt]

theorem members_length_le {first : Bool} {d : Draft} {n : Node} {bs rest : Bytes}
    (h : members first d bs = .ok (n, rest)) : rest.length ≤ bs.length := by
  fun_induction members first d bs <;>
    grind [faultBehind, → nextMember_length_le, → member_length_lt]

/-- Passes to the next value of a list of three, of which `count` have been read. -/
def expectElement (count : Nat) (bs : Bytes) : Except Fault Bytes := do
  let (more, bs) ← nextElement (count == 0) bs
  if more then return bs
  else faultBehind (.wrongLength count "struct Node with 3 elements") bs.tail

theorem expectElement_length_le {count : Nat} {bs rest : Bytes}
    (h : expectElement count bs = .ok rest) : rest.length ≤ bs.length := by
  unfold expectElement at h
  simp only [bind, Except.bind, pure, Except.pure] at h
  grind [faultBehind, → nextElement_length_le]

/-- Reads a node written as a list, behind its opening bracket. -/
def elements (bs : Bytes) : Except Fault (Node × Bytes) := do
  let (serverHost, bs) ← text (← expectElement 0 bs)
  let (serverPort, bs) ← natural16 (← expectElement 1 bs)
  let (transPort, bs) ← natural16 (← expectElement 2 bs)
  return (⟨serverHost, serverPort, transPort⟩, ← closeList bs)

theorem elements_length_lt {n : Node} {bs rest : Bytes} (h : elements bs = .ok (n, rest)) :
    rest.length < bs.length := by
  unfold elements at h
  simp only [bind, Except.bind, pure, Except.pure] at h
  repeat' split at h
  all_goals grind [→ expectElement_length_le, → text_length_lt, → natural16_length_lt,
    → closeList_length_lt]

def read (bs : Bytes) : Except Fault (Node × Bytes) :=
  match skipSpace bs with
  | [] => faultBehind .endInValue []
  | b :: rest =>
    if char b = '[' then elements rest
    else if char b = '\x7b' then members true {} rest
    else mismatch "struct Node" (b :: rest)

theorem read_length_lt {n : Node} {bs rest : Bytes} (h : read bs = .ok (n, rest)) :
    rest.length < bs.length := by
  unfold read at h
  grind [faultBehind, mismatch_ne_ok, skipSpace_length_le, → elements_length_lt,
    → members_length_le]

/-- Reads the nodes of a list up to its end; `nodes` have been read, the last one first. -/
def readMany (nodes : List Node) (bs : Bytes) : Except Fault (List Node × Bytes) :=
  match _h : nextElement nodes.isEmpty bs with
  | .error fault => .error fault
  | .ok (false, rest) => do return (nodes.reverse, ← closeList rest)
  | .ok (true, element) =>
    match _h : read element with
    | .error fault => .error fault
    | .ok (node, rest) => readMany (node :: nodes) rest
termination_by bs.length
decreasing_by grind [→ nextElement_length_le, → read_length_lt]

/-- Reads a text that holds a list of nodes and nothing else. -/
def readList (bs : Bytes) : Except Fault (List Node) :=
  match skipSpace bs with
  | [] => faultBehind .endInValue []
  | b :: rest => do
    if char b = '[' then
      let (nodes, rest) ← readMany [] rest
      finish nodes rest
    else mismatch "a sequence" (b :: rest)

def parseList (s : String) : Except Fault (List Node) := readList (Text.utf8 s)

/-! ## Writing -/

def writeMember (name : String) (value : List Char) : List Char :=
  writeString name ++ ':' :: value

/-- A node as an object without white space. -/
def write (n : Node) : List Char :=
  '\x7b' :: writeMember "server_host" (writeString n.serverHost)
    ++ ',' :: writeMember "server_port" (Numeral.digits n.serverPort.toNat)
    ++ ',' :: writeMember "trans_port" (Numeral.digits n.transPort.toNat)
    ++ ['\x7d']

/-- A list of nodes without white space. -/
def writeList : List Node → List Char
  | [] => ['[', ']']
  | n :: nodes => '[' :: n.write ++ nodes.flatMap (fun m => ',' :: m.write) ++ [']']

def listText (nodes : List Node) : String := String.ofList (writeList nodes)

end Node
end IdService
