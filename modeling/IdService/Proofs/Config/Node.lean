import IdService.Config.Node
import IdService.Proofs.Json.Written

/-! # Written nodes are read

What is written of a list of nodes is read as the list: node by node, and of each node member by
member.
-/

namespace IdService.Node
open Json Text

variable {d e : Draft} {first : Bool} {bs value rest : Bytes}

theorem members_step {name : String} (next : nextMember first bs = .ok (some name, value))
    (read : member d name value = .ok (e, rest)) : members first d bs = members false e rest := by
  rw [members]
  split
  · rename_i next'
    rw [next] at next'
    cases next'
  · rename_i next'
    rw [next] at next'
    cases next'
    split
    · rename_i read'
      rw [read] at read'
      cases read'
    · rename_i read'
      rw [read] at read'
      cases read'
      rfl
  · rename_i next'
    rw [next] at next'
    cases next'

theorem members_end {n : Node} (complete : d.complete = .ok n) :
    members first d (125 :: rest) = .ok (n, rest) := by
  rw [members]
  split
  · rename_i next
    cases next
  · rename_i next
    cases next
  · rename_i next
    cases next
    rw [complete]
    rfl

theorem member_serverHost (unread : d.serverHost = none) (s : String) (rest : Bytes) :
    member d "server_host" (58 :: (encode (writeString s) ++ rest)) =
      .ok ({ d with serverHost := some s }, rest) := by
  simp only [member, unread, Option.isSome_none, Bool.false_eq_true, if_false, colon_cons,
    text_writeString, bind, Except.bind]
  rfl

theorem member_serverPort (unread : d.serverPort = none) (v : UInt16) {b : UInt8}
    (ends : EndsMember b) (rest : Bytes) :
    member d "server_port" (58 :: (encode (Numeral.digits v.toNat) ++ b :: rest)) =
      .ok ({ d with serverPort := some v }, b :: rest) := by
  simp only [member, unread, Option.isSome_none, Bool.false_eq_true, if_false, colon_cons,
    natural16_digits v ends, bind, Except.bind]
  rfl

theorem member_transPort (unread : d.transPort = none) (v : UInt16) {b : UInt8}
    (ends : EndsMember b) (rest : Bytes) :
    member d "trans_port" (58 :: (encode (Numeral.digits v.toNat) ++ b :: rest)) =
      .ok ({ d with transPort := some v }, b :: rest) := by
  simp only [member, unread, Option.isSome_none, Bool.false_eq_true, if_false, colon_cons,
    natural16_digits v ends, bind, Except.bind]
  rfl

theorem encode_writeMember (name : String) (value : List Char) :
    encode (writeMember name value) = encode (writeString name) ++ 58 :: encode value := by
  rw [writeMember, encode_append, encode_cons]
  rfl

theorem encode_write (n : Node) : encode n.write =
    123 :: (encode (writeString "server_host") ++ 58 :: (encode (writeString n.serverHost) ++
      44 :: (encode (writeString "server_port") ++
        58 :: (encode (Numeral.digits n.serverPort.toNat) ++
          44 :: (encode (writeString "trans_port") ++
            58 :: (encode (Numeral.digits n.transPort.toNat) ++ [125])))))) := by
  simp only [write, List.cons_append, List.append_assoc, encode_cons, encode_append,
    encode_writeMember]
  rfl

theorem read_write (n : Node) (rest : Bytes) :
    read (encode n.write ++ rest) = .ok (n, rest) := by
  rw [encode_write]
  simp only [List.cons_append, List.append_assoc, List.nil_append]
  have opened : ∀ bs : Bytes, read (123 :: bs) = members true {} bs := fun _ => rfl
  rw [opened, members_step (nextMember_first _ _) (member_serverHost rfl _ _),
    members_step (nextMember_comma _ _) (member_serverPort rfl _ (.inl rfl) _),
    members_step (nextMember_comma _ _) (member_transPort rfl _ (.inr rfl) _), members_end]
  rfl

/-! ## Lists of nodes -/

theorem readMany_step {nodes : List Node} (empty : nodes.isEmpty = first) {n : Node}
    (next : nextElement first bs = .ok (true, value)) (read : read value = .ok (n, rest)) :
    readMany nodes bs = readMany (n :: nodes) rest := by
  subst empty
  rw [readMany]
  split
  · rename_i next'
    rw [next] at next'
    cases next'
  · rename_i next'
    rw [next] at next'
    cases next'
  · rename_i next'
    rw [next] at next'
    cases next'
    split
    · rename_i read'
      rw [read] at read'
      cases read'
    · rename_i read'
      rw [read] at read'
      cases read'
      rfl

theorem readMany_end (nodes : List Node) (rest : Bytes) :
    readMany nodes (93 :: rest) = .ok (nodes.reverse, rest) := by
  rw [readMany]
  split
  · rename_i next
    cases next
  · rename_i next
    cases next
    rfl
  · rename_i next
    cases next

theorem nextElement_first (n : Node) (rest : Bytes) :
    nextElement true (encode n.write ++ rest) = .ok (true, encode n.write ++ rest) := by
  rw [encode_write]
  rfl

theorem nextElement_comma (n : Node) (rest : Bytes) :
    nextElement false (44 :: (encode n.write ++ rest)) = .ok (true, encode n.write ++ rest) := by
  rw [encode_write]
  rfl

/-- Nodes that are written behind others are read behind them. -/
theorem readMany_write (done : List Node) (nodes : List Node) (n : Node) (rest : Bytes) :
    readMany (n :: done) (encode (nodes.flatMap fun m => ',' :: m.write) ++ 93 :: rest) =
      .ok (done.reverse ++ n :: nodes, rest) := by
  induction nodes generalizing done n with
  | nil =>
      rw [List.flatMap_nil]
      refine (readMany_end _ _).trans ?_
      simp
  | cons m nodes ih =>
      rw [List.flatMap_cons, List.cons_append, encode_cons, encode_append, List.append_assoc,
        List.append_assoc]
      have some : (n :: done).isEmpty = false := rfl
      refine (readMany_step some (nextElement_comma m _) (read_write m _)).trans ?_
      rw [ih, List.reverse_cons, List.append_assoc, List.singleton_append]

/-- What is written of a list of nodes is read as the list. -/
theorem parseList_listText (nodes : List Node) : parseList (listText nodes) = .ok nodes := by
  rw [parseList, listText, utf8_ofList]
  cases nodes with
  | nil =>
      have opened : readList (encode (writeList [])) = (readMany [] [93]).bind fun result =>
          finish result.1 result.2 := rfl
      rw [opened, readMany_end]
      rfl
  | cons n nodes =>
      have bytes : encode (writeList (n :: nodes)) =
          91 :: (encode n.write ++ (encode (nodes.flatMap fun m => ',' :: m.write) ++ [93])) := by
        simp only [writeList, List.cons_append, List.append_assoc, encode_cons, encode_append]
        rfl
      have opened : ∀ bs, readList (91 :: bs) = (readMany [] bs).bind fun result =>
          finish result.1 result.2 := fun _ => rfl
      have none : ([] : List Node).isEmpty = true := rfl
      rw [bytes, opened, readMany_step none (nextElement_first n _) (read_write n _),
        readMany_write]
      rfl

end IdService.Node
