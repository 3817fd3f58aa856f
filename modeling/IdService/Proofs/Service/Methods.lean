import IdService.Log.Plain
import IdService.Proofs.Text.Decoding
import IdService.Service
import Mathlib.Data.List.Basic

/-! # Names of methods

A command is compared with a name in two ways: as bytes, where ASCII letters of either case are the
same, and as text, which is read with replacements and put in upper case. For names of ASCII
characters they agree. Upper case works byte by byte and leaves bytes outside ASCII alone, and a text
of ASCII characters is read from its own bytes only. So a request comes to a method by its very name,
in letters of either case.
-/

namespace IdService

/-! ## Upper case -/

namespace Text

/-- A text of ASCII characters. -/
def Ascii (s : String) : Prop := ∀ c ∈ s.toList, c.toNat < 128

instance (s : String) : Decidable (Ascii s) :=
  List.decidableBAll (fun c : Char => c.toNat < 128) s.toList

/-- The number of a letter in upper case, by that of the letter. -/
def upper (n : Nat) : Nat := if 97 ≤ n ∧ n ≤ 122 then n - 32 else n

theorem upper_ascii {n : Nat} : upper n < 128 ↔ n < 128 := by
  unfold upper
  split <;> omega

theorem upper_other {n : Nat} (other : 128 ≤ n) : upper n = n :=
  if_neg (by omega)

theorem toNat_toUpper (c : Char) : c.toUpper.toNat = upper c.toNat := by
  have lower : 'a'.val ≤ c.val ∧ c.val ≤ 'z'.val ↔ 97 ≤ c.toNat ∧ c.toNat ≤ 122 := by
    rw [UInt32.le_iff_toNat_le, UInt32.le_iff_toNat_le]
    rfl
  unfold Char.toUpper upper
  split
  · rename_i letter
    have distance : ('A'.val - 'a'.val).toNat = 2 ^ 32 - 32 := rfl
    have inside := lower.mp letter
    have moved : (c.val + ('A'.val - 'a'.val)).toNat = c.toNat - 32 := by
      rw [UInt32.toNat_add, distance, show c.val.toNat = c.toNat from rfl]
      omega
    rw [if_pos inside]
    exact moved
  · rename_i other
    rw [if_neg (mt lower.mpr other)]

theorem toNat_byteToUpper (b : UInt8) : (Byte.toUpper b).toNat = upper b.toNat := by
  have lower : 97 ≤ b ∧ b ≤ 122 ↔ 97 ≤ b.toNat ∧ b.toNat ≤ 122 := by
    rw [UInt8.le_iff_toNat_le, UInt8.le_iff_toNat_le]
    rfl
  unfold Byte.toUpper upper
  split
  · rename_i letter
    have inside := lower.mp letter
    have small : 32 ≤ b := Std.le_trans (by decide) letter.1
    rw [if_pos inside, UInt8.toNat_sub_of_le _ _ small]
    rfl
  · rename_i other
    rw [if_neg (mt lower.mpr other)]

theorem Ascii.toUpper {s : String} : Ascii (s.map Char.toUpper) ↔ Ascii s := by
  simp only [Ascii, String.toList_map, List.forall_mem_map, toNat_toUpper, upper_ascii]

theorem encodeChar_ascii {c : Char} (ascii : c.toNat < 128) :
    String.utf8EncodeChar c = [UInt8.ofNat c.toNat] := by
  have one := Reading.encode_one (Nat.le_of_lt_succ ascii)
  rwa [Char.ofNat_toNat] at one

theorem encodeChar_other {c : Char} (other : 128 ≤ c.toNat) {b : UInt8}
    (member : b ∈ String.utf8EncodeChar c) : 128 ≤ b.toNat := by
  apply Nat.le_of_not_lt
  intro ascii
  have number : (Char.ofNat b.toNat).toNat = b.toNat := Reading.number_ofNat (.inl (by omega))
  rw [ascii_of_mem_encodeChar member ascii, number] at other
  omega

theorem encodeChar_toUpper (c : Char) :
    String.utf8EncodeChar c.toUpper = (String.utf8EncodeChar c).map Byte.toUpper := by
  have number := toNat_toUpper c
  rcases Nat.lt_or_ge c.toNat 128 with ascii | other
  · have ascii' : c.toUpper.toNat < 128 := by rwa [number, upper_ascii]
    have byte : Byte.toUpper (UInt8.ofNat c.toNat) = UInt8.ofNat c.toUpper.toNat := by
      rw [← UInt8.toNat_inj, toNat_byteToUpper, number, UInt8.toNat_ofNat', UInt8.toNat_ofNat',
        Nat.mod_eq_of_lt (by omega), Nat.mod_eq_of_lt (by omega)]
    rw [encodeChar_ascii ascii, encodeChar_ascii ascii', List.map_singleton, byte]
  · have same : c.toUpper = c := Char.toNat_inj.mp (number.trans (upper_other other))
    have kept : ∀ b ∈ String.utf8EncodeChar c, Byte.toUpper b = b := by
      intro b member
      rw [← UInt8.toNat_inj, toNat_byteToUpper, upper_other (encodeChar_other other member)]
    rw [same, List.map_congr_left kept, List.map_id']

/-- Upper case of a text is upper case of its bytes. -/
theorem utf8_toUpper (s : String) : utf8 (s.map Char.toUpper) = (utf8 s).map Byte.toUpper := by
  simp only [utf8, String.toList_map, List.flatMap_map, List.map_flatMap, encodeChar_toUpper]

theorem ascii_utf8 {s : String} : (∀ b ∈ utf8 s, b.toNat < 128) ↔ Ascii s := by
  constructor
  · intro ascii c member
    apply Nat.lt_of_not_le
    intro other
    obtain ⟨b, inside⟩ := List.exists_mem_of_ne_nil _ (String.utf8EncodeChar_ne_nil (c := c))
    have outside := encodeChar_other other inside
    have low := ascii b (List.mem_flatMap.mpr ⟨c, member, inside⟩)
    omega
  · intro ascii b member
    obtain ⟨c, inside, byte⟩ := List.mem_flatMap.mp member
    have low := ascii c inside
    rw [encodeChar_ascii low, List.mem_singleton] at byte
    rw [byte, UInt8.toNat_ofNat', Nat.mod_eq_of_lt (by omega)]
    exact low

theorem exists_utf8_of_ascii {bs : Bytes} (ascii : ∀ b ∈ bs, b.toNat < 128) :
    ∃ s, utf8 s = bs := by
  refine ⟨String.ofList (bs.map fun b => Char.ofNat b.toNat), ?_⟩
  have encoded : ∀ b ∈ bs, String.utf8EncodeChar (Char.ofNat b.toNat) = [b] := by
    intro b member
    rw [Reading.encode_one (Nat.le_of_lt_succ (ascii b member)), UInt8.ofNat_toNat]
  rw [utf8, String.toList_ofList, List.flatMap_map]
  exact (List.flatMap_congr encoded).trans (List.flatMap_singleton' bs)

/-- A text of ASCII characters is read from its own bytes only. -/
theorem utf8_of_ascii {bs : Bytes} (ascii : Ascii (ofUtf8Lossy bs)) :
    utf8 (ofUtf8Lossy bs) = bs :=
  utf8_of_ofUtf8Lossy rfl fun member => absurd (ascii _ member) (by decide)

end Text

open Text Wire

/-! ## Names of commands -/

namespace Wire.Request

variable {r : Request} {name : String}

theorem hasName_iff :
    r.hasName name ↔ r.command.map Byte.toUpper = utf8 (name.map Char.toUpper) := by
  rw [hasName, Bytes.equalsIgnoringCase, beq_iff_eq, utf8_toUpper]

theorem ascii_of_name (ascii : Ascii name) (named : r.name = name.map Char.toUpper) :
    utf8 (ofUtf8Lossy r.command) = r.command ∧ ∀ b ∈ r.command, b.toNat < 128 := by
  have plain : Ascii (ofUtf8Lossy r.command) := by
    rw [← Ascii.toUpper]
    change Ascii r.name
    rwa [named, Ascii.toUpper]
  have own := utf8_of_ascii plain
  refine ⟨own, ?_⟩
  have bytes := ascii_utf8.mpr plain
  rwa [own] at bytes

/-- The two comparisons agree. -/
theorem hasName_iff_name (ascii : Ascii name) :
    r.hasName name ↔ r.name = name.map Char.toUpper := by
  rw [hasName_iff]
  constructor
  · intro same
    have bytes : ∀ b ∈ r.command, b.toNat < 128 := by
      intro b member
      have upper : Byte.toUpper b ∈ utf8 (name.map Char.toUpper) :=
        same ▸ List.mem_map_of_mem member
      have low := ascii_utf8.mpr (Ascii.toUpper.mpr ascii) _ upper
      rwa [toNat_byteToUpper, upper_ascii] at low
    obtain ⟨text, own⟩ := exists_utf8_of_ascii bytes
    apply utf8_injective
    rw [Request.name, ← own, ofUtf8Lossy_utf8, utf8_toUpper, own, same]
  · intro named
    have own := (ascii_of_name ascii named).1
    rw [← named, Request.name, utf8_toUpper, own]

end Wire.Request

/-! ## Methods -/

/-- What a request can ask of the service. -/
inductive Method where
  | get
  | set
  | exist
  | del
  | select
  | ping
deriving Repr, DecidableEq

namespace Method

def name : Method → String
  | get => "GET"
  | set => "SET"
  | exist => "EXISTS"
  | del => "DEL"
  | select => "SELECT"
  | ping => "PING"

/-- The handler of a method. -/
def perform [Patterns] : Method → Service → Request → Except CommandHalt Reply × Service
  | get, s, r => s.get r
  | set, s, r => s.set r
  | exist, s, r => s.exist r
  | del, s, r => s.del r
  | select, s, r => (Service.select r, s)
  | ping, s, r => (.ok (Service.ping r), s)

def all : List Method := [get, set, exist, del, select, ping]

/-- The method of a request, by the text of its command. -/
def ofRequest? (r : Request) : Option Method := all.find? (·.name == r.name)

theorem ofRequest?_eq_some {r : Request} {m : Method} : ofRequest? r = some m ↔ r.name = m.name := by
  constructor
  · intro found
    unfold ofRequest? at found
    have same := List.find?_some found
    exact (beq_iff_eq.mp same).symm
  · intro named
    rw [ofRequest?, named]
    cases m <;> rfl

theorem ofRequest?_eq_none {r : Request} : ofRequest? r = none ↔ ∀ m : Method, r.name ≠ m.name := by
  rw [Option.eq_none_iff_forall_ne_some]
  simp only [ne_eq, ofRequest?_eq_some]

theorem name_ascii (m : Method) : Ascii m.name := by
  cases m <;> decide

theorem name_toUpper (m : Method) : m.name.map Char.toUpper = m.name := by
  rw [← String.toList_inj, String.toList_map]
  cases m <;> decide

end Method

theorem Service.perform_eq [Patterns] (s : Service) (r : Request) :
    s.perform r = match Method.ofRequest? r with
      | some m => m.perform s r
      | none => (.error (.fault .notSupported), s) := by
  cases found : Method.ofRequest? r with
  | some m =>
      have named := Method.ofRequest?_eq_some.mp found
      cases m <;> simp only [Service.perform, named, Method.name, Method.perform]
  | none =>
      have other := Method.ofRequest?_eq_none.mp found
      unfold Service.perform
      split
      · exact absurd ‹_› (other .get)
      · exact absurd ‹_› (other .set)
      · exact absurd ‹_› (other .exist)
      · exact absurd ‹_› (other .del)
      · exact absurd ‹_› (other .select)
      · exact absurd ‹_› (other .ping)
      · rfl

/-- Bytes compared without regard to case and text in upper case agree on every name of ASCII
characters. A request goes to the method whose name its command is, in letters of either case, and to
none otherwise; bytes outside ASCII are in no such command, whether they are UTF-8 or not. -/
theorem names_agree [Patterns] (r : Request) :
    (∀ name, Ascii name → (r.hasName name ↔ r.name = name.map Char.toUpper)) ∧
    (∀ s : Service, s.perform r = match Method.ofRequest? r with
      | some m => m.perform s r
      | none => (.error (.fault .notSupported), s)) ∧
    (∀ m : Method, Method.ofRequest? r = some m ↔ r.hasName m.name) ∧
    ∀ name, Ascii name → r.name = name.map Char.toUpper →
      ofUtf8? r.command = some (ofUtf8Lossy r.command) ∧ ∀ b ∈ r.command, b.toNat < 128 := by
  refine ⟨fun _ => Request.hasName_iff_name, fun s => s.perform_eq r, fun m => ?_, ?_⟩
  · rw [Method.ofRequest?_eq_some, Request.hasName_iff_name m.name_ascii, m.name_toUpper]
  · intro name ascii named
    obtain ⟨own, bytes⟩ := Request.ascii_of_name ascii named
    exact ⟨ofUtf8?_eq_some.mpr own, bytes⟩

/-- The long s has an S in upper case, but not in ASCII; and a byte that is no UTF-8 behind a name
makes it another one. -/
theorem longS_is_other :
    let mixed : Request := ⟨Bytes.ofAscii "sEt", []⟩
    let long : Request := ⟨utf8 "ſEt", []⟩
    let broken : Request := ⟨Bytes.ofAscii "SET" ++ [0xFF], []⟩
    Ascii "Set" ∧ mixed.name = "SET" ∧ Method.ofRequest? mixed = some .set ∧
      (∀ b ∈ mixed.command, b.toNat < 128) ∧ long.name ≠ "SET" ∧ broken.name ≠ "SET" := by
  intro mixed long broken
  have ascii : Ascii "Set" := by decide
  have upper : "Set".map Char.toUpper = "SET" := by
    rw [← String.toList_inj, String.toList_map]
    decide
  have named := ((names_agree mixed).1 "Set" ascii).mp (by decide)
  have apart : long.name ≠ "Set".map Char.toUpper :=
    mt ((names_agree long).1 "Set" ascii).mpr (by decide)
  have apart' : broken.name ≠ "Set".map Char.toUpper :=
    mt ((names_agree broken).1 "Set" ascii).mpr (by decide)
  exact ⟨ascii, named.trans upper, ((names_agree mixed).2.2.1 .set).mpr (by decide),
    ((names_agree mixed).2.2.2 "Set" ascii named).2, upper ▸ apart, upper ▸ apart'⟩

end IdService
