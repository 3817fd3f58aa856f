import IdService.Proofs.Text.Utf8
import IdService.Proofs.Wire.Line
import IdService.Wire.Encoding

/-! # Encoded lines

The lines that an encoder writes are lines that a decoder finds. A header announces its number and
is short, since a number of 64 bits has few digits; a text has no line break left in it.
-/

namespace IdService.Wire

theorem header_announces (mark : Char) {n : Int} (within : Numeral.Range.int64.Contains n) :
    Announces mark n (header mark n) :=
  ⟨_, integer?_eq_some_iff.mp (integer?_write within), rfl⟩

theorem header_length_le (mark : Char) {n : Int} (within : Numeral.Range.int64.Contains n) :
    (header mark n).length ≤ 23 := by
  have short := Numeral.write_length_le within
  simp only [header, Bytes.crlf, List.length_append, List.length_cons, List.length_map,
    List.length_nil]
  omega

/-- A character of a text on one line. -/
def unbroken (c : Char) : Char := if c = '\r' ∨ c = '\n' then ' ' else c

theorem oneLine_eq_utf8 (text : String) : oneLine text = Text.utf8 (text.map unbroken) := by
  have spaced : ∀ c : Char, (String.utf8EncodeChar c).map
      (fun b => if b = Byte.cr ∨ b = Byte.lf then 32 else b) =
      String.utf8EncodeChar (unbroken c) := by
    intro c
    unfold unbroken
    split
    · rename_i broken
      rcases broken with rfl | rfl <;> decide
    · rename_i whole
      have kept : ∀ b ∈ String.utf8EncodeChar c,
          (if b = Byte.cr ∨ b = Byte.lf then 32 else b) = id b := by
        intro b member
        apply if_neg
        rintro (rfl | rfl)
        · exact whole (.inl (Text.ascii_of_mem_encodeChar member (by decide)))
        · exact whole (.inr (Text.ascii_of_mem_encodeChar member (by decide)))
      rw [List.map_congr_left kept, List.map_id]
  simp only [oneLine, Text.utf8, List.map_flatMap, String.toList_map, List.flatMap_map, spaced]

theorem cr_not_mem_oneLine (text : String) : Byte.cr ∉ oneLine text := by
  intro member
  obtain ⟨b, -, same⟩ := List.mem_map.mp member
  split at same
  · exact absurd same (by decide)
  · rename_i other
    exact other (.inl same)

end IdService.Wire
