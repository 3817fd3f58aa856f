import IdService.Proofs.Wire.Element

/-! # Lines of words

A scan collects the places of the words of a line in one pass, a byte at a time. What carries the
induction is the word being read: the bytes since it started, none of which is white space.
-/

namespace IdService.Wire

/-! ## Words -/

theorem words_solid {word : Bytes} (solid : ∀ b ∈ word, Byte.isSpace b = false) :
    words word = if word = [] then [] else [word] := by
  rw [words, List.splitOnP_eq_singleton solid]
  cases word <;> simp

theorem words_space {b : UInt8} (space : Byte.isSpace b) (word rest : Bytes) :
    words (word ++ b :: rest) = words word ++ words rest := by
  rw [words, List.splitOnP_append_cons _ _ space, List.filter_append]
  rfl

private theorem solid_push {word : Bytes} {b : UInt8} (solid : ∀ c ∈ word, Byte.isSpace c = false)
    (next : Byte.isSpace b = false) : ∀ c ∈ word ++ [b], Byte.isSpace c = false := by
  intro c member
  rcases List.mem_append.mp member with before | last
  · exact solid c before
  · rw [List.mem_singleton.mp last]
    exact next

private theorem words_append_eq_nil_iff {word : Bytes} (solid : ∀ b ∈ word, Byte.isSpace b = false)
    (rest : Bytes) : words (word ++ rest) = [] ↔ word = [] ∧ ∀ b ∈ rest, Byte.isSpace b := by
  induction rest generalizing word with
  | nil =>
      rw [List.append_nil, words_solid solid]
      split <;> simp_all
  | cons b rest ih =>
      cases space : Byte.isSpace b with
      | true =>
          have behind : words rest = [] ↔ ∀ c ∈ rest, Byte.isSpace c := by
            simpa using @ih [] (by simp)
          rw [words_space space, List.append_eq_nil_iff, words_solid solid, behind,
            List.forall_mem_cons]
          split <;> simp_all
      | false =>
          have onward := ih (solid_push solid space)
          rw [List.append_assoc, List.singleton_append] at onward
          rw [onward, List.forall_mem_cons]
          simp [space]

theorem words_eq_nil_iff {line : Bytes} : words line = [] ↔ ∀ b ∈ line, Byte.isSpace b := by
  simpa using @words_append_eq_nil_iff [] (by simp) line

theorem words_ne_nil_iff {line : Bytes} : words line ≠ [] ↔ ∃ b ∈ line, ¬ Byte.isSpace b := by
  simp [words_eq_nil_iff]

/-! ## Collecting the places of words -/

/-- The places found once the word being read, if there is one, ends at `i`. -/
private def closed (i : Nat) (word : Option Nat) (found : Array Span) : Array Span :=
  match word with
  | none => found
  | some start => found.push ⟨start, i⟩

private theorem wordSpans_nil (i : Nat) (word : Option Nat) (found : Array Span) :
    wordSpans i word found [] = closed i word found := by
  cases word <;> rfl

private theorem wordSpans_space {b : UInt8} (space : Byte.isSpace b = true) (i : Nat)
    (word : Option Nat) (found : Array Span) (rest : Bytes) :
    wordSpans i word found (b :: rest) = wordSpans (i + 1) none (closed i word found) rest := by
  cases word <;> simp only [wordSpans, space, closed]

private theorem wordSpans_solid {b : UInt8} (solid : Byte.isSpace b = false) (i : Nat)
    (word : Option Nat) (found : Array Span) (rest : Bytes) :
    wordSpans i word found (b :: rest) = wordSpans (i + 1) (some (word.getD i)) found rest := by
  cases word <;> simp only [wordSpans, solid, Option.getD]

/-- A word has started behind `before`, unless it has no byte yet. -/
private def opened (before word : Bytes) : Option Nat :=
  if word = [] then none else some before.length

private theorem slices_closed {before word after : Bytes}
    (solid : ∀ b ∈ word, Byte.isSpace b = false) (found : Array Span) :
    (closed (before ++ word).length (opened before word) found).toList.map
        (·.slice (before ++ word ++ after)) =
      found.toList.map (·.slice (before ++ word ++ after)) ++ words word := by
  rw [words_solid solid, opened]
  split
  · simp [closed]
  · rw [closed, Array.toList_push, List.map_append, List.map_singleton, List.length_append,
      slice_middle]

private theorem slices_wordSpans {before word rest after : Bytes}
    (solid : ∀ b ∈ word, Byte.isSpace b = false) (found : Array Span) :
    (wordSpans (before ++ word).length (opened before word) found rest).toList.map
        (·.slice (before ++ word ++ rest ++ after)) =
      found.toList.map (·.slice (before ++ word ++ rest ++ after)) ++ words (word ++ rest) := by
  induction rest generalizing before word found with
  | nil =>
      rw [wordSpans_nil, List.append_nil, List.append_nil, slices_closed solid]
  | cons b rest ih =>
      cases space : Byte.isSpace b with
      | true =>
          have here := @slices_closed before word (b :: rest ++ after) solid found
          have next := @ih (before ++ word ++ [b]) [] (by simp)
            (closed (before ++ word).length (opened before word) found)
          rw [wordSpans_space space, words_space space]
          simp only [List.append_assoc, List.append_nil, List.length_append, List.length_singleton,
            List.nil_append, ← Nat.add_assoc, List.cons_append] at here next ⊢
          rw [here, List.append_assoc] at next
          exact next
      | false =>
          have next := @ih before (word ++ [b]) (solid_push solid space) found
          have start : some ((opened before word).getD (before ++ word).length) =
              opened before (word ++ [b]) := by
            unfold opened
            split <;> simp_all
          rw [wordSpans_solid space, start]
          simpa [Nat.add_assoc] using next

private theorem ordered_closed {i : Nat} {word : Option Nat} {found : Array Span}
    (ordered : Ordered found (word.getD i)) (started : word.getD i ≤ i) :
    Ordered (closed i word found) i := by
  cases word with
  | none => exact ordered
  | some start => exact ordered.push (Nat.le_refl _) started (Nat.le_refl _)

private theorem ordered_wordSpans {i : Nat} {word : Option Nat} {found : Array Span} (line : Bytes)
    (ordered : Ordered found (word.getD i)) (started : word.getD i ≤ i) :
    Ordered (wordSpans i word found line) (i + line.length) := by
  induction line generalizing i word found with
  | nil => exact wordSpans_nil i word found ▸ ordered_closed ordered started
  | cons b rest ih =>
      rw [List.length_cons, Nat.add_comm rest.length, ← Nat.add_assoc]
      cases space : Byte.isSpace b with
      | true =>
          rw [wordSpans_space space]
          exact ih ((ordered_closed ordered started).mono (Nat.le_succ i)) (Nat.le_refl _)
      | false =>
          rw [wordSpans_solid space]
          exact ih ordered (Nat.le_succ_of_le started)

/-- The places of a line's words, and the words at them. -/
theorem wordSpans_spec (line after : Bytes) :
    Ordered (wordSpans 0 none #[] line) line.length ∧
      cut (line ++ after) (wordSpans 0 none #[] line) = words line := by
  have ordered : Ordered (wordSpans 0 none #[] line) line.length := by
    have spans := @ordered_wordSpans 0 none #[] line (.empty 0) (Nat.le_refl 0)
    rwa [Nat.zero_add] at spans
  have slices := @slices_wordSpans [] [] line after (by simp) #[]
  refine ⟨ordered, ?_⟩
  rw [cut_eq ordered]
  simpa [opened] using slices

/-! ## Scanning a line -/

theorem findIdx?_no_lf {line : Bytes} (ends : Byte.lf ∉ line) :
    line.findIdx? (· == Byte.lf) = none := by
  rw [List.findIdx?_eq_none_iff]
  intro b member
  exact beq_false_of_ne fun same => ends (same ▸ member)

theorem findIdx?_lf {line : Bytes} (ends : Byte.lf ∉ line) (rest : Bytes) :
    (line ++ Byte.lf :: rest).findIdx? (· == Byte.lf) = some line.length := by
  rw [List.findIdx?_append, findIdx?_no_lf ends, List.findIdx?_cons]
  simp

theorem scanLine_of_line {limits : Limits} {line : Bytes} (ends : Byte.lf ∉ line) (rest : Bytes) :
    scanLine limits (line ++ Byte.lf :: rest) =
      if limits.lineBytes < line.length then .refused .inlineTooLong
      else if words line = [] then .skip (line.length + 1)
      else .command (line.length + 1) (wordSpans 0 none #[] line) := by
  obtain ⟨ordered, found⟩ := wordSpans_spec line []
  have empty : (wordSpans 0 none #[] line).isEmpty ↔ words line = [] := by
    rw [← found, cut_eq ordered]
    simp
  simp only [scanLine, findIdx?_lf ends, List.take_left, empty]

theorem scanLine_open {limits : Limits} {buffer : Bytes} (unended : Byte.lf ∉ buffer) :
    scanLine limits buffer =
      if limits.lineBytes < buffer.length then .refused .inlineTooLong else .incomplete none := by
  rw [scanLine, findIdx?_no_lf unended]

/-- A buffer holds a whole line or has none that has ended. -/
theorem line_cases (buffer : Bytes) :
    Byte.lf ∉ buffer ∨ ∃ line rest, buffer = line ++ Byte.lf :: rest ∧ Byte.lf ∉ line := by
  by_cases ended : Byte.lf ∈ buffer
  · obtain ⟨line, rest, form, first⟩ := List.eq_append_cons_of_mem ended
    exact .inr ⟨line, rest, form, first⟩
  · exact .inl ended

end IdService.Wire
