import IdService.Proofs.Wire.Requests.RoundTrip

/-! # A request in its two forms

A client may write a request as an array of bulk strings or as the words of a line. On a line the
words stand in any white space but the LF that ends it, at least one byte of it between two of them.
-/

namespace IdService.Wire

variable {limits : Limits}

/-- Bytes that can be written as a word: at least one, and no white space. -/
structure IsWord (word : Bytes) : Prop where
  nonempty : word ≠ []
  solid : ∀ b ∈ word, Byte.isSpace b = false

/-- White space inside a line. -/
structure IsGap (gap : Bytes) : Prop where
  space : ∀ b ∈ gap, Byte.isSpace b
  inside : Byte.lf ∉ gap

instance (word : Bytes) : Decidable (IsWord word) :=
  decidable_of_iff (word ≠ [] ∧ word.all (!Byte.isSpace ·)) ⟨fun ⟨nonempty, solid⟩ =>
    ⟨nonempty, by simpa using solid⟩, fun isWord => ⟨isWord.nonempty, by simpa using isWord.solid⟩⟩

instance (gap : Bytes) : Decidable (IsGap gap) :=
  decidable_of_iff (gap.all Byte.isSpace ∧ Byte.lf ∉ gap) ⟨fun ⟨space, inside⟩ =>
    ⟨by simpa using space, inside⟩, fun isGap => ⟨by simpa using isGap.space, isGap.inside⟩⟩

/-- Words one behind the other, each followed by a gap. Only the last gap may be empty. -/
inductive Spaced : List Bytes → Bytes → Prop where
  | last {word gap : Bytes} (isWord : IsWord word) (isGap : IsGap gap) : Spaced [word] (word ++ gap)
  | next {word gap more : Bytes} {others : List Bytes} (isWord : IsWord word) (isGap : IsGap gap)
      (apart : gap ≠ []) (behind : Spaced others more) :
      Spaced (word :: others) (word ++ gap ++ more)

/-- A line of words, which may start with a gap. -/
inductive OnLine (parts : List Bytes) : Bytes → Prop where
  | intro {gap body : Bytes} (isGap : IsGap gap) (spaced : Spaced parts body) :
      OnLine parts (gap ++ body)

/-! ## The words of a line -/

theorem IsWord.words_eq {word : Bytes} (isWord : IsWord word) : words word = [word] := by
  rw [words_solid isWord.solid, if_neg isWord.nonempty]

theorem IsGap.words_append {gap : Bytes} (isGap : IsGap gap) (rest : Bytes) :
    words (gap ++ rest) = words rest := by
  have space := isGap.space
  induction gap with
  | nil => rfl
  | cons b gap ih =>
      obtain ⟨first, others⟩ := List.forall_mem_cons.mp space
      have inside := List.not_mem_of_not_mem_cons isGap.inside
      calc words (b :: gap ++ rest) = words [] ++ words (gap ++ rest) := words_space first [] _
        _ = words rest := ih ⟨others, inside⟩ others

theorem IsWord.words_gap {word gap : Bytes} (isWord : IsWord word) (isGap : IsGap gap)
    (apart : gap ≠ []) (rest : Bytes) : words (word ++ gap ++ rest) = word :: words rest := by
  obtain ⟨b, gap, rfl⟩ := List.exists_cons_of_ne_nil apart
  have space : Byte.isSpace b := isGap.space b (List.mem_cons_self ..)
  have others : IsGap gap :=
    ⟨fun c member => isGap.space c (List.mem_cons_of_mem _ member),
      List.not_mem_of_not_mem_cons isGap.inside⟩
  calc words (word ++ b :: gap ++ rest) = words (word ++ b :: (gap ++ rest)) := by
        rw [List.append_assoc, List.cons_append]
    _ = words word ++ words (gap ++ rest) := words_space space _ _
    _ = word :: words rest := by rw [isWord.words_eq, others.words_append, List.singleton_append]

theorem IsWord.lf_not_mem {word : Bytes} (isWord : IsWord word) : Byte.lf ∉ word := by
  intro member
  exact absurd (isWord.solid _ member) (by decide)

namespace Spaced

variable {parts : List Bytes} {body : Bytes}

theorem words_eq (spaced : Spaced parts body) : words body = parts := by
  induction spaced with
  | @last word gap isWord isGap =>
      by_cases empty : gap = []
      · rw [empty, List.append_nil, isWord.words_eq]
      · have ended := isWord.words_gap isGap empty []
        rwa [List.append_nil] at ended
  | next isWord isGap apart _ ih => rw [isWord.words_gap isGap apart, ih]

theorem lf_not_mem (spaced : Spaced parts body) : Byte.lf ∉ body := by
  induction spaced with
  | last isWord isGap =>
      exact List.not_mem_append isWord.lf_not_mem isGap.inside
  | next isWord isGap _ _ ih =>
      exact List.not_mem_append (List.not_mem_append isWord.lf_not_mem isGap.inside) ih

end Spaced

namespace OnLine

variable {parts : List Bytes} {line : Bytes}

theorem words_eq (onLine : OnLine parts line) : words line = parts := by
  obtain ⟨isGap, spaced⟩ := onLine
  rw [isGap.words_append, spaced.words_eq]

theorem lf_not_mem (onLine : OnLine parts line) : Byte.lf ∉ line := by
  obtain ⟨isGap, spaced⟩ := onLine
  exact List.not_mem_append isGap.inside spaced.lf_not_mem

theorem frame (onLine : OnLine parts line) (worded : parts ≠ [])
    (mark : line.head? ≠ some (Byte.ofAscii '*')) (short : line.length ≤ limits.lineBytes) :
    CommandFrame limits parts (line ++ [Byte.lf]) := by
  have found := onLine.words_eq
  rw [← found] at worded ⊢
  exact .line mark onLine.lf_not_mem short (words_ne_nil_iff.mp worded)

end OnLine

/-! ## The two forms -/

/-- A request comes out the same from a line of its words and from its encoding, and whatever bytes
follow, both forms leave exactly them. -/
theorem line_decodes_as_encoding {r : Request} {line : Bytes} (fits : r.Fits limits)
    (sized : r.Sized) (onLine : OnLine r.parts line)
    (mark : line.head? ≠ some (Byte.ofAscii '*')) (short : line.length ≤ limits.lineBytes)
    (rest : Bytes) :
    ({ limits, buffer := line ++ [Byte.lf] ++ rest } : RequestDecoder).next =
        (.item r, { limits, buffer := rest }) ∧
      ({ limits, buffer := r.encode ++ rest } : RequestDecoder).next =
        (.item r, { limits, buffer := rest }) := by
  have worded : r.parts ≠ [] := List.cons_ne_nil _ _
  exact ⟨(onLine.frame worded mark short).next rest, (fits.frame sized).next rest⟩

/-- Tabs, form feeds and carriage returns around words, one of them with a vertical tab inside, on a
line of as many bytes as are allowed. -/
theorem tabbed_decodes_as_encoding :
    let limits : Limits := { elements := 3, bulkBytes := 3, lineBytes := 13 }
    let r : Request := ⟨Bytes.ofAscii "SET", [[107, 11], Bytes.ofAscii "*5"]⟩
    let line : Bytes := [9, 83, 69, 84, 32, 12, 107, 11, 13, 9, 42, 53, 13]
    let rest := Bytes.ofAscii "*1"
    ({ limits, buffer := line ++ [Byte.lf] ++ rest } : RequestDecoder).next =
        (.item r, { limits, buffer := rest }) ∧
      ({ limits, buffer := r.encode ++ rest } : RequestDecoder).next =
        (.item r, { limits, buffer := rest }) := by
  intro limits r line rest
  have name : IsWord (Bytes.ofAscii "SET") := by decide +kernel
  have key : IsWord [107, 11] := by decide +kernel
  have value : IsWord (Bytes.ofAscii "*5") := by decide +kernel
  have spaced : Spaced r.parts ([83, 69, 84] ++ [32, 12] ++ ([107, 11] ++ [13, 9] ++
      ([42, 53] ++ [13]))) := by
    refine .next name ?_ ?_ (.next key ?_ ?_ (.last value ?_)) <;> decide +kernel
  have onLine : OnLine r.parts ([9] ++ _) := .intro (by decide +kernel) spaced
  have fits : r.Fits limits := by decide +kernel
  have sized : r.Sized := by decide +kernel
  exact line_decodes_as_encoding fits sized onLine (by decide +kernel) (by decide +kernel) rest

end IdService.Wire
