import IdService.Wire.Feed
import IdService.Bytes

/-! # Feeding in chunks

A decoder is fed chunk by chunk until its first fault. It resumes where it stopped if waiting loses
nothing: an item stands whatever follows, and a decoder that waits goes on as if it had not. Then the
chunks that it has been fed are as good as one. A fault stands, too, but for one kind, the fault of a
line that has not ended in time: more bytes may bring its end. So the cuts between chunks can be
seen by that fault only, and the bytes where it may arise say when.
-/

namespace IdService.Wire

variable {σ α : Type}

/-- The same, with items found before. -/
def Drained.prepend (items : List α) (x : Drained σ α) : Drained σ α :=
  { x with items := items ++ x.items }

/-- Feeds chunks one after the other, up to the first fault. -/
def feedAll (feed : σ → Bytes → Drained σ α) (d : σ) : List Bytes → Drained σ α
  | [] => ⟨[], none, d⟩
  | chunk :: chunks =>
    let fed := feed d chunk
    match fed.fault with
    | some _ => fed
    | none => (feedAll feed fed.decoder chunks).prepend fed.items

theorem feedAll_singleton (feed : σ → Bytes → Drained σ α) (d : σ) (chunk : Bytes) :
    feedAll feed d [chunk] = feed d chunk := by
  simp only [feedAll]
  split
  · rfl
  · rename_i waits
    rw [Drained.prepend, List.append_nil, ← waits]

/-- What is seen of a decoder's work: the items, and whether it waits or has failed. -/
def SeenAlike (x y : Drained σ α) : Prop := x.items = y.items ∧ x.fault.isSome = y.fault.isSome

/-- A decoder resumes where it stopped. `Valid` decoders do, and all faults stand but `late`. -/
structure Resumes (next : σ → Outcome α × σ) (append : σ → Bytes → σ) (Valid : σ → Prop)
    (late : Fault) : Prop where
  append_nil : ∀ d, append d [] = d
  append_append : ∀ d bs more, append (append d bs) more = append d (bs ++ more)
  valid_append : ∀ {d}, Valid d → ∀ more, Valid (append d more)
  valid_next : ∀ {d}, Valid d → Valid (next d).2
  item : ∀ {d a d'}, Valid d → next d = (.item a, d') → ∀ more,
    next (append d more) = (.item a, append d' more)
  waiting : ∀ {d d'}, Valid d → next d = (.waiting, d') → ∀ more,
    next (append d more) = next (append d' more)
  failed : ∀ {d fault d'}, Valid d → next d = (.failed fault, d') → fault ≠ late → ∀ more,
    ∃ d'', next (append d more) = (.failed fault, d'')

/-! ## Asking until it waits or fails -/

/-- Asked again and again, a decoder gives these items. -/
inductive Yields (next : σ → Outcome α × σ) : σ → List α → σ → Prop where
  | done (d : σ) : Yields next d [] d
  | item {d d' d'' : σ} {a : α} {items : List α} (found : next d = (.item a, d'))
      (others : Yields next d' items d'') : Yields next d (a :: items) d''

section Drain

variable {next : σ → Outcome α × σ} {left : σ → Nat}
  {shrinks : ∀ s a s', next s = (.item a, s') → left s' < left s}

theorem drain_eq (d : σ) (items : List α) : drain next left shrinks d items =
    match next d with
    | (.item a, d') => drain next left shrinks d' (a :: items)
    | (.waiting, d') => ⟨items.reverse, none, d'⟩
    | (.failed fault, d') => ⟨items.reverse, some fault, d'⟩ := by
  conv => lhs; unfold drain
  split <;> rename_i found <;> simp only [found]

theorem drain_accumulates (d : σ) (items : List α) :
    drain next left shrinks d items = (drain next left shrinks d []).prepend items.reverse := by
  induction size : left d using Nat.strongRecOn generalizing d items with
  | ind n ih =>
      rw [drain_eq d items, drain_eq d []]
      split
      · rename_i a d' found
        have shorter := shrinks d a d' found
        rw [ih (left d') (by omega) d' (a :: items) rfl, ih (left d') (by omega) d' [a] rfl]
        simp [Drained.prepend]
      · simp [Drained.prepend]
      · simp [Drained.prepend]

theorem drain_item {d d' : σ} {a : α} (found : next d = (.item a, d')) :
    drain next left shrinks d [] = (drain next left shrinks d' []).prepend [a] := by
  rw [drain_eq, found]
  exact drain_accumulates d' [a]

theorem drain_waiting {d d' : σ} (found : next d = (.waiting, d')) :
    drain next left shrinks d [] = ⟨[], none, d'⟩ := by
  rw [drain_eq, found]
  rfl

theorem drain_failed {d d' : σ} {fault : Fault} (found : next d = (.failed fault, d')) :
    drain next left shrinks d [] = ⟨[], some fault, d'⟩ := by
  rw [drain_eq, found]
  rfl

theorem drain_congr {d e : σ} (same : next d = next e) :
    drain next left shrinks d [] = drain next left shrinks e [] := by
  rw [drain_eq d, drain_eq e, same]

theorem Yields.drain_eq {d d' : σ} {items : List α} (yields : Yields next d items d') :
    drain next left shrinks d [] = (drain next left shrinks d' []).prepend items := by
  induction yields with
  | done d => simp [Drained.prepend]
  | item found _ ih =>
      rw [drain_item found, ih]
      simp [Drained.prepend]

/-- Draining ends where the decoder waits or fails. -/
theorem drain_cases (d : σ) :
    ∃ d', Yields next d (drain next left shrinks d []).items d' ∧
      ((next d' = (.waiting, (drain next left shrinks d []).decoder) ∧
          (drain next left shrinks d []).fault = none) ∨
        ∃ fault, next d' = (.failed fault, (drain next left shrinks d []).decoder) ∧
          (drain next left shrinks d []).fault = some fault) := by
  induction size : left d using Nat.strongRecOn generalizing d with
  | ind n ih =>
      cases found : next d with
      | mk outcome d' =>
          cases outcome with
          | waiting =>
              rw [drain_waiting found]
              exact ⟨d, .done d, .inl ⟨found, rfl⟩⟩
          | failed fault =>
              rw [drain_failed found]
              exact ⟨d, .done d, .inr ⟨fault, found, rfl⟩⟩
          | item a =>
              have shorter := shrinks d a d' found
              obtain ⟨last, yields, stop⟩ := ih (left d') (by omega) d' rfl
              rw [drain_item found]
              exact ⟨last, .item found yields, stop⟩

end Drain

/-! ## Resuming -/

namespace Resumes

variable {next : σ → Outcome α × σ} {append : σ → Bytes → σ} {Valid : σ → Prop} {late : Fault}
  {left : σ → Nat} {shrinks : ∀ s a s', next s = (.item a, s') → left s' < left s}
  (resumes : Resumes next append Valid late)

include resumes

theorem valid_yields {d d' : σ} {items : List α} (yields : Yields next d items d')
    (valid : Valid d) : Valid d' := by
  induction yields with
  | done d => exact valid
  | item found _ ih => exact ih (by simpa [found] using resumes.valid_next valid)

theorem yields_append {d d' : σ} {items : List α} (yields : Yields next d items d')
    (valid : Valid d) (more : Bytes) : Yields next (append d more) items (append d' more) := by
  induction yields with
  | done d => exact .done _
  | item found _ ih =>
      have valid' := resumes.valid_next valid
      rw [found] at valid'
      exact .item (resumes.item valid found more) (ih valid')

theorem waits_again {d d' : σ} (valid : Valid d) (found : next d = (.waiting, d')) :
    next d' = (.waiting, d') := by
  have same := resumes.waiting valid found []
  rw [resumes.append_nil, resumes.append_nil] at same
  rw [← same, found]

/-- Where a decoder has come to wait, more bytes go on. -/
theorem drain_append_of_waiting {d : σ} (valid : Valid d)
    (waits : (drain next left shrinks d []).fault = none) (more : Bytes) :
    drain next left shrinks (append d more) [] =
      (drain next left shrinks (append (drain next left shrinks d []).decoder more) []).prepend
        (drain next left shrinks d []).items := by
  obtain ⟨d', yields, ⟨found, -⟩ | ⟨fault, -, failed⟩⟩ := @drain_cases _ _ next left shrinks d
  · rw [(resumes.yields_append yields valid more).drain_eq]
    congr 1
    exact drain_congr (resumes.waiting (resumes.valid_yields yields valid) found more)
  · rw [waits] at failed
    cases failed

/-- The items in front of a fault stand, and the fault does unless it is the late one. -/
theorem drain_append_of_failed {d : σ} {fault : Fault} (valid : Valid d)
    (failed : (drain next left shrinks d []).fault = some fault) (stands : fault ≠ late)
    (more : Bytes) :
    (drain next left shrinks (append d more) []).items = (drain next left shrinks d []).items ∧
      (drain next left shrinks (append d more) []).fault = some fault := by
  obtain ⟨d', yields, ⟨-, waits⟩ | ⟨fault', found, same⟩⟩ := @drain_cases _ _ next left shrinks d
  · rw [waits] at failed
    cases failed
  · rw [same] at failed
    cases failed
    obtain ⟨d'', again⟩ := resumes.failed (resumes.valid_yields yields valid) found stands more
    rw [(resumes.yields_append yields valid more).drain_eq, drain_failed again]
    simp [Drained.prepend]

theorem idle_of_drain {d : σ} (valid : Valid d)
    (waits : (drain next left shrinks d []).fault = none) :
    Valid (drain next left shrinks d []).decoder ∧
      next (drain next left shrinks d []).decoder =
        (.waiting, (drain next left shrinks d []).decoder) := by
  obtain ⟨d', yields, ⟨found, -⟩ | ⟨fault, -, failed⟩⟩ := @drain_cases _ _ next left shrinks d
  · have valid' := resumes.valid_yields yields valid
    have next_valid := resumes.valid_next valid'
    rw [found] at next_valid
    exact ⟨next_valid, resumes.waits_again valid' found⟩
  · rw [waits] at failed
    cases failed

/-- Chunks up to the first fault are as good as one. -/
theorem feedAll_eq_drain {feed : σ → Bytes → Drained σ α}
    (feeds : ∀ d chunk, feed d chunk = drain next left shrinks (append d chunk) []) {d : σ}
    (valid : Valid d) (idle : next d = (.waiting, d)) (chunks : List Bytes) :
    ∃ read unread, chunks = read ++ unread ∧
      feedAll feed d chunks = drain next left shrinks (append d read.flatten) [] ∧
      ((feedAll feed d chunks).fault = none → unread = []) := by
  induction chunks generalizing d with
  | nil =>
      refine ⟨[], [], rfl, ?_, fun _ => rfl⟩
      rw [List.flatten_nil, resumes.append_nil, drain_waiting idle, feedAll]
  | cons chunk chunks ih =>
      have valid' := resumes.valid_append valid chunk
      cases stop : (feed d chunk).fault with
      | some fault =>
          have fed : feedAll feed d (chunk :: chunks) = feed d chunk := by simp only [feedAll, stop]
          refine ⟨[chunk], chunks, rfl, ?_, ?_⟩
          · rw [fed, feeds, List.flatten_singleton]
          · rw [fed, stop]
            rintro ⟨⟩
      | none =>
          have fed : feedAll feed d (chunk :: chunks) =
              (feedAll feed (feed d chunk).decoder chunks).prepend (feed d chunk).items := by
            simp only [feedAll, stop]
          rw [feeds] at stop fed
          obtain ⟨valid'', idle'⟩ := resumes.idle_of_drain valid' stop
          obtain ⟨read, unread, rfl, whole, all⟩ := ih valid'' idle'
          refine ⟨chunk :: read, unread, rfl, ?_, ?_⟩
          · rw [fed, whole, ← resumes.drain_append_of_waiting valid' stop, resumes.append_append,
              List.flatten_cons]
          · rw [fed]
            exact all

/-- Cuts are not seen, exactly if the late fault, where part of the bytes ends in it, is not undone
by the rest. -/
theorem seenAlike_iff {feed : σ → Bytes → Drained σ α}
    (feeds : ∀ d chunk, feed d chunk = drain next left shrinks (append d chunk) []) {d : σ}
    (valid : Valid d) (idle : next d = (.waiting, d)) (bs : Bytes) :
    (∀ cs ds : List Bytes, cs.flatten = bs → ds.flatten = bs →
        SeenAlike (feedAll feed d cs) (feedAll feed d ds)) ↔
      ∀ early later, bs = early ++ later → (feed d early).fault = some late →
        SeenAlike (feed d early) (feed d bs) := by
  constructor
  · rintro alike early later rfl failed
    have seen := alike [early, later] [early ++ later] (by simp) (by simp)
    have first : feedAll feed d [early, later] = feed d early := by simp only [feedAll, failed]
    rwa [first, feedAll_singleton] at seen
  · intro late_stands
    have whole : ∀ cs : List Bytes, cs.flatten = bs → SeenAlike (feedAll feed d cs) (feed d bs) := by
      rintro cs rfl
      obtain ⟨read, unread, rfl, fed, all⟩ := resumes.feedAll_eq_drain feeds valid idle cs
      rw [fed]
      rw [fed] at all
      cases stop : (drain next left shrinks (append d read.flatten) []).fault with
      | none =>
          rw [all stop, List.append_nil, feeds]
          exact ⟨rfl, rfl⟩
      | some fault =>
          by_cases stands : fault = late
          · subst stands
            rw [← feeds] at stop ⊢
            exact late_stands read.flatten unread.flatten (by simp) stop
          · have same := resumes.drain_append_of_failed (resumes.valid_append valid _) stop stands
              unread.flatten
            rw [resumes.append_append, ← List.flatten_append, ← feeds] at same
            exact ⟨same.1.symm, by rw [stop, same.2]⟩
    intro cs ds whole_cs whole_ds
    have left_seen := whole cs whole_cs
    have right_seen := whole ds whole_ds
    exact ⟨left_seen.1.trans right_seen.1.symm, left_seen.2.trans right_seen.2.symm⟩

/-! ## What has been encoded -/

section Encoded

variable {β : Type} {encode : β → Bytes} {read : β → α} {start : σ} {items : List β}
  (whole : ∀ b ∈ items, ∀ rest,
    next (append start (encode b ++ rest)) = (.item (read b), append start rest))
  (valid : Valid start) (fresh : ∀ d more, append d more = start → more = [])
  (inTime : ∀ b ∈ items, ∀ early, early <+: encode b → (next (append start early)).1 ≠ .failed late)
  (idle : next start = (.waiting, start))

include whole valid fresh inTime in
/-- An item that has arrived in part is waited for: an item or a fault would stand to its end. -/
theorem waits_early {b : β} (member : b ∈ items) {early : Bytes} (part : early <+: encode b)
    (unended : early ≠ encode b) : (next (append start early)).1 = .waiting := by
  obtain ⟨later, form⟩ := part
  have valid' := resumes.valid_append valid early
  have all : next (append (append start early) later) = (.item (read b), start) := by
    have encoded := whole b member []
    rwa [List.append_nil, resumes.append_nil, ← form, ← resumes.append_append] at encoded
  cases found : next (append start early) with
  | mk outcome d' =>
      cases outcome with
      | waiting => rfl
      | item a =>
          have stands := resumes.item valid' found later
          rw [all, Prod.mk.injEq] at stands
          have nothing := fresh d' later stands.2.symm
          rw [nothing, List.append_nil] at form
          exact absurd form unended
      | failed fault =>
          have ended : fault ≠ late := by
            rintro rfl
            exact inTime b member early ⟨later, form⟩ (by rw [found])
          obtain ⟨d'', stands⟩ := resumes.failed valid' found ended later
          rw [all] at stands
          cases stands

include whole idle in
theorem drain_encoded :
    drain next left shrinks (append start (items.flatMap encode)) [] =
      ⟨items.map read, none, start⟩ := by
  induction items with
  | nil => rw [List.flatMap_nil, resumes.append_nil, drain_waiting idle, List.map_nil]
  | cons b items ih =>
      obtain ⟨first, others⟩ := List.forall_mem_cons.mp whole
      rw [List.flatMap_cons, drain_item (first _), ih others]
      rfl

include whole valid fresh inTime idle

theorem drain_early {early : Bytes} (part : early <+: items.flatMap encode) :
    (drain next left shrinks (append start early) []).fault = none := by
  induction items generalizing early with
  | nil => rw [List.prefix_nil.mp part, resumes.append_nil, drain_waiting idle]
  | cons b items ih =>
      obtain ⟨first, others⟩ := List.forall_mem_cons.mp whole
      rw [List.flatMap_cons] at part
      -- what has arrived ends inside the first item or behind it
      have behind : ∀ early', early = encode b ++ early' → early' <+: items.flatMap encode →
          (drain next left shrinks (append start early) []).fault = none := by
        rintro early' rfl part'
        rw [drain_item (first early')]
        exact ih others (List.forall_mem_cons.mp inTime).2 part'
      rcases List.prefix_or_prefix_of_prefix part (List.prefix_append _ _) with
        inside | ⟨early', form⟩
      · by_cases all : early = encode b
        · exact behind [] (by simp [all]) List.nil_prefix
        · have member : b ∈ b :: items := List.mem_cons_self ..
          have waits := resumes.waits_early whole valid fresh inTime member inside all
          rw [drain_waiting (Prod.ext waits rfl)]
      · subst form
        exact behind early' rfl ((List.prefix_append_right_inj _).mp part)

/-- What has been encoded is read item by item, however its bytes are cut. -/
theorem feedAll_encoded {feed : σ → Bytes → Drained σ α}
    (feeds : ∀ d chunk, feed d chunk = drain next left shrinks (append d chunk) [])
    {chunks : List Bytes} (form : chunks.flatten = items.flatMap encode) :
    feedAll feed start chunks = ⟨items.map read, none, start⟩ := by
  obtain ⟨taken, unread, rfl, fed, all⟩ := resumes.feedAll_eq_drain feeds valid idle chunks
  rw [List.flatten_append] at form
  rw [fed] at all
  have early : taken.flatten <+: items.flatMap encode := ⟨unread.flatten, form⟩
  have unread_nil := all (resumes.drain_early whole valid fresh inTime idle early)
  rw [unread_nil, List.flatten_nil, List.append_nil] at form
  rw [fed, form, resumes.drain_encoded whole idle]

end Encoded

end Resumes

end IdService.Wire
