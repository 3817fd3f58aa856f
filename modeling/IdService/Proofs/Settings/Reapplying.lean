import IdService.Proofs.Settings.Reached

/-! # Writing what is shown

The text that a setting is shown as stands for its value, so writing that very text changes nothing.
The exceptions are values of a start, which are checked in another way. The start does not look
whether a host or a path is blank, and such a text is refused. It reads a log filter with the white
space in front, behind which fields are cut out elsewhere, so that a field may be refused when it is
read in its place. And it takes paths that are not UTF-8, which become other paths.
-/

namespace IdService

/-- The text that shows a straying value is refused, or it stands for another value. -/
theorem Kind.parse_of_strays [Patterns] {k : Kind} {v : k.Value} (strays : k.Strays v) :
    k.parse (k.render v) = .error .blank ∨
      (∃ reason, k.parse (k.render v) = .error (.filter (.field reason))) ∨
      ∃ w, w ≠ v ∧ k.parse (k.render v) = .ok w := by
  have unblank_blank {raw : String} (blank : Text.trim raw = "") : unblank raw = .error .blank :=
    if_pos (trim_eq_empty.mp blank)
  cases k with
  | filter =>
      obtain ⟨-, reason, refused⟩ := strays
      exact .inr (.inl ⟨reason, by simp only [parse, render, refused]⟩)
  | text => exact .inl (unblank_blank strays)
  | path =>
      by_cases blank : Text.trim (Text.ofUtf8Lossy v) = ""
      · refine .inl ?_
        simp only [parse, render, unblank_blank blank]
        rfl
      · have none := strays.resolve_left blank
        refine .inr (.inr ⟨Text.utf8 (Text.ofUtf8Lossy v), fun same => ?_,
          parse_eq_ok.mpr ⟨rfl, blank⟩⟩)
        rw [← same, Text.ofUtf8?_utf8] at none
        cases none
  | port | number | positive | batch | nodes => exact strays.elim

namespace Configuration

section

variable [Patterns] {c : Configuration} {p : Setting}

/-- Nothing that can be seen of a configuration has changed, neither a value nor a text that is
shown. -/
structure Alike (c c' : Configuration) : Prop where
  value : ∀ q, c'.value q = c.value q
  text : ∀ q, c'.text q = c.text q
  shutdownTimeout : c'.shutdownTimeout = c.shutdownTimeout

omit [Patterns] in
theorem Gives.alike {c' : Configuration} (gives : c.Gives p (c.value p) (c.text p) c') :
    c.Alike c' where
  value := by
    intro q
    by_cases here : q = p
    · subst here
      exact gives.value
    · exact gives.otherValues q here
  text := by
    intro q
    by_cases here : q = p
    · subst here
      exact gives.text
    · exact gives.otherTexts q here
  shutdownTimeout := gives.shutdownTimeout

/-- The text that a setting is shown as is taken over for it, in place and under its name, and
nothing changes. -/
def Reapplies (c : Configuration) (p : Setting) : Prop :=
  ∃ c', (Edit.apply p (c.text p)).on c = (.ok (c.text p), c') ∧
    c.override p.name (c.text p) = .ok (p, c') ∧ c.Alike c'

theorem reapplies_of_reads (reads : p.kind.Reads (c.text p) (c.value p)) : c.Reapplies p := by
  have parsed := Kind.parse_eq_ok.mpr reads
  refine ⟨c.set p (c.value p) (c.text p), ?_, ?_, (c.gives_set p _ _).alike⟩
  · rw [Edit.on_apply, parsed]
  · exact override_eq_ok.mpr ⟨rfl, c.value p, parsed, rfl⟩

/-- Writing what a setting is shown as is refused, and nothing changes, or it gives the setting
another value. -/
inductive Upsets (c : Configuration) (p : Setting) : Prop where
  | blank : (Edit.apply p (c.text p)).on c = (.error (.invalid p .blank), c) → Upsets c p
  | field (reason : String) : (Edit.apply p (c.text p)).on c =
      (.error (.invalid p (.filter (.field reason))), c) → Upsets c p
  | replaced (v : p.Value) : v ≠ c.value p →
      (Edit.apply p (c.text p)).on c = (.ok (c.text p), c.set p v (c.text p)) → Upsets c p

theorem Upsets.not_reapplies (upsets : c.Upsets p) : ¬ c.Reapplies p := by
  rintro ⟨c', taken, -, alike⟩
  cases upsets with
  | blank refused | field _ refused =>
      rw [refused] at taken
      cases taken
  | replaced v other took =>
      rw [took] at taken
      obtain rfl := congrArg Prod.snd taken
      have value : (c.set p v (c.text p)).value p = v := value_of_cell (cell_set_same c p v _)
      exact other (value.symm.trans (alike.value p))

theorem upsets_of_strays (unwritten : c.written p = none) (strays : p.kind.Strays (c.value p)) :
    c.Upsets p := by
  have shown : c.text p = p.kind.render (c.value p) := by rw [text, unwritten]
  have comes := Edit.on_apply c p (c.text p)
  rcases Kind.parse_of_strays strays with blank | ⟨reason, refused⟩ | ⟨w, other, parsed⟩
  · rw [shown, blank] at comes
    exact .blank (shown ▸ comes)
  · rw [shown, refused] at comes
    exact .field reason (shown ▸ comes)
  · rw [shown, parsed] at comes
    exact .replaced w other (shown ▸ comes)

/-- Whatever has been done to the configuration of a server, each setting takes the text that it is
shown as, and nothing changes by it, unless the setting has not been written since the start and has a
straying value. Then the text is refused, or it replaces a path. -/
theorem shown_reapplies_iff (reached : Reached c) (p : Setting) :
    (c.Reapplies p ↔ ¬ (c.written p = none ∧ p.kind.Strays (c.value p))) ∧
      (¬ c.Reapplies p → c.Upsets p) := by
  by_cases strays : c.written p = none ∧ p.kind.Strays (c.value p)
  · have upsets := upsets_of_strays strays.1 strays.2
    exact ⟨iff_of_false upsets.not_reapplies (not_not.mpr strays), fun _ => upsets⟩
  · have reads := reached.sound.reads fun unwritten value => strays ⟨unwritten, value⟩
    have reapplies := reapplies_of_reads reads
    exact ⟨iff_of_true reapplies strays, fun refused => absurd reapplies refused⟩

end

/-- The nodes, which no command line has to give, and a batch size that has been written between
spaces. -/
theorem written_reapplies :
    let c := ((Edit.apply .batchSize " 7 ").on (initial 4)).2
    c.Reapplies .batchSize ∧ c.Reapplies .nodes := by
  intro c
  have reached : Reached c := .applied .batchSize " 7 " (.started (start_initial (by decide)))
  constructor
  · exact (shown_reapplies_iff reached .batchSize).1.mpr And.right
  · exact (shown_reapplies_iff reached .nodes).1.mpr And.right

/-- A server can be started without a host, and shows one that it does not take. -/
theorem blankHost_not_reapplied :
    ∃ c, start 4 [Text.utf8 "--server-host="] (fun _ => none) = .ok c ∧ c.text .serverHost = "" ∧
      (Edit.apply .serverHost "").on c = (.error (.invalid .serverHost .blank), c) := by
  have shown : (start 4 [Text.utf8 "--server-host="] fun _ => none).toOption.map
      (·.text .serverHost) = some "" := by decide +kernel
  cases accepted : start 4 [Text.utf8 "--server-host="] fun _ => none with
  | error fault =>
      rw [accepted] at shown
      cases shown
  | ok c =>
      rw [accepted] at shown
      refine ⟨c, rfl, Option.some.inj shown, ?_⟩
      rw [Edit.on_apply]
      rfl

/-- With two spaces in front of it, this filter has a field without a value. -/
example : (LogFilter.parse "  [a\x7bb=(\x7d]").toOption.isSome ∧
    Kind.Strays .filter "  [a\x7bb=(\x7d]" :=
  ⟨by decide +kernel, ⟨' ', rfl, rfl⟩, _, rfl⟩

end Configuration
end IdService
