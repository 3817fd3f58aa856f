import IdService.Proofs.Settings.Overlay
import IdService.Proofs.Store.Contents
import IdService.Proofs.Text.Decoding

/-! # Saved settings

A store lists what it has saved in the order of the bytes of the names. For each setting the list
has one entry at most, the one under the bytes of its name, whatever else the store holds. Saving a
text puts one entry in place of the one of its name and leaves the others.
-/

namespace IdService

open Text

namespace Table

variable {κ α : Type} [ByteKey κ] [DecidableEq κ]

private theorem filter_find {l : List (κ × α)}
    (ascending : l.Pairwise fun a b => ByteKey.bytes a.1 < ByteKey.bytes b.1) (k : κ) :
    l.filter (·.1 = k) = (find k l).toList.map (k, ·) := by
  induction l with
  | nil => rfl
  | cons e rest ih =>
      obtain ⟨k', v⟩ := e
      unfold find
      by_cases here : k = k'
      · subst here
        have others : rest.filter (·.1 = k) = [] := by
          refine List.filter_eq_nil_iff.mpr ?_
          intro e member same
          have less := List.rel_of_pairwise_cons ascending member
          rw [of_decide_eq_true same] at less
          exact Std.lt_irrefl less
        simp only [List.filter_cons, decide_true, if_true, others]
        rfl
      · simp only [List.filter_cons, decide_eq_false (Ne.symm here), Bool.false_eq_true, if_false,
          if_neg here]
        exact ih ascending.of_cons

theorem filter_eq (t : Table κ α) (k : κ) :
    t.entries.filter (·.1 = k) = (t.get? k).toList.map (k, ·) :=
  filter_find t.ascending k

theorem erase_insert (t : Table κ α) (k : κ) (v : α) : (t.insert k v).erase k = t.erase k := by
  apply ext
  intro k'
  by_cases here : k' = k <;> simp [here]

end Table

namespace Store

/-- An entry of the settings as texts. -/
def textEntry (e : Bytes × Bytes) : String × String := (ofUtf8Lossy e.1, ofUtf8Lossy e.2)

theorem savedSettings_eq (st : Store) :
    st.savedSettings = st.contents.settings.entries.map textEntry := by
  cases st with
  | volatile st =>
      have same : ∀ e : String × String, textEntry (ByteKey.bytes e.1, utf8 e.2) = e := fun e =>
        Prod.ext (ofUtf8Lossy_utf8 e.1) (ofUtf8Lossy_utf8 e.2)
      simp only [savedSettings, contents, Table.raw, List.map_map, Function.comp_def, same,
        List.map_id']
  | persistent st =>
      simp only [savedSettings, PersistentStore.settingTexts, contents, Table.raw, List.map_map,
        Function.comp_def]
      rfl

/-- The text saved for a setting. -/
def saved? (st : Store) (p : Setting) : Option String :=
  (st.contents.settings.get? (utf8 p.name)).map ofUtf8Lossy

theorem textEntry_name {e : Bytes × Bytes} {p : Setting} :
    (textEntry e).1 = p.name ↔ e.1 = utf8 p.name := by
  constructor
  · intro named
    exact (utf8_of_ofUtf8Lossy named p.replacement_not_mem_name).symm
  · intro named
    rw [textEntry, named, ofUtf8Lossy_utf8]

theorem savedSettings_filter (st : Store) (p : Setting) :
    st.savedSettings.filter (·.1 = p.name) = (st.saved? p).toList.map (p.name, ·) := by
  have names : ∀ e : Bytes × Bytes, decide ((textEntry e).1 = p.name) =
      decide (e.1 = utf8 p.name) := fun e => decide_eq_decide.mpr textEntry_name
  rw [savedSettings_eq, List.filter_map]
  simp only [Function.comp_def, names]
  rw [Table.filter_eq, saved?]
  cases st.contents.settings.get? (utf8 p.name) with
  | none => rfl
  | some raw => simp [textEntry]

theorem saved?_eq_some {st : Store} {p : Setting} {raw : String} :
    st.saved? p = some raw ↔ (p.name, raw) ∈ st.savedSettings := by
  have listed : (p.name, raw) ∈ st.savedSettings ↔
      (p.name, raw) ∈ st.savedSettings.filter (·.1 = p.name) := by
    simp
  rw [listed, savedSettings_filter]
  cases st.saved? p <;> simp [eq_comm]

theorem savedSettings_others (st : Store) (p : Setting) :
    st.savedSettings.filter (·.1 ≠ p.name) =
      (st.contents.settings.erase (utf8 p.name)).entries.map textEntry := by
  have names : ∀ e : Bytes × Bytes, decide ((textEntry e).1 ≠ p.name) =
      decide (e.1 ≠ utf8 p.name) := fun e => decide_eq_decide.mpr (not_congr textEntry_name)
  rw [savedSettings_eq, List.filter_map]
  simp only [Function.comp_def, names]
  rfl

theorem savedSettings_congr {st st' : Store}
    (same : st'.contents.settings = st.contents.settings) :
    st'.savedSettings = st.savedSettings := by
  rw [savedSettings_eq, savedSettings_eq, same]

theorem saved?_congr {st st' : Store} (same : st'.contents.settings = st.contents.settings)
    (p : Setting) : st'.saved? p = st.saved? p := by
  rw [saved?, saved?, same]

/-! ## Saving a text -/

section keepSetting

variable (st : Store) (p : Setting) (raw : String)

theorem saved?_keepSetting_same : (st.keepSetting p.name raw).saved? p = some raw := by
  simp [saved?]

theorem saved?_keepSetting_other {q : Setting} (other : q ≠ p) :
    (st.keepSetting p.name raw).saved? q = st.saved? q := by
  have apart : utf8 q.name ≠ utf8 p.name := fun same =>
    other (Setting.name_injective (utf8_injective same))
  simp [saved?, apart]

theorem keepSetting_others : (st.keepSetting p.name raw).savedSettings.filter (·.1 ≠ p.name) =
    st.savedSettings.filter (·.1 ≠ p.name) := by
  rw [savedSettings_others, savedSettings_others, contents_keepSetting, Table.erase_insert]

theorem mem_keepSetting {e : String × String}
    (member : e ∈ (st.keepSetting p.name raw).savedSettings) :
    e = (p.name, raw) ∨ e ∈ st.savedSettings := by
  rw [savedSettings_eq, contents_keepSetting] at member
  obtain ⟨entry, there, rfl⟩ := List.mem_map.mp member
  rcases Table.mem_put there with rfl | old
  · left
    simp [textEntry]
  · right
    rw [savedSettings_eq]
    exact List.mem_map_of_mem old

end keepSetting

/-- What the texts of a store make of a setting's cell at a start. -/
theorem cell_overlay [Patterns] (st : Store) (c : Configuration) (p : Setting) :
    (c.overrideAll st.savedSettings).2.cell p =
      (st.saved? p).elim (c.cell p) (Configuration.lay p (c.cell p)) := by
  rw [Configuration.cell_overrideAll, savedSettings_filter]
  cases st.saved? p <;> rfl

end Store

/-! ## What counters do to settings -/

namespace Contents

theorem settings_ensure (c : Contents) (key : String) : (c.ensure key).settings = c.settings := by
  unfold ensure
  split <;> rfl

theorem settings_overwrite (c : Contents) (key : String) (value : Int64) :
    (c.overwrite key value).2.settings = c.settings := by
  unfold overwrite
  split <;> rfl

theorem settings_remove (c : Contents) (key : String) :
    (c.remove key).2.settings = c.settings := by
  unfold remove
  split <;> rfl

end Contents
end IdService
