import IdService.Proofs.Store.Calls
import IdService.Proofs.Store.Settings

/-! # The two engines answer alike

What a call of a store comes back with is said by what the store holds, and not by how its engine
lays that out. So stores that hold the same answer every sequence of calls alike, and the engines
hold the same as long as nobody tells one of them to fail or puts bytes into the other. The names
of counters and settings must be such that the durable engine takes them.
-/

namespace IdService

open Text

namespace Contents

/-- What a call comes back with, and what is held then. -/
def call (c : Contents) : Store.Call → Store.Answer × Contents
  | .ensureCounter key => (.done, c.ensure key)
  | .readCounter key => (.ofValue (c.read key), c)
  | .advance key delta => (.ofUnit (c.advance key delta).1, (c.advance key delta).2)
  | .overwriteCounter key value => (.ofUnit (c.overwrite key value).1, (c.overwrite key value).2)
  | .removeCounter key => (.ofUnit (c.remove key).1, (c.remove key).2)
  | .addKnown key => (.done, { c with known := c.known.insert (utf8 key) () })
  | .removeKnown key => (.done, { c with known := c.known.erase (utf8 key) })
  | .knownKeys => (.keys (c.known.keys.map ofUtf8Lossy), c)
  | .keepSetting name value =>
    (.done, { c with settings := c.settings.insert (utf8 name) (utf8 value) })
  | .savedSettings => (.settings (c.settings.entries.map Store.textEntry), c)

theorem known_advance (c : Contents) (key : String) (delta : Int64) :
    (c.advance key delta).2.known = c.known := by
  unfold advance
  split
  · rfl
  · split
    · rfl
    · rfl
    · split <;> rfl

theorem known_overwrite (c : Contents) (key : String) (value : Int64) :
    (c.overwrite key value).2.known = c.known := by
  unfold overwrite
  split <;> rfl

theorem known_remove (c : Contents) (key : String) : (c.remove key).2.known = c.known := by
  unfold remove
  split <;> rfl

end Contents

namespace Store

/-! ## Calls by what is held -/

theorem call_eq (st : Store) (filled : st.contents.Filled) (c : Call) :
    ((st.call c).1, (st.call c).2.contents) = st.contents.call c := by
  cases c with
  | ensureCounter key => simp only [call, Contents.call, contents_ensureCounter]
  | readCounter key => simp only [call, Contents.call, contents_readCounter, readCounter_fst]
  | advance key delta => simp only [call, Contents.call, ← advance_contents]
  | overwriteCounter key value => simp only [call, Contents.call, ← overwriteCounter_contents]
  | removeCounter key => simp only [call, Contents.call, ← removeCounter_contents]
  | addKnown key => simp only [call, Contents.call, contents_addKnown]
  | removeKnown key => simp only [call, Contents.call, contents_removeKnown]
  | knownKeys => simp only [call, Contents.call, knownKeys_eq filled]
  | keepSetting name value => simp only [call, Contents.call, contents_keepSetting]
  | savedSettings => simp only [call, Contents.call, savedSettings_eq]

/-! ## Names that both engines take -/

/-- The most bytes of a name that the durable engine takes. -/
def nameBytes : Nat := 65535

/-- The counter, the known key or the setting that a call is about. -/
def Call.name? : Call → Option String
  | .ensureCounter key | .readCounter key | .advance key _ | .overwriteCounter key _
  | .removeCounter key | .addKnown key | .removeKnown key => some key
  | .keepSetting name _ => some name
  | .knownKeys | .savedSettings => none

/-- Both engines take the name that the call is about. -/
def Call.Admissible (c : Call) : Prop :=
  ∀ name ∈ c.name?, name ≠ "" ∧ (utf8 name).length ≤ nameBytes

instance : DecidablePred Call.Admissible := fun c =>
  inferInstanceAs (Decidable (∀ name ∈ c.name?, name ≠ "" ∧ (utf8 name).length ≤ nameBytes))

theorem filled_call {c : Contents} (filled : c.Filled) {call : Call}
    (admissible : call.Admissible) : (c.call call).2.Filled := by
  cases call with
  | addKnown key =>
      have named := (admissible key rfl).1
      intro member
      rw [Table.mem_keys] at member
      have split := Table.contains_insert c.known (utf8 key) [] ()
      rw [show (c.call (.addKnown key)).2.known.contains [] = _ from split, Bool.or_eq_true,
        decide_eq_true_eq] at member
      rcases member with empty | old
      · exact named (utf8_injective empty.symm)
      · exact filled (Table.mem_keys.mpr old)
  | removeKnown key =>
      intro member
      rw [Table.mem_keys] at member
      have split := Table.contains_erase c.known (utf8 key) []
      rw [show (c.call (.removeKnown key)).2.known.contains [] = _ from split,
        Bool.and_eq_true] at member
      exact filled (Table.mem_keys.mpr member.2)
  | ensureCounter key =>
      rw [Contents.Filled, Contents.call, Contents.known_ensure]
      exact filled
  | advance key delta =>
      rw [Contents.Filled, Contents.call, Contents.known_advance]
      exact filled
  | overwriteCounter key value =>
      rw [Contents.Filled, Contents.call, Contents.known_overwrite]
      exact filled
  | removeCounter key =>
      rw [Contents.Filled, Contents.call, Contents.known_remove]
      exact filled
  | readCounter | knownKeys | keepSetting | savedSettings => exact filled

/-! ## Sequences of calls -/

/-- What a store goes through: calls, and that it is closed and opened again. -/
inductive Access where
  | call (c : Call)
  | reopen
deriving Repr, DecidableEq

def Access.Admissible : Access → Prop
  | call c => c.Admissible
  | reopen => True

instance : DecidablePred Access.Admissible
  | .call c => inferInstanceAs (Decidable c.Admissible)
  | .reopen => inferInstanceAs (Decidable True)

/-- The store opened again. The durable engine finds its tables as it left them; the memory engine
has not been away. -/
def reopen : Store → Store
  | volatile st => volatile st
  | persistent st => persistent ⟨st.counters, st.known, st.settings⟩

/-- What the calls come back with, one after the other. -/
def answers (st : Store) : List Access → List Answer
  | [] => []
  | .call c :: rest => (st.call c).1 :: (st.call c).2.answers rest
  | .reopen :: rest => st.reopen.answers rest

theorem contents_reopen (st : Store) : st.reopen.contents = st.contents := by
  cases st <;> rfl

/-- Stores that hold the same are not told apart by calls. -/
theorem answers_congr {st st' : Store} (same : st.contents = st'.contents)
    (filled : st.contents.Filled) {accesses : List Access}
    (admissible : ∀ a ∈ accesses, a.Admissible) :
    st.answers accesses = st'.answers accesses := by
  induction accesses generalizing st st' with
  | nil => rfl
  | cons access rest ih =>
      obtain ⟨here, later⟩ := List.forall_mem_cons.mp admissible
      cases access with
      | call c =>
          have taken := st.call_eq filled c
          have taken' := st'.call_eq (same ▸ filled) c
          rw [← same] at taken'
          obtain ⟨answer, contents⟩ := Prod.mk.inj (taken.trans taken'.symm)
          have stays : (st.call c).2.contents.Filled := by
            rw [show (st.call c).2.contents = (st.contents.call c).2 from congrArg Prod.snd taken]
            exact filled_call filled here
          simp only [answers, answer, ih contents stays later]
      | reopen =>
          have reopened : st.reopen.contents = st'.reopen.contents := by
            rw [contents_reopen, contents_reopen, same]
          exact ih reopened ((contents_reopen st).symm ▸ filled) later

/-- Over empty stores the memory engine and the durable engine come back with the same from every
sequence of calls, however often they are opened again in between. -/
theorem engines_answer_alike {accesses : List Access}
    (admissible : ∀ a ∈ accesses, a.Admissible) :
    (volatile {}).answers accesses = (persistent {}).answers accesses := by
  have filled : (volatile {}).contents.Filled := by
    intro member
    cases member
  have same : (volatile {}).contents = (persistent {}).contents := rfl
  exact answers_congr same filled admissible

/-- Counters below zero, at their end and missing, keys in the order of their bytes. -/
def mixedAccesses : List Access :=
  [.call (.readCounter "z"), .call (.ensureCounter "z"), .call (.advance "z" (-5)), .reopen,
    .call (.readCounter "z"), .call (.overwriteCounter "z" Int64.maxValue),
    .call (.advance "z" 1), .call (.addKnown "é"), .call (.addKnown "z"), .call .knownKeys,
    .call (.keepSetting "threads" ""), .reopen, .call .savedSettings]

theorem mixedAccesses_alike :
    (persistent {}).answers mixedAccesses =
        [.halted (.fault (.missing "z")), .done, .done, .value (-5), .done,
          .halted (.fault (.overflow "z")), .done, .done, .keys ["z", "é"], .done,
          .settings [("threads", "")]] ∧
      (volatile {}).answers mixedAccesses = (persistent {}).answers mixedAccesses :=
  ⟨by decide +kernel, engines_answer_alike (by decide +kernel)⟩

end Store
end IdService
