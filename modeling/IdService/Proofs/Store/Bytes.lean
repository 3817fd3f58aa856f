import IdService.Proofs.Store.Contents

/-! # Counters by their bytes

What a store holds tells the values of counters, but of an entry that is no value only that it is
none. Here an entry is the bytes that stand for it: in the durable engine those that are there, in
the memory engine the durable form of the number.
-/

namespace IdService

open Text

namespace Table

variable {κ α β γ : Type} [ByteKey κ]

theorem raw_raw (f : α → β) (g : β → γ) (t : Table κ α) : (t.raw f).raw g = t.raw (g ∘ f) := by
  simp only [raw, List.map_map, mk.injEq]
  rfl

end Table

namespace Entry

theorem ofRaw_eq_corrupt_iff {bytes : Bytes} : ofRaw bytes = .corrupt ↔ bytes.length ≠ 8 := by
  unfold ofRaw Counter.decode?
  by_cases eight : bytes.length = 8 <;> simp [eight]

theorem ofRaw_eq_value_iff {bytes : Bytes} {n : Int64} :
    ofRaw bytes = .value n ↔ Counter.decode? bytes = some n := by
  unfold ofRaw
  cases Counter.decode? bytes <;> simp

end Entry

namespace Store

/-- What is kept for counters, by the bytes of their keys. -/
def counterBytes : Store → Table Bytes Bytes
  | volatile st => st.counters.raw Counter.encode
  | persistent st => st.counters

/-- What is kept for the counter of a key. -/
def counterBytes? (st : Store) (key : String) : Option Bytes := st.counterBytes.get? (utf8 key)

/-- The value of the counter of a key, if what is kept for it is one. -/
def counterValue? (st : Store) (key : String) : Option Int64 :=
  (st.counterBytes? key).bind Counter.decode?

theorem contents_counters (st : Store) : st.contents.counters = st.counterBytes.raw .ofRaw := by
  cases st with
  | volatile st =>
      have value : Entry.ofRaw ∘ Counter.encode = .value := funext Entry.ofRaw_encode
      rw [counterBytes, Table.raw_raw, value]
      rfl
  | persistent st => rfl

theorem contents_counter? (st : Store) (key : String) :
    st.contents.counter? key = (st.counterBytes? key).map .ofRaw := by
  rw [Contents.counter?, contents_counters]
  exact Table.get?_raw Entry.ofRaw st.counterBytes (utf8 key)

theorem contents_counter?_eq_value_iff {st : Store} {key : String} {n : Int64} :
    st.contents.counter? key = some (.value n) ↔ st.counterValue? key = some n := by
  rw [contents_counter?, counterValue?]
  cases st.counterBytes? key with
  | none => simp
  | some bytes => simp [Entry.ofRaw_eq_value_iff]

theorem get?_counterBytes_ensureCounter (st : Store) (key : String) (raw : Bytes) :
    (st.ensureCounter key).counterBytes.get? raw =
      if raw = utf8 key then some ((st.counterBytes.get? raw).getD (Counter.encode 0))
      else st.counterBytes.get? raw := by
  have filled : (st.ensureCounter key).counterBytes =
      if st.counterBytes.contains (utf8 key) then st.counterBytes
      else st.counterBytes.insert (utf8 key) (Counter.encode 0) := by
    cases st with
    | volatile st =>
        have same : (volatile st).counterBytes.contains (utf8 key) = st.counters.contains key :=
          Table.contains_raw Counter.encode st.counters key
        by_cases there : st.counters.contains key
        · rw [if_pos (same.trans there)]
          simp only [ensureCounter, VolatileStore.ensureCounter, if_pos there]
          rfl
        · rw [if_neg fun there' => there (same.symm.trans there')]
          simp only [ensureCounter, VolatileStore.ensureCounter, if_neg there]
          exact Table.raw_insert Counter.encode st.counters key 0
    | persistent st =>
        by_cases there : st.counters.contains (utf8 key)
        · rw [if_pos (show (persistent st).counterBytes.contains (utf8 key) from there)]
          simp only [ensureCounter, PersistentStore.ensureCounter, if_pos there]
        · rw [if_neg (show ¬ (persistent st).counterBytes.contains (utf8 key) from there)]
          simp only [ensureCounter, PersistentStore.ensureCounter, if_neg there]
          rfl
  rw [filled]
  by_cases here : raw = utf8 key
  · subst here
    cases held : st.counterBytes.get? (utf8 key) with
    | none => simp [Table.contains, held]
    | some bytes => simp [Table.contains, held]
  · rw [if_neg here]
    split
    · rfl
    · simp [here]

end Store
end IdService
