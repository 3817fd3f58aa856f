import IdService.Proofs.Counter
import IdService.Proofs.Table
import IdService.Proofs.Text.Utf8
import IdService.Store

/-! # What a store holds

The two engines lay out the same things differently. `Contents` is what both hold: counters, known
keys and settings by the bytes of their names, and the failures that were asked for, of which the
durable engine has none. Each operation of a store is one on its contents; nothing beyond this
module looks at an engine's layout.
-/

namespace IdService

open Text

/-- What is kept for a counter. -/
inductive Entry where
  | value (n : Int64)
  /-- Bytes that are no value. -/
  | corrupt
deriving Repr, DecidableEq

def Entry.ofRaw (raw : Bytes) : Entry :=
  match Counter.decode? raw with
  | some n => .value n
  | none => .corrupt

@[simp] theorem Entry.ofRaw_encode (n : Int64) : Entry.ofRaw (Counter.encode n) = .value n := by
  simp [ofRaw]

/-- What a store of either engine holds. -/
structure Contents where
  counters : Table Bytes Entry := {}
  known : Table Bytes Unit := {}
  settings : Table Bytes Bytes := {}
  failingIncrements : Nat := 0
  failingDrops : Nat := 0
  crashing : List String := []
deriving Repr, DecidableEq

namespace Contents

/-- No failure is to come. -/
structure Faultless (c : Contents) : Prop where
  increments : c.failingIncrements = 0
  drops : c.failingDrops = 0
  reads : c.crashing = []

/-- What is kept for the counter of a key, if there is one. -/
def counter? (c : Contents) (key : String) : Option Entry := c.counters.get? (utf8 key)

def isKnown (c : Contents) (key : String) : Bool := c.known.contains (utf8 key)

def read (c : Contents) (key : String) : Except Halt Int64 :=
  if key ∈ c.crashing then .error .crash
  else match c.counter? key with
    | none => .error (.fault (.missing key))
    | some .corrupt => .error (.fault (.corrupt key))
    | some (.value n) => .ok n

def write (c : Contents) (key : String) (value : Int64) : Contents :=
  { c with counters := c.counters.insert (utf8 key) (.value value) }

def ensure (c : Contents) (key : String) : Contents :=
  if c.counters.contains (utf8 key) then c else c.write key 0

def advance (c : Contents) (key : String) (delta : Int64) : Except Halt Unit × Contents :=
  match c.failingIncrements with
  | failing + 1 =>
    (.error (.fault (.unavailable (.increment key))), { c with failingIncrements := failing })
  | 0 =>
    match c.counter? key with
    | none => (.error (.fault (.missing key)), c)
    | some .corrupt => (.error (.fault (.corrupt key)), c)
    | some (.value n) =>
      match Counter.add? n delta with
      | none => (.error (.fault (.overflow key)), c)
      | some sum => (.ok (), c.write key sum)

def overwrite (c : Contents) (key : String) (value : Int64) : Except Halt Unit × Contents :=
  if c.counters.contains (utf8 key) then (.ok (), c.write key value)
  else (.error (.fault (.missing key)), c)

def remove (c : Contents) (key : String) : Except Halt Unit × Contents :=
  match c.failingDrops with
  | failing + 1 => (.error (.fault (.unavailable (.drop key))), { c with failingDrops := failing })
  | 0 => (.ok (), { c with counters := c.counters.erase (utf8 key) })

theorem remove_eq {c : Contents} (pending : c.failingDrops = 0) (key : String) :
    c.remove key = (.ok (), { c with counters := c.counters.erase (utf8 key) }) := by
  unfold remove
  split
  · rename_i fails
    rw [pending] at fails
    cases fails
  · rfl

theorem isKnown_insert (c : Contents) (key key' : String) :
    Table.contains (c.known.insert (utf8 key) ()) (utf8 key') =
      (decide (key' = key) || c.isKnown key') := by
  rw [Table.contains_insert, isKnown, decide_eq_decide.mpr
    ⟨fun same => utf8_injective same, fun same => congrArg utf8 same⟩]

theorem isKnown_erase (c : Contents) (key key' : String) :
    Table.contains (c.known.erase (utf8 key)) (utf8 key') =
      (!decide (key' = key) && c.isKnown key') := by
  rw [Table.contains_erase, isKnown, decide_eq_decide.mpr
    ⟨fun same => utf8_injective same, fun same => congrArg utf8 same⟩]

theorem get?_insert_utf8 (t : Table Bytes Entry) (key key' : String) (e : Entry) :
    (t.insert (utf8 key) e).get? (utf8 key') = if key' = key then some e else t.get? (utf8 key') := by
  by_cases here : key' = key
  · simp [here]
  · have apart : utf8 key' ≠ utf8 key := fun same => here (utf8_injective same)
    simp [here, apart]

@[simp] theorem counter?_write (c : Contents) (key key' : String) (value : Int64) :
    (c.write key value).counter? key' = if key' = key then some (.value value) else c.counter? key' :=
  get?_insert_utf8 ..

theorem contains_eq (c : Contents) (key : String) :
    c.counters.contains (utf8 key) = (c.counter? key).isSome := rfl

@[simp] theorem counter?_erase (c : Contents) (key key' : String) :
    (c.counters.erase (utf8 key)).get? (utf8 key') = if key' = key then none else c.counter? key' := by
  by_cases here : key' = key
  · simp [here]
  · have apart : utf8 key' ≠ utf8 key := fun same => here (utf8_injective same)
    simp [here, apart, counter?]

end Contents

namespace Store

def contents : Store → Contents
  | volatile st => {
      counters := st.counters.raw .value
      known := st.known.raw id
      settings := st.settings.raw utf8
      failingIncrements := st.failingIncrements
      failingDrops := st.failingDrops
      crashing := st.crashing }
  | persistent st => {
      counters := st.counters.raw .ofRaw
      known := st.known.raw id
      settings := st.settings.raw id }

private theorem volatile_get? (st : VolatileStore) (key : String) :
    (Store.volatile st).contents.counter? key = (st.counters.get? key).map .value :=
  Table.get?_raw Entry.value st.counters key

private theorem persistent_get? (st : PersistentStore) (key : String) :
    (Store.persistent st).contents.counter? key = (st.counters.get? (utf8 key)).map .ofRaw :=
  Table.get?_raw Entry.ofRaw st.counters (utf8 key)

private theorem volatile_contains (st : VolatileStore) (key : String) :
    (Store.volatile st).contents.counters.contains (utf8 key) = st.counters.contains key :=
  Table.contains_raw Entry.value st.counters key

private theorem persistent_contains (st : PersistentStore) (key : String) :
    (Store.persistent st).contents.counters.contains (utf8 key) =
      st.counters.contains (utf8 key) :=
  Table.contains_raw Entry.ofRaw st.counters (utf8 key)

private theorem volatile_write (st : VolatileStore) (calls : CallCounts) (key : String)
    (value : Int64) :
    (Store.volatile { st with counters := st.counters.insert key value, calls }).contents =
      (Store.volatile st).contents.write key value := by
  simp only [contents, Contents.write, Table.raw_insert]
  rfl

private theorem persistent_write (st : PersistentStore) (key : String) (value : Int64) :
    (Store.persistent (st.writeCounter key value)).contents =
      (Store.persistent st).contents.write key value := by
  simp only [contents, PersistentStore.writeCounter, Contents.write, Table.raw_insert,
    Entry.ofRaw_encode]
  rfl

/-! ## Operations -/

theorem contents_ensureCounter (st : Store) (key : String) :
    (st.ensureCounter key).contents = st.contents.ensure key := by
  cases st with
  | volatile st =>
      rw [Contents.ensure, volatile_contains]
      by_cases there : st.counters.contains key
      · rw [if_pos there]
        simp only [ensureCounter, VolatileStore.ensureCounter, if_pos there]
        rfl
      · rw [if_neg there]
        simp only [ensureCounter, VolatileStore.ensureCounter, if_neg there]
        exact volatile_write ..
  | persistent st =>
      rw [Contents.ensure, persistent_contains]
      by_cases there : st.counters.contains (utf8 key)
      · simp only [ensureCounter, PersistentStore.ensureCounter, if_pos there]
      · simp only [ensureCounter, PersistentStore.ensureCounter, if_neg there]
        exact persistent_write st key 0

theorem contents_readCounter (st : Store) (key : String) :
    (st.readCounter key).2.contents = st.contents := by
  cases st with
  | volatile st =>
      simp only [readCounter, VolatileStore.readCounter]
      split
      · rfl
      · cases st.counters.get? key <;> rfl
  | persistent st => rfl

theorem readCounter_fst (st : Store) (key : String) :
    (st.readCounter key).1 = st.contents.read key := by
  cases st with
  | volatile st =>
      have crashing : (volatile st).contents.crashing = st.crashing := rfl
      simp only [readCounter, VolatileStore.readCounter, Contents.read, volatile_get?, crashing]
      by_cases crashes : key ∈ st.crashing
      · simp only [if_pos crashes]
      · simp only [if_neg crashes]
        cases st.counters.get? key <;> rfl
  | persistent st =>
      have crashing : (persistent st).contents.crashing = [] := rfl
      simp only [readCounter, PersistentStore.readCounter, Contents.read, persistent_get?, crashing,
        List.not_mem_nil, if_false]
      cases st.counters.get? (utf8 key) with
      | none => rfl
      | some raw =>
          simp only [Option.map_some, Entry.ofRaw]
          cases Counter.decode? raw <;> rfl

theorem advance_contents (st : Store) (key : String) (delta : Int64) :
    ((st.advance key delta).1, (st.advance key delta).2.contents) =
      st.contents.advance key delta := by
  cases st with
  | volatile st =>
      simp only [advance, VolatileStore.advance, Contents.advance, volatile_get?]
      obtain ⟨counters, known, settings, calls, failingIncrements, failingDrops, crashing⟩ := st
      cases failingIncrements with
      | succ failing => rfl
      | zero =>
          dsimp only
          cases counters.get? key with
          | none => rfl
          | some n =>
              dsimp only [Option.map_some]
              cases Counter.add? n delta with
              | none => rfl
              | some sum =>
                  let st : VolatileStore :=
                    { counters, known, settings, calls, failingDrops, crashing }
                  exact congrArg (Prod.mk _) (volatile_write st _ key sum)
  | persistent st =>
      have pending : (persistent st).contents.failingIncrements = 0 := rfl
      simp only [advance, PersistentStore.advance, PersistentStore.readCounter, Contents.advance,
        persistent_get?, pending]
      cases st.counters.get? (utf8 key) with
      | none => rfl
      | some raw =>
          simp only [Option.map_some, Entry.ofRaw]
          cases Counter.decode? raw with
          | none => rfl
          | some n =>
              dsimp only
              cases Counter.add? n delta with
              | none => rfl
              | some sum => exact congrArg (Prod.mk _) (persistent_write st key sum)

theorem overwriteCounter_contents (st : Store) (key : String) (value : Int64) :
    ((st.overwriteCounter key value).1, (st.overwriteCounter key value).2.contents) =
      st.contents.overwrite key value := by
  cases st with
  | volatile st =>
      rw [Contents.overwrite, volatile_contains]
      by_cases there : st.counters.contains key
      · simp only [overwriteCounter, VolatileStore.overwriteCounter, if_pos there]
        exact congrArg (Prod.mk _) (volatile_write ..)
      · simp only [overwriteCounter, VolatileStore.overwriteCounter, if_neg there]
  | persistent st =>
      rw [Contents.overwrite, persistent_contains]
      by_cases there : st.counters.contains (utf8 key)
      · simp only [overwriteCounter, PersistentStore.overwriteCounter, if_pos there]
        exact congrArg (Prod.mk _) (persistent_write st key value)
      · simp only [overwriteCounter, PersistentStore.overwriteCounter, if_neg there]

theorem removeCounter_contents (st : Store) (key : String) :
    ((st.removeCounter key).1, (st.removeCounter key).2.contents) = st.contents.remove key := by
  cases st with
  | volatile st =>
      obtain ⟨counters, known, settings, calls, failingIncrements, failingDrops, crashing⟩ := st
      cases failingDrops with
      | succ failing => rfl
      | zero =>
          simp only [removeCounter, VolatileStore.removeCounter, Contents.remove, contents,
            Table.raw_erase]
          rfl
  | persistent st =>
      simp only [removeCounter, PersistentStore.removeCounter, Contents.remove, contents,
        Table.raw_erase]
      rfl

@[simp] theorem contents_addKnown (st : Store) (key : String) :
    (st.addKnown key).contents =
      { st.contents with known := st.contents.known.insert (utf8 key) () } := by
  cases st <;> simp only [addKnown, contents, Table.raw_insert] <;> rfl

@[simp] theorem contents_removeKnown (st : Store) (key : String) :
    (st.removeKnown key).contents =
      { st.contents with known := st.contents.known.erase (utf8 key) } := by
  cases st <;> simp only [removeKnown, contents, Table.raw_erase] <;> rfl

@[simp] theorem contents_keepSetting (st : Store) (name value : String) :
    (st.keepSetting name value).contents =
      { st.contents with settings := st.contents.settings.insert (utf8 name) (utf8 value) } := by
  cases st <;> simp only [keepSetting, contents, Table.raw_insert] <;> rfl

end Store

/-! ## Names -/

/-- Every counter and every known key goes by the bytes of a text. Raw entries of the durable
engine need not. -/
structure Contents.Named (c : Contents) : Prop where
  counters : ∀ raw ∈ c.counters.keys, ∃ key, utf8 key = raw
  known : ∀ raw ∈ c.known.keys, ∃ key, utf8 key = raw

namespace Contents.Named

theorem empty : Contents.Named {} where
  counters := by intro raw member; cases member
  known := by intro raw member; cases member

private theorem insert {α : Type} {t : Table Bytes α} (named : ∀ raw ∈ t.keys, ∃ key, utf8 key = raw)
    (key : String) (v : α) : ∀ raw ∈ (t.insert (utf8 key) v).keys, ∃ key, utf8 key = raw := by
  intro raw member
  rw [Table.mem_keys, Table.contains_insert, Bool.or_eq_true, decide_eq_true_eq] at member
  rcases member with rfl | old
  · exact ⟨key, rfl⟩
  · exact named raw (Table.mem_keys.mpr old)

private theorem erase {α : Type} {t : Table Bytes α} (named : ∀ raw ∈ t.keys, ∃ key, utf8 key = raw)
    (name : Bytes) : ∀ raw ∈ (t.erase name).keys, ∃ key, utf8 key = raw := by
  intro raw member
  rw [Table.mem_keys, Table.contains_erase, Bool.and_eq_true] at member
  exact named raw (Table.mem_keys.mpr member.2)

theorem write {c : Contents} (named : c.Named) (key : String) (value : Int64) :
    (c.write key value).Named :=
  ⟨insert named.counters key _, named.known⟩

theorem ensure {c : Contents} (named : c.Named) (key : String) : (c.ensure key).Named := by
  unfold Contents.ensure
  split
  · exact named
  · exact named.write key 0

theorem addKnown {c : Contents} (named : c.Named) (key : String) :
    Contents.Named { c with known := c.known.insert (utf8 key) () } :=
  ⟨named.counters, insert named.known key ()⟩

theorem removeKnown {c : Contents} (named : c.Named) (key : String) :
    Contents.Named { c with known := c.known.erase (utf8 key) } :=
  ⟨named.counters, erase named.known _⟩

theorem removeCounter {c : Contents} (named : c.Named) (key : String) :
    Contents.Named { c with counters := c.counters.erase (utf8 key) } :=
  ⟨erase named.counters _, named.known⟩

end Contents.Named

/-! ## Known keys -/

namespace Store

private theorem volatile_known_keys (st : VolatileStore) :
    (volatile st).contents.known.keys = st.known.keys.map utf8 :=
  Table.keys_raw id st.known

private theorem persistent_known_keys (st : PersistentStore) :
    (persistent st).contents.known.keys = st.known.keys :=
  (Table.keys_raw id st.known).trans (List.map_id st.known.keys)

/-- A key is known that is what an entry reads as. -/
theorem mem_knownKeys_iff (st : Store) {key : String} (notEmpty : key ≠ "") :
    key ∈ st.knownKeys ↔ key ∈ st.contents.known.keys.map ofUtf8Lossy := by
  cases st with
  | volatile st =>
      rw [volatile_known_keys, List.map_map, knownKeys]
      simp [Function.comp_def]
  | persistent st =>
      rw [persistent_known_keys, knownKeys, PersistentStore.knownKeys]
      simp only [List.mem_map, List.mem_filter]
      constructor
      · rintro ⟨raw, ⟨member, -⟩, reads⟩
        exact ⟨raw, member, reads⟩
      · rintro ⟨raw, member, reads⟩
        have filled : raw ≠ [] := by
          rintro rfl
          exact notEmpty reads.symm
        exact ⟨raw, ⟨member, by simpa using filled⟩, reads⟩

theorem mem_knownKeys {st : Store} (named : st.contents.Named) {key : String}
    (notEmpty : key ≠ "") : key ∈ st.knownKeys ↔ st.contents.isKnown key := by
  rw [mem_knownKeys_iff st notEmpty, List.mem_map, Contents.isKnown, ← Table.mem_keys]
  constructor
  · rintro ⟨raw, member, rfl⟩
    obtain ⟨key, rfl⟩ := named.known raw member
    rwa [ofUtf8Lossy_utf8]
  · intro known
    exact ⟨utf8 key, known, ofUtf8Lossy_utf8 key⟩

end Store

/-- No known key is empty. The durable engine would not list it. -/
def Contents.Filled (c : Contents) : Prop := [] ∉ c.known.keys

theorem Store.knownKeys_eq {st : Store} (filled : st.contents.Filled) :
    st.knownKeys = st.contents.known.keys.map ofUtf8Lossy := by
  cases st with
  | volatile st =>
      rw [volatile_known_keys, List.map_map]
      conv => lhs; rw [knownKeys, ← List.map_id st.known.keys]
      exact List.map_congr_left fun key _ => (ofUtf8Lossy_utf8 key).symm
  | persistent st =>
      have listed := persistent_known_keys st
      have all : st.known.keys.filter (!·.isEmpty) = st.known.keys := by
        rw [List.filter_eq_self]
        intro raw member
        have notEmpty : raw ≠ [] := by
          rintro rfl
          exact filled (listed ▸ member)
        simpa using notEmpty
      rw [listed, knownKeys, PersistentStore.knownKeys, all]

end IdService
