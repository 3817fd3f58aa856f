import IdService.Counter.Fault
import IdService.Counter.Value
import IdService.Table

/-!
# The durable engine

A store of byte strings. Counters are kept in their durable form; keys and settings are read as
text, with U+FFFD for what is not UTF-8. Creating and setting a counter ask only whether its entry
is there, so a corrupt one can be overwritten.
-/

namespace IdService

structure PersistentStore where
  counters : Table Bytes Bytes := {}
  known : Table Bytes Unit := {}
  settings : Table Bytes Bytes := {}
deriving Repr, DecidableEq

namespace PersistentStore

/-- Makes a counter of value 0 unless there is an entry. -/
def ensureCounter (st : PersistentStore) (key : String) : PersistentStore :=
  if st.counters.contains (Text.utf8 key) then st
  else { st with counters := st.counters.insert (Text.utf8 key) (Counter.encode 0) }

def readCounter (st : PersistentStore) (key : String) : Except Halt Int64 :=
  match st.counters.get? (Text.utf8 key) with
  | none => .error (.fault (.missing key))
  | some raw =>
    match Counter.decode? raw with
    | none => .error (.fault (.corrupt key))
    | some n => .ok n

def writeCounter (st : PersistentStore) (key : String) (value : Int64) : PersistentStore :=
  { st with counters := st.counters.insert (Text.utf8 key) (Counter.encode value) }

def advance (st : PersistentStore) (key : String) (delta : Int64) :
    Except Halt Unit × PersistentStore :=
  match st.readCounter key with
  | .error halt => (.error halt, st)
  | .ok n =>
    match Counter.add? n delta with
    | none => (.error (.fault (.overflow key)), st)
    | some sum => (.ok (), st.writeCounter key sum)

def overwriteCounter (st : PersistentStore) (key : String) (value : Int64) :
    Except Halt Unit × PersistentStore :=
  if st.counters.contains (Text.utf8 key) then (.ok (), st.writeCounter key value)
  else (.error (.fault (.missing key)), st)

def removeCounter (st : PersistentStore) (key : String) : PersistentStore :=
  { st with counters := st.counters.erase (Text.utf8 key) }

/-- The known keys as texts, in the order of their bytes; an empty one is left out. -/
def knownKeys (st : PersistentStore) : List String :=
  (st.known.keys.filter (!·.isEmpty)).map Text.ofUtf8Lossy

/-- The settings as texts, in the order of the bytes of their names. -/
def settingTexts (st : PersistentStore) : List (String × String) :=
  st.settings.entries.map fun e => (Text.ofUtf8Lossy e.1, Text.ofUtf8Lossy e.2)

end PersistentStore
end IdService
