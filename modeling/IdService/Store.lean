import IdService.Store.Persistent
import IdService.Store.Volatile

/-!
# Stores

Where counters, known keys and settings are kept. A counter belongs to one key; the known keys are
those that are taken up again after a restart; settings are named texts.
-/

namespace IdService

inductive Store where
  | volatile (st : VolatileStore)
  | persistent (st : PersistentStore)
deriving Repr, DecidableEq

namespace Store

def ensureCounter (st : Store) (key : String) : Store :=
  match st with
  | volatile st => volatile (st.ensureCounter key)
  | persistent st => persistent (st.ensureCounter key)

def readCounter (st : Store) (key : String) : Except Halt Int64 × Store :=
  match st with
  | volatile st =>
    let (result, st) := st.readCounter key
    (result, volatile st)
  | persistent st => (st.readCounter key, persistent st)

/-- Adds to a counter: all of `delta`, or nothing. -/
def advance (st : Store) (key : String) (delta : Int64) : Except Halt Unit × Store :=
  match st with
  | volatile st =>
    let (result, st) := st.advance key delta
    (result, volatile st)
  | persistent st =>
    let (result, st) := st.advance key delta
    (result, persistent st)

def overwriteCounter (st : Store) (key : String) (value : Int64) : Except Halt Unit × Store :=
  match st with
  | volatile st =>
    let (result, st) := st.overwriteCounter key value
    (result, volatile st)
  | persistent st =>
    let (result, st) := st.overwriteCounter key value
    (result, persistent st)

def removeCounter (st : Store) (key : String) : Except Halt Unit × Store :=
  match st with
  | volatile st =>
    let (result, st) := st.removeCounter key
    (result, volatile st)
  | persistent st => (.ok (), persistent (st.removeCounter key))

def addKnown (st : Store) (key : String) : Store :=
  match st with
  | volatile st => volatile { st with known := st.known.insert key () }
  | persistent st => persistent { st with known := st.known.insert (Text.utf8 key) () }

def removeKnown (st : Store) (key : String) : Store :=
  match st with
  | volatile st => volatile { st with known := st.known.erase key }
  | persistent st => persistent { st with known := st.known.erase (Text.utf8 key) }

/-- The known keys, in the order of their bytes. -/
def knownKeys : Store → List String
  | volatile st => st.known.keys
  | persistent st => st.knownKeys

/-- Keeps a text for a setting. -/
def keepSetting (st : Store) (name value : String) : Store :=
  match st with
  | volatile st => volatile { st with settings := st.settings.insert name value }
  | persistent st =>
    persistent { st with settings := st.settings.insert (Text.utf8 name) (Text.utf8 value) }

/-- The settings, in the order of the bytes of their names. -/
def savedSettings : Store → List (String × String)
  | volatile st => st.settings.entries
  | persistent st => st.settingTexts

end Store
end IdService
