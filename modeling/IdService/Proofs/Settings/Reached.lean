import IdService.Proofs.Config.Node
import IdService.Proofs.Log.Filter
import IdService.Proofs.Service.Settings
import IdService.Proofs.Settings.Resolving

/-! # What is shown is in force

A setting has a value and, once it has been written, the text it was written as. The two are changed
together, to a text and the value that it stands for, by every change of a configuration that is not
refused; a setting that has not been written has a value that the start has checked, and is shown as
the text that is made of it. The former is what the induction over the changes of a configuration
carries; that the latter text stands for the value it is made of is a fact of each kind. There it has
exceptions: the start takes blank texts, paths that are not UTF-8, and log filters whose fields are
cut out elsewhere behind white space.
-/

namespace IdService

/-! ## Values and the texts made of them -/

namespace Numeral

theorem write_unblank {n : Int} {c : Char} (member : c ∈ write n) : Text.isBlank c = false := by
  have digit : ∀ {m : Nat}, c ∈ digits m → Text.isBlank c = false := fun inside => by
    obtain ⟨low, high⟩ := digits_ascii inside
    exact Text.isBlank_visible (by omega) (by omega)
  unfold write at member
  split at member
  · rcases List.mem_cons.mp member with rfl | inside
    · rfl
    · exact digit inside
  · exact digit member

end Numeral

namespace Kind

theorem numbers_text {r : Numeral.Range} {n : Int} (within : r.Contains n) :
    Numbers r (Numeral.text n) n := by
  rw [Numbers, Numeral.text, String.toList_ofList,
    Text.trimChars_of_unblank fun c => Numeral.write_unblank]
  exact Numeral.read_write within

section

variable [Patterns]

/-- What the start has checked of a value. -/
def Starts : (k : Kind) → k.Value → Prop
  | filter, v => ∃ f, LogFilter.parse v = .ok f
  | positive, v => 0 < v.toNat
  | batch, v => 0 < v.toInt
  | text, _ | path, _ | port, _ | number, _ | nodes, _ => True

/-- A value that a start can have, but that the text made of it does not stand for. That text is
blank, or it is a log filter with white space in front, without which a field has a value that is
refused, or it lacks the bytes of a path that are not UTF-8. -/
def Strays : (k : Kind) → k.Value → Prop
  | filter, v =>
    LogFilter.Led v ∧ ∃ reason, LogFilter.parse (Text.trim v) = .error (.field reason)
  | text, v => Text.trim v = ""
  | path, v => Text.trim (Text.ofUtf8Lossy v) = "" ∨ Text.ofUtf8? v = none
  | port, _ | number, _ | positive, _ | batch, _ | nodes, _ => False

/-- The text that is made of any other value stands for it. -/
theorem reads_render : {k : Kind} → {v : k.Value} → k.Starts v → ¬ k.Strays v →
    k.Reads (k.render v) v
  | filter, v, starts, regular => by
      obtain ⟨f, accepted⟩ := starts
      have rereads := LogFilter.parse_trim accepted
      refine ⟨rfl, ?_⟩
      generalize again : LogFilter.parse (Text.trim v) = result at rereads
      cases rereads with
      | read f' => exact ⟨f', again⟩
      | refused reason led => exact absurd ⟨led, reason, again⟩ regular
  | text, v, _, regular => ⟨rfl, regular⟩
  | path, v, _, regular => by
      obtain ⟨unblank, some⟩ := not_or.mp regular
      obtain ⟨s, decoded⟩ := Option.ne_none_iff_exists'.mp some
      obtain rfl := Text.ofUtf8?_eq_some.mp decoded
      exact ⟨congrArg Text.utf8 (Text.ofUtf8Lossy_utf8 s).symm, unblank⟩
  | port, v, _, _ => numbers_text (Numeral.Range.contains_uint16 v)
  | number, v, _, _ => numbers_text (Numeral.Range.contains_uint64 v)
  | positive, v, starts, _ => ⟨numbers_text (Numeral.Range.contains_uint64 v), starts⟩
  | batch, v, starts, _ => ⟨numbers_text (Counter.contains_toInt v), starts⟩
  | nodes, v, _, _ => Node.parseList_listText v

end

/-- A text that is kept is kept as it is, and a path as it is shown. -/
def Verbatim : (k : Kind) → String → k.Value → Prop
  | filter, raw, v => raw = v
  | text, raw, v => raw = v
  | path, raw, v => raw = Text.ofUtf8Lossy v
  | port, _, _ | number, _, _ | positive, _, _ | batch, _, _ | nodes, _, _ => True

theorem verbatim_of_reads [Patterns] {k : Kind} {raw : String} {v : k.Value}
    (reads : k.Reads raw v) : k.Verbatim raw v := by
  cases k with
  | filter | text => exact reads.1.symm
  | path => exact reads.1 ▸ (Text.ofUtf8Lossy_utf8 raw).symm
  | _ => trivial

theorem verbatim_render {k : Kind} (v : k.Value) : k.Verbatim (k.render v) v := by
  cases k with
  | filter | text | path => rfl
  | _ => trivial

/-- The number that a value is, and the range of numbers of its kind. -/
def number? : (k : Kind) → k.Value → Option (Numeral.Range × Int)
  | port, v => some (.uint16, v.toNat)
  | number, v => some (.uint64, v.toNat)
  | positive, v => some (.uint64, v.toNat)
  | batch, v => some (.int64, v.toInt)
  | filter, _ | text, _ | path, _ | nodes, _ => none

theorem not_strays_of_number [Patterns] {k : Kind} {v : k.Value} {number : Numeral.Range × Int}
    (found : k.number? v = some number) : ¬ k.Strays v := by
  cases k with
  | filter | text | path => cases found
  | _ => exact id

theorem numbers_of_reads [Patterns] {k : Kind} {raw : String} {v : k.Value}
    (reads : k.Reads raw v) {r : Numeral.Range} {n : Int} (number : k.number? v = some (r, n)) :
    Numbers r raw n := by
  cases k with
  | filter | text | path | nodes => cases number
  | port | number =>
      cases number
      exact reads
  | positive | batch =>
      cases number
      exact reads.1

end Kind

/-- An environment with one variable. -/
def variableOnly (name : String) (raw : Bytes) : String → Option Bytes :=
  fun other => if other = name then some raw else none

namespace Configuration

section

variable [Patterns] {c : Configuration} {p : Setting}

/-! ## Changes -/

/-- The configurations of a server: the one it is started with, and what is made of one by writing a
setting in place, by laying saved texts over it, or by writing a setting while the server runs,
whatever comes of that. -/
inductive Reached : Configuration → Prop where
  | started {processors : UInt64} {words : List Bytes} {environment : String → Option Bytes}
      {c : Configuration} : start processors words environment = .ok c → Reached c
  | applied {c : Configuration} (p : Setting) (raw : String) : Reached c →
      Reached ((Edit.apply p raw).on c).2
  | overlaid {c : Configuration} (entries : List (String × String)) : Reached c →
      Reached ((Edit.overlay entries).run c).2
  | set {s : Settings} (effect : LiveEffect) (st : Store) (r : Registry) (name raw : String) :
      Reached s.config → Reached (s.write effect st r name raw).2.1.config

/-- The text that has been written of each setting stands for its value, and a value without such a
text has been checked at the start. -/
structure Sound (c : Configuration) : Prop where
  written : ∀ {p : Setting} {raw : String}, c.written p = some raw → p.kind.Reads raw (c.value p)
  unwritten : ∀ {p : Setting}, c.written p = none → p.kind.Starts (c.value p)

namespace Sound

theorem of_cells (sound : c.Sound) {c' : Configuration}
    (cells : ∀ p, c'.cell p = c.cell p ∨
      ∃ v raw, p.kind.Reads raw v ∧ c'.cell p = (v, some raw)) : c'.Sound where
  written := by
    intro p raw written
    rcases cells p with kept | ⟨v, raw', reads, cell⟩
    · rw [written_of_cell kept] at written
      rw [value_of_cell kept]
      exact sound.written written
    · rw [written_of_cell cell] at written
      rw [value_of_cell cell, ← Option.some.inj written]
      exact reads
  unwritten := by
    intro p unwritten
    rcases cells p with kept | ⟨v, raw', -, cell⟩
    · rw [written_of_cell kept] at unwritten
      rw [value_of_cell kept]
      exact sound.unwritten unwritten
    · rw [written_of_cell cell] at unwritten
      cases unwritten

theorem set (sound : c.Sound) {v : p.Value} {raw : String} (reads : p.kind.Reads raw v) :
    (c.set p v raw).Sound := by
  apply sound.of_cells
  intro q
  by_cases here : q = p
  · subst here
    exact .inr ⟨v, raw, reads, cell_set_same c q v raw⟩
  · exact .inl (cell_set_other c here v raw)

theorem start {processors : UInt64} {words : List Bytes} {environment : String → Option Bytes}
    (accepted : start processors words environment = .ok c) : c.Sound := by
  unfold Configuration.start at accepted
  split at accepted
  · cases accepted
  split at accepted
  · cases accepted
  rename_i made
  cases accepted
  obtain ⟨batchSize, threads, filter, nodes, -, rfl⟩ := ofLaunch_eq_ok made
  refine ⟨fun written => (nomatch written), fun {p} _ => ?_⟩
  cases p with
  | logLevel => exact filter
  | batchSize => exact batchSize
  | threads =>
      apply Nat.pos_of_ne_zero
      intro zero
      exact threads (UInt64.toNat_inj.mp zero)
  | _ => trivial

theorem apply (sound : c.Sound) (p : Setting) (raw : String) :
    ((Edit.apply p raw).on c).2.Sound := by
  rw [Edit.on_apply]
  cases parsed : p.kind.parse raw with
  | error reason => exact sound
  | ok v => exact sound.set (Kind.parse_eq_ok.mp parsed)

theorem overlay (sound : c.Sound) (entries : List (String × String)) :
    ((Edit.overlay entries).run c).2.Sound := by
  rw [Edit.run_overlay]
  exact sound.of_cells (c.cell_overrideAll_cases entries)

theorem write {s : Settings} (sound : s.config.Sound) (effect : LiveEffect) (st : Store)
    (r : Registry) (name raw : String) : (s.write effect st r name raw).2.1.config.Sound := by
  have tries := s.config.override_tries name raw
  unfold Settings.write
  generalize s.config.override name raw = result at tries
  cases tries with
  | unknown | invalid => exact sound
  | applied p v _ parsed =>
      dsimp only
      cases effect p (s.config.set p v raw) r with
      | error fault => exact sound
      | ok registry => exact sound.set (Kind.parse_eq_ok.mp parsed)

end Sound

theorem Reached.sound (reached : Reached c) : c.Sound := by
  induction reached with
  | started accepted => exact .start accepted
  | applied p raw _ ih => exact ih.apply p raw
  | overlaid entries _ ih => exact ih.overlay entries
  | set effect st r name raw _ ih => exact ih.write effect st r name raw

theorem Reached.launch (reached : Reached c) (runnable : 0 < c.batchSize.toInt) (st : Store) :
    Reached (Service.launch c runnable st).settings.config := by
  rw [(Service.launch_settings runnable st).1, ← Edit.run_overlay]
  exact reached.overlaid st.savedSettings

theorem Reached.perform {s : Service} (reached : Reached s.settings.config) (r : Wire.Request) :
    Reached (s.perform r).2.settings.config := by
  have configures := s.perform_configures r
  generalize (s.perform r).1 = result, (s.perform r).2 = s' at configures
  cases configures with
  | refused fault => exact reached
  | aside _ _ _ same _ =>
      rw [same]
      exact reached
  | written p v raw _ _ _ _ written =>
      have applied := reached.applied p raw
      rw [Edit.on_apply, written.parsed] at applied
      rw [written.config]
      exact applied

/-! ## What is shown -/

/-- What a setting is shown as stands for its value, but for some values of a start. -/
theorem Sound.reads (sound : c.Sound) (regular : c.written p = none → ¬ p.kind.Strays (c.value p)) :
    p.kind.Reads (c.text p) (c.value p) := by
  unfold text
  cases written : c.written p with
  | some raw => exact sound.written written
  | none => exact Kind.reads_render (sound.unwritten written) (regular written)

theorem Sound.verbatim (sound : c.Sound) (p : Setting) :
    p.kind.Verbatim (c.text p) (c.value p) := by
  unfold text
  cases written : c.written p with
  | some raw => exact Kind.verbatim_of_reads (sound.written written)
  | none => exact Kind.verbatim_render (c.value p)

/-- How a path is shown: as its text where it is UTF-8 and has one, as it is where it has been
written, and else with what is not UTF-8 in it replaced. -/
structure ShowsPath (v : Bytes) (written : Option String) (shown : String) : Prop where
  lossy : shown = Text.ofUtf8Lossy v
  itself_iff : Text.utf8 shown = v ↔ (Text.ofUtf8? v).isSome
  written : written.isSome → Text.utf8 shown = v

theorem ShowsPath.of_reads {v : Bytes} {written : Option String} {shown : String}
    (lossy : shown = Text.ofUtf8Lossy v) (reads : ∀ raw, written = some raw → Kind.path.Reads raw v) :
    ShowsPath v written shown := by
  have iff : Text.utf8 shown = v ↔ (Text.ofUtf8? v).isSome := by
    constructor
    · intro same
      rw [Text.ofUtf8?_eq_some.mpr same]
      rfl
    · intro some
      obtain ⟨s, decoded⟩ := Option.isSome_iff_exists.mp some
      obtain rfl := Text.ofUtf8?_eq_some.mp decoded
      rw [lossy, Text.ofUtf8Lossy_utf8]
  refine ⟨lossy, iff, fun some => iff.mpr ?_⟩
  obtain ⟨raw, wrote⟩ := Option.isSome_iff_exists.mp some
  rw [(reads raw wrote).1, Text.ofUtf8?_utf8]
  rfl

/-- What a configuration shows is what is in force, and it can be worked with. -/
structure Shows (c : Configuration) : Prop where
  batchSize : 0 < c.batchSize.toInt
  threads : 0 < (c.value .threads).toNat
  /-- A number is what its text between white space is read as. -/
  numbers : ∀ {p : Setting} {r : Numeral.Range} {n : Int},
    p.kind.number? (c.value p) = some (r, n) → Kind.Numbers r (c.text p) n
  logLevel : c.text .logLevel = c.value .logLevel
  serverHost : c.text .serverHost = c.value .serverHost
  logPath : ShowsPath (c.value .logPath) (c.written .logPath) (c.text .logPath)
  dataPath : ShowsPath (c.value .dataPath) (c.written .dataPath) (c.text .dataPath)
  /-- So it is for the nodes, written or not. -/
  nodes : Node.parseList (c.text .nodes) = .ok (c.value .nodes)

/-- Whatever has been done to the configuration of a server, successfully or not, what it shows is
what is in force. -/
theorem shown_is_in_force (reached : Reached c) : c.Shows where
  batchSize := (reached.sound.reads (p := .batchSize) fun _ => id).2
  threads := (reached.sound.reads (p := .threads) fun _ => id).2
  numbers := by
    intro p r n number
    exact Kind.numbers_of_reads
      (reached.sound.reads fun _ => Kind.not_strays_of_number number) number
  logLevel := reached.sound.verbatim .logLevel
  serverHost := reached.sound.verbatim .serverHost
  logPath := .of_reads (reached.sound.verbatim .logPath) fun _ => reached.sound.written
  dataPath := .of_reads (reached.sound.verbatim .dataPath) fun _ => reached.sound.written
  nodes := reached.sound.reads (p := .nodes) fun _ => id

end

/-! ## Changes to look at -/

/-- A path need not be UTF-8, and then what is shown is not the path. -/
theorem rawPath_not_itself :
    ∃ c, start 4 [] (variableOnly "LOG_PATH" [0xFF]) = .ok c ∧ Reached c ∧
      c.value .logPath = ([0xFF] : Bytes) ∧ c.text .logPath = "\uFFFD" ∧
      Text.utf8 (c.text .logPath) ≠ c.value .logPath := by
  have shown : (start 4 [] (variableOnly "LOG_PATH" [0xFF])).toOption.map
      (fun c => ((c.value .logPath : Bytes), c.text .logPath)) = some ([0xFF], "\uFFFD") := by
    decide +kernel
  cases accepted : start 4 [] (variableOnly "LOG_PATH" [0xFF]) with
  | error fault =>
      rw [accepted] at shown
      cases shown
  | ok c =>
      rw [accepted] at shown
      obtain ⟨value, text⟩ := Prod.mk.inj (Option.some.inj shown)
      refine ⟨c, rfl, .started accepted, value, text, ?_⟩
      rw [text, show (c.value .logPath : Bytes) = [0xFF] from value]
      decide

theorem start_initial [Patterns] {processors : UInt64} (some : processors ≠ 0) :
    start processors [] (fun _ => none) = .ok (initial processors) := by
  have fill : ∀ (c : CommandLine) (f : Flag), c.fill (fun _ => none) f = .ok c := by
    intro c f
    unfold CommandLine.fill
    split
    · rfl
    · rfl
  have filled : ∀ (flags : List Flag) (c : CommandLine),
      flags.foldlM (CommandLine.fill fun _ => none) c = .ok c := by
    intro flags c
    induction flags with
    | nil => rfl
    | cons f flags ih =>
        rw [List.foldlM_cons, fill]
        exact ih
  have read : Launch.read processors [] (fun _ => none) = .ok ⟨Flag.default processors⟩ := by
    unfold Launch.read
    simp only [List.foldlM_nil, CommandLine.settle, filled, bind, Except.bind, pure, Except.pure]
  have made : ofLaunch ⟨Flag.default processors⟩ = .ok (initial processors) := by
    have positive : ¬ (1000 : Int64) ≤ 0 := by decide
    have filter : LogFilter.parse "info" = .ok ⟨[⟨none, none, .info⟩]⟩ := rfl
    have nodes : Node.parseList "[]" = .ok [] := Node.parseList_listText []
    unfold ofLaunch
    simp only [Flag.default, if_neg positive, if_neg some, filter, nodes]
    rfl
  unfold start
  rw [read]
  simp only [made]

/-- A text that is refused in place, saved ones that are laid over, and two that are written while
the server runs, the second in vain. -/
theorem changed_shows :
    let c₁ := ((Edit.apply .threads "0").on (initial 4)).2
    let c₂ := ((Edit.overlay [("batch_size", " 7 "), ("none", "1")]).run c₁).2
    let s : Settings := { config := c₂ }
    let s' := (s.write .batchSize (.volatile {}) { batchSize := 7 } "server_port" " 6390").2.1
    let s'' := (s'.write .batchSize (.volatile {}) { batchSize := 7 } "threads" "0").2.1
    s''.config.Shows ∧ s''.config.text .batchSize = " 7 " ∧
      s''.config.text .serverPort = " 6390" ∧ s''.config.value .serverPort = (6390 : UInt16) ∧
      s''.config.value .threads = (4 : UInt64) := by
  intro c₁ c₂ s s' s''
  have started : Reached (initial 4) := .started (start_initial (by decide))
  have applied : Reached c₁ := .applied .threads "0" started
  have overlaid : Reached s.config := .overlaid [("batch_size", " 7 "), ("none", "1")] applied
  have written : Reached s'.config :=
    .set .batchSize (.volatile {}) { batchSize := 7 } "server_port" " 6390" overlaid
  have refused : Reached s''.config :=
    .set .batchSize (.volatile {}) { batchSize := 7 } "threads" "0" written
  exact ⟨shown_is_in_force refused, rfl, rfl, rfl, rfl⟩

end Configuration
end IdService
