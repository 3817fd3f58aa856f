import IdService.Proofs.Settings.Reached
import Mathlib.Data.List.Nodup

/-! # The nodes of a start

A server that has been given its nodes at the start, and none since, shows a text of its own making.
The text is read as the same nodes by everything that reads nodes: when it is written to a setting,
and when another server is started with it. Every list of nodes is one that a server can be started
with, whatever the names of its hosts are made of.
-/

namespace IdService

/-! ## Starting with one variable -/

namespace Flag

theorem mem_all (f : Flag) : f ∈ all := by
  cases f with
  | setting s => cases s <;> decide
  | shutdownTimeout => decide

theorem nodup_all : all.Nodup := by decide

theorem environmentName_injective {f g : Flag} (same : f.environmentName = g.environmentName) :
    f = g := by
  have apart : (all.map fun f => f.name.toList.map Char.toUpper).Nodup := by decide
  apply List.inj_on_of_nodup_map apart f.mem_all g.mem_all
  simpa only [environmentName, ← String.toList_inj, String.toList_map] using same

end Flag

namespace CommandLine

variable {c : CommandLine} {f : Flag} {raw : Bytes}

theorem fill_other {g : Flag} (other : g ≠ f) :
    c.fill (variableOnly f.environmentName raw) g = .ok c := by
  unfold fill
  split
  · rfl
  · rw [variableOnly, if_neg (mt Flag.environmentName_injective other)]
    rfl

theorem fill_same (free : f ∉ c.given) {v : f.Value} (parsed : f.kind.parse raw = .ok v) :
    c.fill (variableOnly f.environmentName raw) f = .ok { c with launch := c.launch.set f v } := by
  simp only [fill, if_neg free, variableOnly, if_true, Launch.give, parsed]
  rfl

theorem fillMany_other {flags : List Flag} (other : f ∉ flags) :
    flags.foldlM (fill (variableOnly f.environmentName raw)) c = .ok c := by
  induction flags with
  | nil => rfl
  | cons g flags ih =>
      obtain ⟨here, later⟩ := List.ne_and_not_mem_of_not_mem_cons other
      rw [List.foldlM_cons, fill_other here.symm]
      exact ih later

end CommandLine

/-- The variable is all that is taken from such an environment. -/
theorem CommandLine.fillAll_variable {c : CommandLine} {f : Flag} (free : f ∉ c.given)
    {raw : Bytes} {v : f.Value} (parsed : f.kind.parse raw = .ok v) :
    Flag.all.foldlM (fill (variableOnly f.environmentName raw)) c =
      .ok { c with launch := c.launch.set f v } := by
  obtain ⟨before, after, split⟩ := List.append_of_mem f.mem_all
  have apart := Flag.nodup_all
  rw [split, List.nodup_middle, List.nodup_cons, List.mem_append, not_or] at apart
  obtain ⟨first, last⟩ := apart.1
  rw [split, List.foldlM_append, fillMany_other first]
  change (f :: after).foldlM (fill (variableOnly f.environmentName raw)) c = _
  rw [List.foldlM_cons, fill_same free parsed]
  exact fillMany_other last

theorem Launch.read_variable (processors : UInt64) {f : Flag} {raw : Bytes} {v : f.Value}
    (parsed : f.kind.parse raw = .ok v) :
    Launch.read processors [] (variableOnly f.environmentName raw) =
      .ok (Launch.set ⟨Flag.default processors⟩ f v) := by
  have filled := CommandLine.fillAll_variable (c := { launch := ⟨Flag.default processors⟩ })
    List.not_mem_nil parsed
  simp only [read, List.foldlM_nil, CommandLine.settle, filled, bind, Except.bind, pure,
    Except.pure]

namespace Configuration

open Text

theorem ofLaunch_of_checks [Patterns] {l : Launch}
    (batchSize : 0 < (l.value (.setting .batchSize) : Int64).toInt)
    (threads : (l.value (.setting .threads) : UInt64) ≠ 0) {filter : LogFilter}
    (logLevel : LogFilter.parse (l.value (.setting .logLevel) : String) = .ok filter)
    {nodes : List Node} (listed : Node.parseList (l.value (.setting .nodes) : String) = .ok nodes) :
    ofLaunch l = .ok { value := l.settingValue nodes, written := fun _ => none,
                       shutdownTimeout := l.value .shutdownTimeout } := by
  have positive : ¬ (l.value (.setting .batchSize) : Int64) ≤ 0 := by
    rw [Int64.le_iff_toInt_le]
    exact Int.not_le.mpr batchSize
  unfold ofLaunch
  simp only [if_neg positive, if_neg threads, logLevel, listed]
  rfl

/-- What a server starts with that is told nothing but its nodes. -/
def initialWith (processors : UInt64) (nodes : List Node) : Configuration :=
  { initial processors with value := Launch.settingValue ⟨Flag.default processors⟩ nodes }

theorem start_nodes [Patterns] {processors : UInt64} (some : processors ≠ 0) {raw : String}
    {nodes : List Node} (listed : Node.parseList raw = .ok nodes) :
    start processors [] (variableOnly "NODES" (utf8 raw)) = .ok (initialWith processors nodes) := by
  have name : Flag.environmentName (.setting .nodes) = "NODES" := by
    rw [← String.toList_inj, Flag.environmentName, String.toList_map]
    decide
  let l : Launch := Launch.set ⟨Flag.default processors⟩ (.setting .nodes) raw
  have decoded : FlagKind.text.parse (utf8 raw) = .ok raw := by
    simp only [FlagKind.parse, FlagKind.decode, ofUtf8?_utf8]
  have read : Launch.read processors [] (variableOnly "NODES" (utf8 raw)) = .ok l :=
    name ▸ Launch.read_variable processors decoded
  have values : l.settingValue nodes = Launch.settingValue ⟨Flag.default processors⟩ nodes := by
    funext s
    cases s <;> rfl
  have batchSize : 0 < (1000 : Int64).toInt := by decide
  have logLevel : LogFilter.parse "info" = .ok ⟨[⟨none, none, .info⟩]⟩ := rfl
  have made := ofLaunch_of_checks (l := l) batchSize some logLevel listed
  unfold start
  rw [read]
  simp only [made, values]
  rfl

/-! ## Showing the nodes -/

variable {c : Configuration} {nodes : List Node}

theorem text_of_unwritten (holds : c.value .nodes = nodes) (unwritten : c.written .nodes = none) :
    c.text .nodes = Node.listText nodes := by
  rw [text, unwritten, holds]
  rfl

/-- Nodes that have not been written are shown as a text that is read as them. So it is where the
text is written to a configuration and where a server is started with it, which shows the same text
again. No other nodes are shown as that text. -/
theorem unwritten_nodes_read_back [Patterns] (holds : c.value .nodes = nodes)
    (unwritten : c.written .nodes = none) :
    Node.parseList (c.text .nodes) = .ok nodes ∧
      (∀ d, ∃ d', (Edit.apply .nodes (c.text .nodes)).on d = (.ok (c.text .nodes), d') ∧
        d.Gives .nodes nodes (c.text .nodes) d') ∧
      (∀ processors, processors ≠ 0 → ∃ d,
        start processors [] (variableOnly "NODES" (utf8 (c.text .nodes))) = .ok d ∧
          d.value .nodes = nodes ∧ d.written .nodes = none ∧ d.text .nodes = c.text .nodes) ∧
      ∀ d : Configuration, d.written .nodes = none →
        (d.text .nodes = c.text .nodes ↔ d.value .nodes = nodes) := by
  have shown := text_of_unwritten holds unwritten
  have read : Node.parseList (c.text .nodes) = .ok nodes := by
    rw [shown]
    exact Node.parseList_listText nodes
  refine ⟨read, fun d => ?_, fun processors some => ?_, fun d unwritten' => ⟨?_, ?_⟩⟩
  · have parsed : Setting.nodes.kind.parse (c.text .nodes) = .ok nodes := Kind.parse_eq_ok.mpr read
    refine ⟨d.set .nodes nodes (c.text .nodes), ?_, d.gives_set .nodes nodes _⟩
    rw [Edit.on_apply, parsed]
  · refine ⟨_, start_nodes some read, rfl, rfl, ?_⟩
    rw [shown]
    exact text_of_unwritten rfl rfl
  · intro same
    have again := Node.parseList_listText (d.value .nodes)
    rw [← text_of_unwritten rfl unwritten', same, read] at again
    exact (Except.ok.inj again).symm
  · intro same
    rw [shown, text_of_unwritten same unwritten']

/-- Names with all kinds of characters: those that are escaped, those that need not be, and those
outside the basic plane; and ports at both ends. -/
theorem oddHosts_read_back :
    let nodes : List Node :=
      [⟨"a\"b\\\n\u0001\u007f", 0, 65535⟩, ⟨"é😀\u2028", 6389, 10⟩, ⟨"", 1, 1⟩]
    let c := initialWith 4 nodes
    c.value .nodes = nodes ∧ c.written .nodes = none ∧
      c.text .nodes = "[\x7b\"server_host\":\"a\\\"b\\\\\\n\\u0001\u007f\",\"server_port\":0," ++
        "\"trans_port\":65535\x7d,\x7b\"server_host\":\"é😀\u2028\",\"server_port\":6389," ++
        "\"trans_port\":10\x7d,\x7b\"server_host\":\"\",\"server_port\":1,\"trans_port\":1\x7d]" ∧
      Node.parseList (c.text .nodes) = .ok nodes := by
  intro nodes c
  exact ⟨rfl, rfl, by decide +kernel, (unwritten_nodes_read_back (c := c) rfl rfl).1⟩

end Configuration
end IdService
