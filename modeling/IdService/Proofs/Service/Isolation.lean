import IdService.Proofs.Holding.Steady
import IdService.Proofs.Service.Confinement

/-! # Keys do not see one another

What a request comes to is told by the records of the keys that it names. So two servers that differ
in one key only go on to do so, and but for a GET of that key they answer alike. Deleting and moving
a key ask no more than whether it is registered and with which batch size. All this holds over any
store that does not fail.
-/

namespace IdService

open Text Wire

/-- The records of a key without the counter's value and what the allocator has at hand. -/
def Holding.veiled (h : Holding) : Holding where
  allocator? := h.allocator?.map fun a => { a with segment := {} }
  counter? := h.counter?.map fun _ => .corrupt
  known := h.known

theorem Holding.map_corrupt {x y : Option Entry} (same : x.isSome = y.isSome) :
    (x.map fun _ => Entry.corrupt) = y.map fun _ => .corrupt := by
  cases x <;> cases y <;> simp_all

/-- Where a registered key comes first and its counter can be dropped, the rest is deleted from an
issuer without it. -/
theorem Command.deleteKeys_of_retired {s : Issuer} {count number : Nat} {raw : Bytes}
    {rest : List Bytes} {k : String} {a : Allocator} (read : key raw = .ok k)
    (found : s.find? k = some (number, a)) (retires : (s.retire a).1 = .ok ()) :
    deleteKeys s count (raw :: rest) = deleteKeys ((s.retire a).2.forget k) (count + 1) rest := by
  simp only [deleteKeys, read, found]
  rcases retiring : s.retire a with ⟨result, s'⟩
  rw [retiring] at retires
  obtain rfl : result = .ok () := retires
  rfl

namespace Issuer

variable {s s' s'' t t' : Issuer} {key : String}

/-! ## Keys that are not named -/

/-- A steady issuer, in which keys that no argument names have the records that they had. -/
structure Spares (s : Issuer) (args : List Bytes) (s' : Issuer) : Prop where
  steady : s'.Steady
  others : ∀ k, utf8 k ∉ args → s'.holding k = s.holding k

namespace Spares

theorem refl (steady : s.Steady) (args : List Bytes) : s.Spares args s := ⟨steady, fun _ _ => rfl⟩

theorem trans {args : List Bytes} (first : s.Spares args s') (second : s'.Spares args s'') :
    s.Spares args s'' :=
  ⟨second.steady, fun k unnamed => (second.others k unnamed).trans (first.others k unnamed)⟩

theorem mono {args more : List Bytes} (spares : s.Spares args s') (among : args ⊆ more) :
    s.Spares more s' :=
  ⟨spares.steady, fun k unnamed => spares.others k fun named => unnamed (among named)⟩

theorem of_holdings {args : List Bytes} (steady : s'.Steady) {h : Holding}
    (holdings : ∀ k, s'.holding k = if k = key then h else s.holding k)
    (named : utf8 key ∈ args) : s.Spares args s' := by
  refine ⟨steady, fun k unnamed => ?_⟩
  rw [holdings, if_neg]
  rintro rfl
  exact unnamed named

theorem deleteKeys (steady : s.Steady) (count : Nat) (args : List Bytes) :
    s.Spares args (Command.deleteKeys s count args).2 := by
  induction args generalizing s count with
  | nil => exact .refl steady []
  | cons raw rest ih =>
      cases read : Command.key raw with
      | error fault =>
          simp only [Command.deleteKeys, read]
          exact .refl steady _
      | ok k =>
          cases found : s.find? k with
          | none =>
              simp only [Command.deleteKeys, read, found]
              exact (ih steady count).mono (List.subset_cons_self raw rest)
          | some entry =>
              obtain ⟨number, a⟩ := entry
              obtain ⟨retires, steady', holdings⟩ := steady.forget found
              have named : utf8 k ∈ raw :: rest := by
                rw [Command.utf8_of_key read]
                exact List.mem_cons_self ..
              have first : s.Spares (raw :: rest) ((s.retire a).2.forget k) :=
                .of_holdings steady' holdings named
              have later := ih steady' (count + 1)
              rw [Command.deleteKeys_of_retired read found retires]
              exact first.trans (later.mono (List.subset_cons_self raw rest))

end Spares

/-! ## One key that differs -/

/-- Issuers that differ in the records of one key only, and there in nothing but the value of the
counter and what the allocator has at hand. -/
structure AlikeBut (key : String) (s t : Issuer) : Prop where
  left : s.Steady
  right : t.Steady
  batchSize : t.registry.batchSize = s.registry.batchSize
  others : ∀ k, k ≠ key → t.holding k = s.holding k
  veiled : (t.holding key).veiled = (s.holding key).veiled

namespace AlikeBut

theorem veiled_all (alike : AlikeBut key s t) (k : String) :
    (t.holding k).veiled = (s.holding k).veiled := by
  by_cases here : k = key
  · rw [here, alike.veiled]
  · rw [alike.others k here]

theorem isSome_eq (alike : AlikeBut key s t) (k : String) :
    (t.holding k).allocator?.isSome = (s.holding k).allocator?.isSome := by
  have same := congrArg (·.allocator?.isSome) (alike.veiled_all k)
  simpa only [Holding.veiled, Option.isSome_map] using same

theorem contains_eq (alike : AlikeBut key s t) (k : String) :
    t.registry.contains k = s.registry.contains k := by
  rw [Issuer.contains_eq alike.right.numbered, Issuer.contains_eq alike.left.numbered,
    alike.isSome_eq]

theorem find?_eq_none (alike : AlikeBut key s t) {k : String} :
    t.find? k = none ↔ s.find? k = none := by
  have same := alike.isSome_eq k
  simp only [holding, Option.isSome_map] at same
  rw [← Option.isNone_iff_eq_none, ← Option.isNone_iff_eq_none, ← Option.not_isSome,
    ← Option.not_isSome, same]

theorem allocatorFor_moved (alike : AlikeBut key s t) (k : String) (segment : Segment) :
    ({ t.allocatorFor k with segment } : Allocator) = { s.allocatorFor k with segment } := by
  have same : ((t.holding k).allocator?.map fun a => { a with segment := {} }) =
      ((s.holding k).allocator?.map fun a => { a with segment := {} }) :=
    congrArg Holding.allocator? (alike.veiled_all k)
  unfold allocatorFor
  cases is : (s.holding k).allocator? with
  | none =>
      rw [is, Option.map_none, Option.map_eq_none_iff] at same
      rw [same, Option.getD_none, Option.getD_none, alike.batchSize]
  | some a =>
      rw [is, Option.map_some, Option.map_eq_some_iff] at same
      obtain ⟨b, present, veiled⟩ := same
      rw [present, Option.getD_some, Option.getD_some]
      exact congrArg (fun a : Allocator => { a with segment }) veiled

theorem of_holdings (alike : AlikeBut key s t) (left : s'.Steady) (right : t'.Steady)
    (batchSize : t'.registry.batchSize = s'.registry.batchSize) {k₀ : String} {h : Holding}
    (holdings : ∀ k, s'.holding k = if k = k₀ then h else s.holding k)
    (holdings' : ∀ k, t'.holding k = if k = k₀ then h else t.holding k) : AlikeBut key s' t' where
  left := left
  right := right
  batchSize := batchSize
  others := by
    intro k apart
    rw [holdings, holdings', alike.others k apart]
  veiled := by
    rw [holdings, holdings']
    split
    · rfl
    · exact alike.veiled

theorem moveKey (alike : AlikeBut key s t) {k : String} (notEmpty : k ≠ "") (value : Int64) :
    AlikeBut key (Command.moveKey s k value).2 (Command.moveKey t k value).2 := by
  have holdings := holding_moveKey alike.left.numbered alike.left.batchSize notEmpty value
  have holdings' := holding_moveKey alike.right.numbered alike.right.batchSize notEmpty value
  have batchSize := (Aside.moveKey s k value).batchSize
  have batchSize' := (Aside.moveKey t k value).batchSize
  rw [alike.allocatorFor_moved] at holdings'
  refine alike.of_holdings (alike.left.moveKey notEmpty value).2
    (alike.right.moveKey notEmpty value).2 ?_ holdings holdings'
  rw [batchSize, batchSize', alike.batchSize]

theorem deleteKeys (alike : AlikeBut key s t) (count : Nat) (args : List Bytes) :
    (Command.deleteKeys t count args).1 = (Command.deleteKeys s count args).1 ∧
      AlikeBut key (Command.deleteKeys s count args).2 (Command.deleteKeys t count args).2 := by
  induction args generalizing s t count with
  | nil => exact ⟨rfl, alike⟩
  | cons raw rest ih =>
      cases read : Command.key raw with
      | error fault =>
          simp only [Command.deleteKeys, read]
          exact ⟨trivial, alike⟩
      | ok k =>
          -- a key is registered in both or in neither
          cases found : s.find? k with
          | none =>
              have found' := alike.find?_eq_none.mpr found
              simp only [Command.deleteKeys, read, found, found']
              exact ih alike count
          | some entry =>
              cases found' : t.find? k with
              | none =>
                  rw [alike.find?_eq_none.mp found'] at found
                  cases found
              | some entry' =>
                  obtain ⟨retires, steady, holdings⟩ := alike.left.forget found
                  obtain ⟨retires', steady', holdings'⟩ := alike.right.forget found'
                  rw [Command.deleteKeys_of_retired read found retires,
                    Command.deleteKeys_of_retired read found' retires']
                  exact ih (alike.of_holdings steady steady' alike.batchSize holdings holdings')
                    (count + 1)

theorem issueNext_other (alike : AlikeBut key s t) {k : String} (apart : k ≠ key)
    {number number' : Nat} {a b : Allocator} (found : s.find? k = some (number, a))
    (found' : t.find? k = some (number', b)) :
    (t.issueNext number' b).1 = (s.issueNext number a).1 ∧
      AlikeBut key (s.issueNext number a).2 (t.issueNext number' b).2 := by
  have same := alike.others k apart
  obtain rfl : b = a := by
    have allocator := congrArg Holding.allocator? same
    rw [allocator?_of_found found, allocator?_of_found found'] at allocator
    exact Option.some.inj allocator
  have isKey := alike.left.numbered.key_eq found
  have counter : t.store.contents.counter? b.key = s.store.contents.counter? b.key :=
    isKey ▸ congrArg Holding.counter? same
  obtain ⟨a', issues, -, holdings⟩ := holding_issueNext alike.left.numbered found
  obtain ⟨b', issues', -, holdings'⟩ := holding_issueNext alike.right.numbered found'
  obtain ⟨result, rfl, counter'⟩ :=
    issues.congr issues' alike.left.faultless alike.right.faultless counter
  rw [isKey] at counter'
  rw [counter', same] at holdings'
  exact ⟨result, alike.of_holdings (alike.left.issueNext found) (alike.right.issueNext found')
    alike.batchSize holdings holdings'⟩

end AlikeBut

/-- What an issuer has given of a key is not seen through the veil. -/
theorem veiled_issueNext (steady : s.Steady) {number : Nat} {a : Allocator}
    (found : s.find? key = some (number, a)) :
    (∀ k, k ≠ key → (s.issueNext number a).2.holding k = s.holding k) ∧
      ((s.issueNext number a).2.holding key).veiled = (s.holding key).veiled := by
  obtain ⟨a', issues, -, holdings⟩ := holding_issueNext steady.numbered found
  have isKey := steady.numbered.key_eq found
  have allocator := issues.same_but_segment {}
  have counter := issues.counter?_isSome
  rw [isKey] at counter
  refine ⟨fun k apart => by rw [holdings, if_neg apart], ?_⟩
  rw [holdings, if_pos rfl, Holding.veiled, Holding.veiled, allocator?_of_found found]
  simp only [Option.map_some, allocator]
  exact congrArg (Holding.mk _ · _) (Holding.map_corrupt counter)

theorem AlikeBut.issueNext (alike : AlikeBut key s t) {number number' : Nat} {a b : Allocator}
    (found : s.find? key = some (number, a)) (found' : t.find? key = some (number', b)) :
    AlikeBut key (s.issueNext number a).2 (t.issueNext number' b).2 := by
  obtain ⟨others, veiled⟩ := veiled_issueNext alike.left found
  obtain ⟨others', veiled'⟩ := veiled_issueNext alike.right found'
  refine ⟨alike.left.issueNext found, alike.right.issueNext found', alike.batchSize, ?_, ?_⟩
  · intro k apart
    rw [others k apart, others' k apart, alike.others k apart]
  · rw [veiled, veiled', alike.veiled]

end Issuer

/-! ## Requests -/

namespace Service

variable [Patterns] {s t : Service} {r : Request} {key : String}

omit [Patterns] in
theorem get_of_found {number : Nat} {a : Allocator} (first : Command.firstKey r = .ok key)
    (counter : Command.settingName? key = none) (found : s.issuer.find? key = some (number, a)) :
    s.get r = (issueReply (s.issuer.issueNext number a).1,
      { s with issuer := (s.issuer.issueNext number a).2 }) := by
  simp only [get, first, counter, found]
  rcases s.issuer.issueNext number a with ⟨halt | id, issuer⟩ <;> rfl

theorem handle_get_of_found {number : Nat} {a : Allocator} (about : r.counterKey? "GET" = some key)
    (found : s.issuer.find? key = some (number, a)) :
    s.handle r = (.ofResult (issueReply (s.issuer.issueNext number a).1),
      { s with issuer := (s.issuer.issueNext number a).2 }) := by
  obtain ⟨named, first, counter⟩ := Request.counterKey?_eq_some.mp about
  simp only [handle_eq, perform, named, get_of_found first counter found]

theorem set_of_moved {raw : Bytes} {value : Int} (first : Command.firstKey r = .ok key)
    (argument : r.arg? 1 = some raw) (counter : Command.settingName? key = none)
    (read : integer? raw = some value)
    (moves : (Command.moveKey s.issuer key (Int64.ofInt value)).1 = .ok ()) :
    s.set r =
      (.ok .ok, { s with issuer := (Command.moveKey s.issuer key (Int64.ofInt value)).2 }) := by
  simp only [set, first, argument, counter, read]
  rcases moving : Command.moveKey s.issuer key (Int64.ofInt value) with ⟨result, issuer⟩
  rw [moving] at moves
  obtain rfl : result = .ok () := moves
  rfl

theorem Written.batchSize_positive {p : Setting} {v : p.Value} {raw : String} {s' : Service}
    (written : s.Written p v raw s') (positive : 0 < s.issuer.registry.batchSize.toInt) :
    0 < (if p = .batchSize then s'.settings.config.batchSize
      else s.issuer.registry.batchSize).toInt := by
  split
  · rename_i here
    subst here
    rw [written.config]
    exact Kind.parse_batch written.parsed
  · exact positive

theorem writeSetting_spares (steady : s.issuer.Steady) (name raw : String) (args : List Bytes) :
    s.issuer.Spares args (s.writeSetting .batchSize name raw).2.issuer := by
  have writes := s.writeSetting_writes name raw
  generalize (s.writeSetting .batchSize name raw).1 = result,
    (s.writeSetting .batchSize name raw).2 = s' at writes
  cases writes with
  | refused => exact .refl steady args
  | written p v _ _ written =>
      rw [written.issuer]
      obtain ⟨steady', holdings⟩ := steady.tune p.name raw
        (written.batchSize_positive steady.batchSize)
      exact ⟨steady', fun k _ => holdings k⟩

/-- Servers with the same configuration that differ in one key only, and there in nothing but the
value of the counter and what the allocator has at hand. -/
structure AlikeBut (key : String) (s t : Service) : Prop where
  config : t.settings.config = s.settings.config
  issuer : s.issuer.AlikeBut key t.issuer

namespace AlikeBut

theorem writeSetting (alike : AlikeBut key s t) (name raw : String) :
    (t.writeSetting .batchSize name raw).1 = (s.writeSetting .batchSize name raw).1 ∧
      AlikeBut key (s.writeSetting .batchSize name raw).2 (t.writeSetting .batchSize name raw).2 := by
  have spares := writeSetting_spares alike.issuer.left name raw []
  have spares' := writeSetting_spares alike.issuer.right name raw []
  have both : (t.writeSetting .batchSize name raw).1 = (s.writeSetting .batchSize name raw).1 ∧
      (t.writeSetting .batchSize name raw).2.settings.config =
        (s.writeSetting .batchSize name raw).2.settings.config ∧
      (t.writeSetting .batchSize name raw).2.issuer.registry.batchSize =
        (s.writeSetting .batchSize name raw).2.issuer.registry.batchSize := by
    simp only [Service.writeSetting, Settings.write, alike.config]
    cases taken : s.settings.config.override name raw with
    | error reason => exact ⟨rfl, alike.config, alike.issuer.batchSize⟩
    | ok entry =>
        obtain ⟨p, config⟩ := entry
        obtain ⟨-, v, parsed, rfl⟩ := Configuration.override_eq_ok.mp taken
        simp only [LiveEffect.batchSize_eq parsed, alike.issuer.batchSize, and_self]
  obtain ⟨result, config, batchSize⟩ := both
  refine ⟨result, config, spares.steady, spares'.steady, batchSize, fun k apart => ?_, ?_⟩
  · rw [spares.others k List.not_mem_nil, spares'.others k List.not_mem_nil,
      alike.issuer.others k apart]
  · rw [spares.others key List.not_mem_nil, spares'.others key List.not_mem_nil,
      alike.issuer.veiled]

omit [Patterns] in
theorem get (alike : AlikeBut key s t) (r : Request) :
    AlikeBut key (s.get r).2 (t.get r).2 ∧
      (¬ (Command.firstKey r = .ok key ∧ Command.settingName? key = none) →
        (t.get r).1 = (s.get r).1) := by
  cases first : Command.firstKey r with
  | error fault =>
      simp only [Service.get, first]
      exact ⟨alike, fun _ => trivial⟩
  | ok k =>
      cases setting : Command.settingName? k with
      | some name =>
          simp only [Service.get, first, setting, settingReply, Settings.text?, alike.config]
          exact ⟨alike, fun _ => trivial⟩
      | none =>
          cases found : s.issuer.find? k with
          | none =>
              have found' := alike.issuer.find?_eq_none.mpr found
              simp only [Service.get, first, setting, found, found']
              exact ⟨alike, fun _ => trivial⟩
          | some entry =>
              cases found' : t.issuer.find? k with
              | none =>
                  rw [alike.issuer.find?_eq_none.mp found'] at found
                  cases found
              | some entry' =>
                  rw [get_of_found first setting found, get_of_found first setting found']
                  by_cases here : k = key
                  · subst here
                    exact ⟨⟨alike.config, alike.issuer.issueNext found found'⟩,
                      fun other => absurd ⟨rfl, setting⟩ other⟩
                  · obtain ⟨result, issued⟩ := alike.issuer.issueNext_other here found found'
                    exact ⟨⟨alike.config, issued⟩, fun _ => congrArg issueReply result⟩

theorem set (alike : AlikeBut key s t) (r : Request) :
    (t.set r).1 = (s.set r).1 ∧ AlikeBut key (s.set r).2 (t.set r).2 := by
  cases first : Command.firstKey r with
  | error fault =>
      simp only [Service.set, first]
      exact ⟨trivial, alike⟩
  | ok k =>
      cases argument : r.arg? 1 with
      | none =>
          simp only [Service.set, first, argument]
          exact ⟨trivial, alike⟩
      | some raw =>
          cases setting : Command.settingName? k with
          | some name =>
              simp only [Service.set, first, argument, setting]
              cases ofUtf8? raw with
              | none => exact ⟨rfl, alike⟩
              | some text =>
                  obtain ⟨result, written⟩ := alike.writeSetting name text
                  dsimp only
                  rcases writing : s.writeSetting .batchSize name text with ⟨result₁, s'⟩
                  rcases writing' : t.writeSetting .batchSize name text with ⟨result₂, t'⟩
                  rw [writing, writing'] at result written
                  obtain rfl : result₂ = result₁ := result
                  cases result₂ with
                  | error fault => exact ⟨rfl, written⟩
                  | ok p => exact ⟨rfl, written⟩
          | none =>
              cases read : integer? raw with
              | none =>
                  simp only [Service.set, first, argument, setting, read]
                  exact ⟨trivial, alike⟩
              | some value =>
                  have notEmpty := Command.firstKey_ne_empty first
                  have moves := (alike.issuer.left.moveKey notEmpty (Int64.ofInt value)).1
                  have moves' := (alike.issuer.right.moveKey notEmpty (Int64.ofInt value)).1
                  rw [set_of_moved first argument setting read moves,
                    set_of_moved first argument setting read moves']
                  exact ⟨rfl, alike.config, alike.issuer.moveKey notEmpty _⟩

omit [Patterns] in
theorem countRegistered_eq (alike : AlikeBut key s t) (count : Nat) (args : List Bytes) :
    Command.countRegistered t.issuer.registry count args =
      Command.countRegistered s.issuer.registry count args := by
  induction args generalizing count with
  | nil => rfl
  | cons raw rest ih => simp only [Command.countRegistered, alike.issuer.contains_eq, ih]

omit [Patterns] in
theorem exist_fst (alike : AlikeBut key s t) (r : Request) : (t.exist r).1 = (s.exist r).1 := by
  unfold Service.exist
  cases r.args with
  | nil => rfl
  | cons raw rest =>
      simp only [alike.countRegistered_eq]
      cases Command.countRegistered s.issuer.registry 0 (raw :: rest) <;> rfl

omit [Patterns] in
theorem del (alike : AlikeBut key s t) (r : Request) :
    (t.del r).1 = (s.del r).1 ∧ AlikeBut key (s.del r).2 (t.del r).2 := by
  unfold Service.del
  cases r.args with
  | nil => exact ⟨rfl, alike⟩
  | cons raw rest =>
      obtain ⟨result, deleted⟩ := alike.issuer.deleteKeys 0 (raw :: rest)
      dsimp only
      rcases deleting : Command.deleteKeys s.issuer 0 (raw :: rest) with ⟨result₁, issuer⟩
      rcases deleting' : Command.deleteKeys t.issuer 0 (raw :: rest) with ⟨result₂, issuer'⟩
      rw [deleting, deleting'] at result deleted
      obtain rfl : result₂ = result₁ := result
      cases result₂ with
      | error halt => exact ⟨rfl, alike.config, deleted⟩
      | ok count => exact ⟨rfl, alike.config, deleted⟩

theorem perform (alike : AlikeBut key s t) (r : Request) :
    AlikeBut key (s.perform r).2 (t.perform r).2 ∧
      (r.counterKey? "GET" ≠ some key → (t.perform r).1 = (s.perform r).1) := by
  unfold Service.perform
  split
  · rename_i named
    obtain ⟨after, answers⟩ := alike.get r
    refine ⟨after, fun other => answers fun ⟨first, counter⟩ => ?_⟩
    exact other (Request.counterKey?_eq_some.mpr ⟨named, first, counter⟩)
  · obtain ⟨result, after⟩ := alike.set r
    exact ⟨after, fun _ => result⟩
  · rw [exist_eq, exist_eq]
    exact ⟨alike, fun _ => alike.exist_fst r⟩
  · obtain ⟨result, after⟩ := alike.del r
    exact ⟨after, fun _ => result⟩
  · exact ⟨alike, fun _ => rfl⟩
  · exact ⟨alike, fun _ => rfl⟩
  · exact ⟨alike, fun _ => rfl⟩

/-- But for a GET of the key in which they differ, servers answer alike. -/
theorem handle (alike : AlikeBut key s t) (r : Request) :
    AlikeBut key (s.handle r).2 (t.handle r).2 ∧
      (r.counterKey? "GET" ≠ some key → (t.handle r).1 = (s.handle r).1) := by
  obtain ⟨after, result⟩ := alike.perform r
  rw [handle_eq, handle_eq]
  exact ⟨after, fun other => congrArg Answer.ofResult (result other)⟩

theorem run (alike : AlikeBut key s t) (requests : List Request) :
    AlikeBut key (s.run (requests.map .request)).2 (t.run (requests.map .request)).2 := by
  induction requests generalizing s t with
  | nil => exact alike
  | cons r rest ih => exact ih (alike.handle r).1

end AlikeBut

end Service
end IdService
