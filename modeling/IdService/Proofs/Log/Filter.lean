import IdService.Log.Filter
import IdService.Proofs.Text.Blank

/-! # Log filters and white space

Names and levels are cut out of a directive at places counted without the white space around it. A
level that is cut so with white space around is none, and a name that is found so is found without
it, since the places are between characters then. So a text that is read as a log filter is read as
one without the white space around it, too, but for one thing: behind white space a field is cut out
at the wrong place, and the right field may be asked for a value that is no pattern.
-/

namespace IdService

/-- A character that may stand in a level. -/
def LogLevel.Plain (c : Char) : Prop := Text.isBlank c = false ∧ c ≠ '='

namespace LogLevel

theorem plain_of_digit {c : Char} {d : Nat} (digit : Numeral.digit? c = some d) : Plain c := by
  unfold Numeral.digit? at digit
  split at digit
  · rename_i inside
    have low : 48 ≤ c.toNat := inside.1
    have high : c.toNat ≤ 57 := inside.2
    refine ⟨Text.isBlank_visible (by omega) (by omega), ?_⟩
    rintro rfl
    exact absurd high (by decide)
  · cases digit

theorem plain_of_readUp {high n m : Int} {text : List Char}
    (read : Numeral.readUp high n text = .ok m) : ∀ c ∈ text, Plain c := by
  fun_induction Numeral.readUp high n text with
  | case1 => exact fun c member => nomatch member
  | case2 | case4 => cases read
  | case3 n c rest d digit next fits ih =>
      intro c' member
      rcases List.mem_cons.mp member with rfl | later
      · exact plain_of_digit digit
      · exact ih read c' later

theorem plain_of_read {n : Int} {text : List Char}
    (read : Numeral.read Numeral.Range.uint64 text = .ok n) : ∀ c ∈ text, Plain c := by
  unfold Numeral.read at read
  split at read
  · cases read
  · cases read
  · cases read
  · rename_i digits _
    intro c member
    rcases List.mem_cons.mp member with rfl | later
    · exact ⟨by decide, by decide⟩
    · exact plain_of_readUp read c later
  · rw [if_neg (by decide)] at read
    cases read
  · exact plain_of_readUp read

theorem plain_of_toLower {c : Char} (plain : Plain c.toLower) : Plain c := by
  unfold Char.toLower at plain
  split at plain
  · rename_i upper
    have low : 65 ≤ c.toNat := upper.1
    have high : c.toNat ≤ 90 := upper.2
    refine ⟨Text.isBlank_visible (by omega) (by omega), ?_⟩
    rintro rfl
    exact absurd low (by decide)
  · exact plain

theorem plain_of_ofChars? {cs : List Char} {level : LogLevel} (found : ofChars? cs = some level) :
    ∀ c ∈ cs, Plain c := by
  unfold ofChars? at found
  split at found
  · exact plain_of_read ‹_›
  · have named : level.name.toList = cs.map Char.toLower := by
      have same := List.find?_some found
      exact beq_iff_eq.mp same
    intro c member
    apply plain_of_toLower
    have letter : c.toLower ∈ level.name.toList := named ▸ List.mem_map_of_mem member
    have letters : level.name.toList.all (fun d => !Text.isBlank d && d != '=') := by
      cases level <;> decide
    have plain := List.all_eq_true.mp letters _ letter
    simp only [Bool.and_eq_true, Bool.not_eq_true', bne_iff_ne] at plain
    exact plain

end LogLevel
end IdService

namespace IdService.LogFilter

theorem bind_eq_ok {α β ε : Type} {e : Except ε α} {f : α → Except ε β} {b : β} :
    (e >>= f) = .ok b ↔ ∃ a, e = .ok a ∧ f a = .ok b := by
  cases e with
  | error fault => exact iff_of_false (fun same => nomatch same) fun ⟨_, same, _⟩ => nomatch same
  | ok a =>
      constructor
      · exact fun made => ⟨a, rfl, made⟩
      · rintro ⟨a, same, made⟩
        cases same
        exact made

/-! ## Cuts -/

theorem size_nil : size [] = 0 := rfl

theorem size_cons (c : Char) (cs : List Char) : size (c :: cs) = c.utf8Size + size cs := rfl

theorem size_append (cs ds : List Char) : size (cs ++ ds) = size cs + size ds := by
  induction cs with
  | nil => rw [List.nil_append, size_nil, Nat.zero_add]
  | cons c cs ih => rw [List.cons_append, size_cons, size_cons, ih, Nat.add_assoc]

theorem size_eq_zero {cs : List Char} : size cs = 0 ↔ cs = [] := by
  cases cs with
  | nil => exact iff_of_true rfl rfl
  | cons c cs =>
      have positive := c.utf8Size_pos
      rw [size_cons]
      exact iff_of_false (by omega) (List.cons_ne_nil c cs)

theorem cons_of_size {n : Nat} {cs front rest : List Char} (whole : cs = front ++ rest)
    (sized : size front = n + 1) :
    ∃ c more, front = c :: more ∧ cs = c :: (more ++ rest) ∧ c.utf8Size + size more = n + 1 := by
  cases front with
  | nil => cases sized
  | cons c more => exact ⟨c, more, rfl, whole, sized⟩

theorem append_of_size_le {xs ys front rest : List Char} (whole : xs ++ ys = front ++ rest)
    (short : size front ≤ size xs) : ∃ more, xs = front ++ more ∧ rest = more ++ ys := by
  rcases List.append_eq_append_iff.mp whole with ⟨more, long, behind⟩ | ⟨more, long, behind⟩
  · rw [long, size_append] at short
    obtain rfl := size_eq_zero.mp (show size more = 0 by omega)
    rw [List.append_nil] at long
    exact ⟨[], by rw [long, List.append_nil], behind.symm⟩
  · exact ⟨more, long, behind⟩

theorem dropBytes_eq_ok {n : Nat} {cs rest : List Char} :
    dropBytes n cs = .ok rest ↔ ∃ front, cs = front ++ rest ∧ size front = n := by
  fun_induction dropBytes n cs with
  | case1 cs =>
      constructor
      · intro same
        cases same
        exact ⟨[], rfl, rfl⟩
      · rintro ⟨front, rfl, empty⟩
        rw [size_eq_zero.mp empty]
        rfl
  | case2 n =>
      refine iff_of_false (fun refused => nomatch refused) ?_
      rintro ⟨front, whole, sized⟩
      obtain ⟨c, more, -, some, -⟩ := cons_of_size whole sized
      cases some
  | case3 n c cs fits ih =>
      rw [ih]
      have positive := c.utf8Size_pos
      constructor
      · rintro ⟨front, rfl, sized⟩
        refine ⟨c :: front, rfl, ?_⟩
        rw [size_cons, sized]
        exact Nat.add_sub_cancel' fits
      · rintro ⟨front, whole, sized⟩
        obtain ⟨c, more, rfl, same, sized⟩ := cons_of_size whole sized
        cases same
        exact ⟨more, rfl, by omega⟩
  | case4 n c cs large =>
      refine iff_of_false (fun refused => nomatch refused) ?_
      rintro ⟨front, whole, sized⟩
      obtain ⟨c, more, -, same, sized⟩ := cons_of_size whole sized
      cases same
      omega

theorem takeBytes_eq_ok {n : Nat} {taken cs front : List Char} :
    takeBytes taken n cs = .ok front ↔
      ∃ more rest, cs = more ++ rest ∧ size more = n ∧ front = taken.reverse ++ more := by
  fun_induction takeBytes taken n cs with
  | case1 taken cs =>
      constructor
      · intro same
        cases same
        exact ⟨[], cs, rfl, rfl, (List.append_nil _).symm⟩
      · rintro ⟨more, rest, rfl, empty, rfl⟩
        rw [size_eq_zero.mp empty, List.append_nil]
  | case2 taken n =>
      refine iff_of_false (fun refused => nomatch refused) ?_
      rintro ⟨more, rest, whole, sized, -⟩
      obtain ⟨c, more, -, some, -⟩ := cons_of_size whole sized
      cases some
  | case3 taken n c cs fits ih =>
      rw [ih]
      have positive := c.utf8Size_pos
      constructor
      · rintro ⟨more, rest, rfl, sized, rfl⟩
        refine ⟨c :: more, rest, rfl, ?_, ?_⟩
        · rw [size_cons, sized]
          exact Nat.add_sub_cancel' fits
        · rw [List.reverse_cons, List.append_assoc, List.singleton_append]
      · rintro ⟨more, rest, whole, sized, rfl⟩
        obtain ⟨c, more, rfl, same, sized⟩ := cons_of_size whole sized
        cases same
        refine ⟨more, rest, rfl, by omega, ?_⟩
        rw [List.reverse_cons, List.append_assoc, List.singleton_append]
  | case4 taken n c cs large =>
      refine iff_of_false (fun refused => nomatch refused) ?_
      rintro ⟨more, rest, whole, sized, -⟩
      obtain ⟨c, more, -, same, sized⟩ := cons_of_size whole sized
      cases same
      omega

theorem cut_eq_ok {cs : List Char} {start stop : Nat} {name : String} :
    cut cs start stop = .ok name ↔ ∃ front middle rest, cs = front ++ (middle ++ rest) ∧
      size front = start ∧ size middle = stop - start ∧ name = String.ofList middle := by
  unfold cut
  constructor
  · intro found
    obtain ⟨behind, dropped, found⟩ := bind_eq_ok.mp found
    obtain ⟨taken, took, found⟩ := bind_eq_ok.mp found
    cases found
    obtain ⟨front, rfl, sized⟩ := dropBytes_eq_ok.mp dropped
    obtain ⟨middle, rest, rfl, sized', rfl⟩ := takeBytes_eq_ok.mp took
    exact ⟨front, _, rest, rfl, sized, sized', rfl⟩
  · rintro ⟨front, middle, rest, rfl, sized, sized', rfl⟩
    apply bind_eq_ok.mpr
    refine ⟨middle ++ rest, dropBytes_eq_ok.mpr ⟨front, rfl, sized⟩, ?_⟩
    apply bind_eq_ok.mpr
    exact ⟨middle, takeBytes_eq_ok.mpr ⟨middle, rest, rfl, sized', rfl⟩, rfl⟩

theorem isEmpty_of_cut {cs : List Char} {start stop : Nat} {name : String}
    (found : cut cs start stop = .ok name) : name.isEmpty = decide (stop - start = 0) := by
  obtain ⟨front, middle, rest, -, -, sized, rfl⟩ := cut_eq_ok.mp found
  rw [← sized, decide_eq_decide.mpr size_eq_zero]
  cases middle with
  | nil => rfl
  | cons c middle => simp

/-! ## Reading again -/

/-- What comes of reading a text again: it is read, or a value is refused, where fields have `moved`
to other places. -/
inductive Rereads {α : Type} (moved : Prop) : Except Fault α → Prop where
  | read (a : α) : Rereads moved (.ok a)
  | refused (reason : String) : moved → Rereads moved (.error (.field reason))

namespace Rereads

variable {α β : Type} {moved moved' : Prop} {e : Except Fault α}

theorem imp (rereads : Rereads moved e) (implies : moved → moved') : Rereads moved' e := by
  cases rereads with
  | read a => exact .read a
  | refused reason here => exact .refused reason (implies here)

theorem of_ok (found : ∃ a, e = .ok a) : Rereads moved e := by
  obtain ⟨a, rfl⟩ := found
  exact .read a

theorem bind (rereads : Rereads moved e) {f : α → Except Fault β} (next : ∀ a, Rereads moved (f a)) :
    Rereads moved (e >>= f) := by
  cases rereads with
  | read a => exact next a
  | refused reason here => exact .refused reason here

theorem mapM {f : α → Except Fault β} {xs : List α} (each : ∀ x ∈ xs, Rereads moved (f x)) :
    Rereads moved (xs.mapM f) := by
  induction xs with
  | nil => exact .read []
  | cons x xs ih =>
      rw [List.forall_mem_cons] at each
      rw [List.mapM_cons]
      exact each.1.bind fun y => (ih each.2).bind fun ys => .read (y :: ys)

end Rereads

/-- A directive that is read as `full` stands in `outer` and in `part`: names that are found in the
one are found in the other, the same ones unless they have moved, and no level is found in the
former. -/
structure Reframes (moved : Prop) (outer part full : List Char) : Prop where
  cuts : ∀ front middle rest name, full = front ++ (middle ++ rest) →
    cut outer (size front) (size front + size middle) = .ok name →
    ∃ name', cut part (size front) (size front + size middle) = .ok name' ∧
      (moved ∨ name' = name)
  levels : ∀ front rest target scope d, full = front ++ '=' :: rest →
    readLevel outer target scope (size front + 1) ≠ .ok d

variable {moved : Prop} {outer part full cs : List Char} {target target' : Option String}
  {d : LogDirective}

theorem Reframes.afterScope (reframes : Reframes moved outer part full) {scope scope' : LogScope}
    (front : List Char) (whole : full = front ++ cs)
    (read : afterScope outer target scope (size front) cs = .ok d) :
    ∃ d', afterScope part target' scope' (size front) cs = .ok d' := by
  unfold LogFilter.afterScope at read
  split at read
  · exact ⟨_, rfl⟩
  · exact absurd read (reframes.levels front _ _ _ _ whole)
  · cases read

section

variable [Patterns]

theorem checkField_rereads {field field' : String} (checked : checkField field = .ok ())
    (sized : field'.isEmpty = field.isEmpty) (same : moved ∨ field' = field) :
    Rereads moved (checkField field') := by
  rcases same with moved | rfl
  · unfold checkField at checked ⊢
    rw [sized]
    split at checked
    · cases checked
    · rename_i some
      rw [if_neg some]
      cases (fieldValue? field').bind Patterns.refusal? with
      | none => exact .read ()
      | some reason => exact .refused reason moved
  · exact .of_ok ⟨(), checked⟩

theorem Reframes.readScope (reframes : Reframes moved outer part full) (front : List Char)
    (whole : full = front ++ cs) (read : readScope outer target (size front) cs = .ok d) :
    Rereads moved (readScope part target' (size front) cs) := by
  have parts := List.takeWhile_append_dropWhile (p := (!endsSpan ·)) (l := cs)
  unfold LogFilter.readScope at read ⊢
  generalize cs.takeWhile (!endsSpan ·) = name at parts read ⊢
  have size_snoc : ∀ (cs : List Char) (c : Char), size (cs ++ [c]) = size cs + c.utf8Size := by
    intro cs c
    rw [size_append, size_cons, size_nil, Nat.add_zero]
  split at read
  · rename_i rest behind
    rw [behind] at parts
    have stop : size (front ++ name ++ [']']) = size front + size name + 1 := by
      rw [size_snoc, size_append]
      rfl
    dsimp only at read ⊢
    rw [← stop] at read ⊢
    obtain ⟨span, found, read⟩ := bind_eq_ok.mp read
    obtain ⟨span', found', -⟩ :=
      reframes.cuts front name (']' :: rest) span (by simp [whole, parts]) found
    obtain ⟨d', read'⟩ :=
      reframes.afterScope (front ++ name ++ [']']) (by simp [whole, ← parts]) read
    exact .of_ok ⟨d', bind_eq_ok.mpr ⟨span', found', read'⟩⟩
  · rename_i rest behind
    rw [behind] at parts
    have stop : size (front ++ name ++ ['\x7b']) = size front + size name + 1 := by
      rw [size_snoc, size_append]
      rfl
    have parts' := List.takeWhile_append_dropWhile (p := (· != '\x7d')) (l := rest)
    dsimp only at read ⊢
    rw [← stop] at read ⊢
    generalize rest.takeWhile (· != '\x7d') = field at parts' read ⊢
    obtain ⟨span, found, read⟩ := bind_eq_ok.mp read
    obtain ⟨span', found', -⟩ :=
      reframes.cuts front name ('\x7b' :: rest) span (by simp [whole, parts]) found
    refine (Rereads.of_ok ⟨span', found'⟩).bind fun span' => ?_
    split at read
    · rename_i more behind'
      rw [behind'] at parts'
      have inside : full = front ++ name ++ ['\x7b'] ++ (field ++ '\x7d' :: more) := by
        simp [whole, ← parts, ← parts']
      obtain ⟨inner, filled, read⟩ := bind_eq_ok.mp read
      obtain ⟨inner', filled', same⟩ := reframes.cuts _ field _ inner inside filled
      obtain ⟨_, checked, read⟩ := bind_eq_ok.mp read
      have sized : inner'.isEmpty = inner.isEmpty := by
        rw [isEmpty_of_cut filled, isEmpty_of_cut filled']
      rw [filled']
      refine (checkField_rereads checked sized same).bind fun _ => ?_
      split at read
      · rename_i rest'
        have last : size (front ++ name ++ ['\x7b'] ++ field ++ ['\x7d', ']']) =
            size (front ++ name ++ ['\x7b']) + size field + 2 := by
          rw [size_append, size_append _ field]
          rfl
        rw [← last] at read ⊢
        exact .of_ok (reframes.afterScope _ (by simp [inside]) read)
      · cases read
    · cases read
  · cases read

theorem Reframes.readTarget (reframes : Reframes moved outer part cs)
    (read : readTarget outer cs = .ok d) : Rereads moved (readTarget part cs) := by
  have parts := List.takeWhile_append_dropWhile (p := (!endsTarget ·)) (l := cs)
  unfold LogFilter.readTarget at read ⊢
  generalize cs.takeWhile (!endsTarget ·) = name at parts read ⊢
  split at read
  · rename_i rest behind
    rw [behind] at parts
    obtain ⟨target, -, read⟩ := bind_eq_ok.mp read
    exact absurd read (reframes.levels name rest _ _ _ parts.symm)
  · rename_i rest behind
    rw [behind] at parts
    obtain ⟨target, found, read⟩ := bind_eq_ok.mp read
    obtain ⟨target', found'⟩ : ∃ target', cut part 0 (size name) = .ok target' := by
      have cuts := reframes.cuts [] name ('[' :: rest) target parts.symm
      rw [size_nil, Nat.zero_add] at cuts
      obtain ⟨target', found', -⟩ := cuts found
      exact ⟨target', found'⟩
    have stop : size (name ++ ['[']) = size name + 1 := size_append name ['[']
    dsimp only
    rw [← stop] at read ⊢
    refine (Rereads.of_ok ⟨target', found'⟩).bind fun target' => ?_
    exact reframes.readScope (name ++ ['[']) (by simp [← parts]) read
  · cases LogLevel.ofChars? part with
    | some level => exact .read _
    | none => exact .read _

theorem Reframes.readDirective (reframes : Reframes moved outer part (Text.trimChars outer))
    (same : Text.trimChars part = Text.trimChars outer) (read : readDirective outer = .ok d) :
    Rereads moved (readDirective part) := by
  unfold LogFilter.readDirective at read ⊢
  rw [same]
  generalize Text.trimChars outer = full at reframes read ⊢
  cases full with
  | nil => cases read
  | cons c rest =>
      dsimp only at read ⊢
      by_cases bracket : c = '['
      · subst bracket
        rw [if_pos rfl] at read ⊢
        exact reframes.readScope ['['] rfl read
      · rw [if_neg bracket] at read ⊢
        by_cases starts : startsTarget c
        · rw [if_pos starts] at read ⊢
          exact reframes.readTarget read
        · rw [if_neg starts] at read
          cases read

end

open Text

variable {front back : List Char}

/-- Where the bytes of a directive are counted in white space, what stands behind its equals sign
has the sign or white space in it. -/
theorem unplain_behind {l r rest text : List Char} (blanks : Blanks r) (framed : l ≠ [] ∨ r ≠ [])
    (dropped : dropBytes (size front + 1) (l ++ (front ++ '=' :: rest) ++ r) = .ok text) :
    ∃ c ∈ text, ¬ LogLevel.Plain c := by
  obtain ⟨before, whole, sized⟩ := dropBytes_eq_ok.mp dropped
  have equals : ('=' : Char).utf8Size = 1 := rfl
  by_cases led : l = []
  · -- white space behind the directive is part of the level
    obtain ⟨c, r', rfl⟩ := List.exists_cons_of_ne_nil (framed.resolve_left (absurd led))
    have short : size before ≤ size (l ++ (front ++ '=' :: rest)) := by
      simp only [size_append, size_cons, sized]
      omega
    obtain ⟨more, -, rfl⟩ := append_of_size_le whole short
    refine ⟨c, List.mem_append_right _ (List.mem_cons_self ..), fun plain => ?_⟩
    exact absurd ((blanks c (List.mem_cons_self ..)).symm.trans plain.1) (by decide)
  · -- the count ends in front of the equals sign
    have some : size l ≠ 0 := fun none => led (size_eq_zero.mp none)
    have whole' : (l ++ front) ++ '=' :: (rest ++ r) = before ++ text := by
      rw [← whole]
      simp
    have short : size before ≤ size (l ++ front) := by
      rw [size_append, sized]
      omega
    obtain ⟨more, -, rfl⟩ := append_of_size_le whole' short
    exact ⟨'=', List.mem_append_right _ (List.mem_cons_self ..), fun plain => plain.2 rfl⟩

/-- A level that is cut behind an equals sign is none if white space stands around the directive. -/
theorem readLevel_framed {l r rest : List Char} (blanks : Blanks r) (framed : l ≠ [] ∨ r ≠ [])
    (target : Option String) (scope : Option LogScope) (d : LogDirective) :
    readLevel (l ++ (front ++ '=' :: rest) ++ r) target scope (size front + 1) ≠ .ok d := by
  intro read
  obtain ⟨text, dropped, read⟩ := bind_eq_ok.mp read
  obtain ⟨c, member, unplain⟩ := unplain_behind blanks framed dropped
  cases text with
  | nil => cases member
  | cons c' text =>
      cases found : LogLevel.ofChars? (c' :: text) with
      | none =>
          simp only [found] at read
          cases read
      | some level => exact unplain (LogLevel.plain_of_ofChars? found c member)

/-- A directive with white space taken away from it, at both ends; if any stood in front of it, none
is left there. -/
theorem reframes (blanks : Blanks front) (blanks' : Blanks back)
    (unled : front = [] ∨ ∀ c ∈ part.head?, isBlank c = false) (framed : front ≠ [] ∨ back ≠ []) :
    Reframes (front ≠ []) (front ++ part ++ back) part (trimChars part) where
  cuts := by
    intro before middle behind name whole found
    obtain ⟨l, r, form, blank, -⟩ := trimChars_spec part
    by_cases none : front = []
    · subst none
      obtain ⟨start, name', rest, whole', sized, sized', rfl⟩ := cut_eq_ok.mp found
      have short : size (start ++ name') ≤ size part := by
        rw [form, whole]
        simp only [size_append, sized, sized']
        omega
      rw [List.nil_append, ← List.append_assoc] at whole'
      obtain ⟨more, long, -⟩ := append_of_size_le whole' short
      rw [List.append_assoc] at long
      exact ⟨_, cut_eq_ok.mpr ⟨start, name', more, long, sized, sized', rfl⟩, .inr rfl⟩
    · have unled := unled.resolve_left none
      have unled : l = [] := by
        cases l with
        | nil => rfl
        | cons c l =>
            rw [form] at unled
            exact absurd ((blank c (List.mem_cons_self ..)).symm.trans (unled c rfl)) (by decide)
      refine ⟨_, cut_eq_ok.mpr ⟨before, middle, behind ++ r, ?_, rfl, ?_, rfl⟩, .inl none⟩
      · rw [form, unled, whole]
        simp
      · omega
  levels := by
    intro before rest target scope d whole
    obtain ⟨l, r, form, -, blank⟩ := trimChars_spec part
    have outer : front ++ part ++ back =
        (front ++ l) ++ (before ++ '=' :: rest) ++ (r ++ back) := by
      rw [form, whole]
      simp
    rw [outer]
    apply readLevel_framed
    · intro c member
      rcases List.mem_append.mp member with inner | outer
      · exact blank c inner
      · exact blanks' c outer
    · rcases framed with some | some
      · exact .inl fun none => some (List.append_eq_nil_iff.mp none).1
      · exact .inr fun none => some (List.append_eq_nil_iff.mp none).2

theorem readDirective_framed [Patterns] (blanks : Blanks front) (blanks' : Blanks back)
    (unled : front = [] ∨ ∀ c ∈ part.head?, isBlank c = false)
    (read : readDirective (front ++ part ++ back) = .ok d) :
    Rereads (front ≠ []) (readDirective part) := by
  by_cases framed : front ≠ [] ∨ back ≠ []
  · have same := trimChars_append blanks blanks' part
    have reframes := reframes blanks blanks' unled framed
    rw [← same] at reframes
    exact reframes.readDirective same.symm read
  · obtain ⟨rfl, rfl⟩ := not_or.mp framed |>.imp not_not.mp not_not.mp
    rw [List.nil_append, List.append_nil] at read
    exact .of_ok ⟨d, read⟩

/-! ## Parts of a trimmed text -/

theorem mem_splitOn_framed {front back : List Char} (clean : ',' ∉ front) (clean' : ',' ∉ back)
    {cs part : List Char} (member : part ∈ cs.splitOn ',') :
    ∃ l r, l ++ part ++ r ∈ (front ++ cs ++ back).splitOn ',' ∧
      (l = [] ∨ l = front ∧ part <+: cs) ∧ (r = [] ∨ r = back) := by
  generalize size : cs.length = n
  induction n using Nat.strongRecOn generalizing front cs with
  | ind n ih =>
      by_cases comma : ',' ∈ cs
      · obtain ⟨first, more, rfl, clean''⟩ := List.eq_append_cons_of_mem comma
        rw [List.splitOn_append_cons_self_of_not_mem clean''] at member
        have parts : (front ++ (first ++ ',' :: more) ++ back).splitOn ',' =
            (front ++ first) :: (more ++ back).splitOn ',' := by
          have clean : ',' ∉ front ++ first := fun member =>
            (List.mem_append.mp member).elim clean clean''
          rw [← List.splitOn_append_cons_self_of_not_mem clean]
          simp
        rw [parts]
        rcases List.mem_cons.mp member with rfl | later
        · refine ⟨front, [], ?_, .inr ⟨rfl, List.prefix_append _ _⟩, .inl rfl⟩
          rw [List.append_nil]
          exact List.mem_cons_self ..
        · have shorter : more.length < n := by
            rw [← size, List.length_append, List.length_cons]
            omega
          have unled : ',' ∉ ([] : List Char) := List.not_mem_nil
          obtain ⟨l, r, there, left, right⟩ := ih _ shorter unled later rfl
          have none : l = [] := left.elim id And.left
          exact ⟨l, r, List.mem_cons_of_mem _ there, .inl none, right⟩
      · rw [List.splitOn_eq_singleton comma] at member
        obtain rfl := List.mem_singleton.mp member
        have clean'' : ',' ∉ front ++ part ++ back := by
          intro member
          rcases List.mem_append.mp member with inner | behind
          · exact (List.mem_append.mp inner).elim clean comma
          · exact clean' behind
        refine ⟨front, back, ?_, .inr ⟨rfl, List.prefix_rfl⟩, .inr rfl⟩
        rw [List.splitOn_eq_singleton clean'']
        exact List.mem_singleton_self _

/-! ## Filters -/

/-- The parts of a text that are directives. -/
def parts (s : String) : List (List Char) := (s.toList.splitOn ',').filter (!·.isEmpty)

theorem mem_parts {s : String} : part ∈ parts s ↔ part ∈ s.toList.splitOn ',' ∧ part ≠ [] := by
  simp only [parts, List.mem_filter, Bool.not_eq_eq_eq_not, Bool.not_true,
    List.isEmpty_eq_false_iff]

/-- White space in front of a text. -/
def Led (s : String) : Prop := ∃ c ∈ s.toList.head?, isBlank c

variable [Patterns]

theorem parse_eq (s : String) : parse s = (do return ⟨← (parts s).mapM readDirective⟩) := rfl

theorem readDirective_of_parse {s : String} {f : LogFilter} (accepted : parse s = .ok f)
    (member : part ∈ parts s) : ∃ d, readDirective part = .ok d := by
  rw [parse_eq] at accepted
  obtain ⟨ds, read, -⟩ := bind_eq_ok.mp accepted
  clear accepted
  generalize parts s = xs at member read
  induction xs generalizing ds with
  | nil => cases member
  | cons x xs ih =>
      rw [List.mapM_cons] at read
      obtain ⟨d, first, read⟩ := bind_eq_ok.mp read
      obtain ⟨ds', more, -⟩ := bind_eq_ok.mp read
      rcases List.mem_cons.mp member with rfl | later
      · exact ⟨d, first⟩
      · exact ih ds' later more

/-- A text of a filter is one without the white space at its two ends, too, unless there is some in
front of it and a value of the latter is refused. -/
theorem parse_trim {s : String} {f : LogFilter} (accepted : parse s = .ok f) :
    Rereads (Led s) (parse (trim s)) := by
  rw [parse_eq]
  refine (Rereads.mapM fun part member => ?_).bind fun ds => .read _
  obtain ⟨member, some⟩ := mem_parts.mp member
  obtain ⟨front, back, form, blanks, blanks'⟩ := trimChars_spec s.toList
  have clean : ∀ {cs}, Blanks cs → ',' ∉ cs := fun blanks member =>
    absurd (blanks _ member) (by decide)
  rw [trim, String.toList_ofList] at member
  obtain ⟨l, r, there, left, right⟩ := mem_splitOn_framed (clean blanks) (clean blanks') member
  rw [← form] at there
  have whole : l ++ part ++ r ≠ [] := fun none =>
    some (List.append_eq_nil_iff.mp (List.append_eq_nil_iff.mp none).1).2
  obtain ⟨d, read⟩ := readDirective_of_parse accepted (mem_parts.mpr ⟨there, whole⟩)
  have rereads : Rereads (l ≠ []) (readDirective part) := by
    refine readDirective_framed ?_ ?_ ?_ read
    · rcases left with rfl | ⟨rfl, -⟩
      · exact fun c member => nomatch member
      · exact blanks
    · rcases right with rfl | rfl
      · exact fun c member => nomatch member
      · exact blanks'
    · rcases left with rfl | ⟨rfl, begins⟩
      · exact .inl rfl
      · exact .inr (head?_trimChars begins)
  refine rereads.imp fun led => ?_
  obtain ⟨rfl, -⟩ := left.resolve_left led
  obtain ⟨c, more, rfl⟩ := List.exists_cons_of_ne_nil led
  exact ⟨c, by rw [form]; rfl, blanks c (List.mem_cons_self ..)⟩

end IdService.LogFilter
