import Marginalia.CommandLine.Command

/-!
# What a command line says

A command line spells flags with texts, one after the other, and other arguments
(`Spells`).  Reading follows this.  A command line that can be read spells something
(`exists_spells`), and one that spells something is read as giving each flag its text
in turn (`Spells.read_eq`), so that a flag has the last text that is spelled for it
(`value?_setAll`).
-/

namespace Marginalia.CommandLine

set_option autoImplicit false

/-! ## Spelling -/

/-- The letters after a single dash stand for these flags with these texts. -/
inductive SpellsLetters (flags : List Flag) : Bytes → List (Flag × Bytes) → Prop
  | nil : SpellsLetters flags [] []
  | skipped {word : Bytes} (test : Bytes.startsWith (utf8 "test.") word = true) :
    SpellsLetters flags word []
  | valued {f : Flag} {letter v : UInt8} {value : Bytes}
    (test : ¬ Bytes.startsWith (utf8 "test.") (letter :: 61 :: v :: value) = true)
    (known : (flags.find? fun f => f.letter = some letter) = some f) :
    SpellsLetters flags (letter :: 61 :: v :: value) [(f, v :: value)]
  | bare {f : Flag} {letter : UInt8} {word : Bytes} {given : List (Flag × Bytes)}
    (test : ¬ Bytes.startsWith (utf8 "test.") (letter :: word) = true)
    (known : (flags.find? fun f => f.letter = some letter) = some f)
    (bare : ∀ v value, word ≠ 61 :: v :: value) (more : SpellsLetters flags word given) :
    SpellsLetters flags (letter :: word) ((f, utf8 "true") :: given)

/-- Arguments spell flags with their texts, in this order, and other arguments. -/
inductive Spells (flags : List Flag) : List Bytes → List (Flag × Bytes) → List Bytes → Prop
  | nil : Spells flags [] [] []
  /-- `--` and nothing but other arguments -/
  | stop (rest : List Bytes) : Spells flags (utf8 "--" :: rest) [] rest
  /-- `--name=text` -/
  | joined {f : Flag} {rest : List Bytes} {given : List (Flag × Bytes)} {others : List Bytes}
    (known : (flags.find? fun e => e.name = f.name) = some f) (text : Bytes)
    (more : Spells flags rest given others) :
    Spells flags ((utf8 "--" ++ (f.name ++ 61 :: text)) :: rest) ((f, text) :: given) others
  /-- `--name` -/
  | bare {f : Flag} {rest : List Bytes} {given : List (Flag × Bytes)} {others : List Bytes}
    (known : (flags.find? fun e => e.name = f.name) = some f) (bool : f.isBool = true)
    (more : Spells flags rest given others) :
    Spells flags ((utf8 "--" ++ f.name) :: rest) ((f, utf8 "true") :: given) others
  /-- `--name text` -/
  | next {f : Flag} {rest : List Bytes} {given : List (Flag × Bytes)} {others : List Bytes}
    (known : (flags.find? fun e => e.name = f.name) = some f) (value : ¬ f.isBool = true)
    (text : Bytes) (more : Spells flags rest given others) :
    Spells flags ((utf8 "--" ++ f.name) :: text :: rest) ((f, text) :: given) others
  /-- letters after a single dash -/
  | letters {letter : UInt8} {word : Bytes} {rest : List Bytes} {now given : List (Flag × Bytes)}
    {others : List Bytes} (single : letter ≠ 45) (spelled : SpellsLetters flags (letter :: word) now)
    (more : Spells flags rest given others) :
    Spells flags ((45 :: letter :: word) :: rest) (now ++ given) others
  /-- an argument that is no flag -/
  | other {argument : Bytes} {rest : List Bytes} {given : List (Flag × Bytes)} {others : List Bytes}
    (plain : ∀ b s, argument ≠ 45 :: b :: s) (more : Spells flags rest given others) :
    Spells flags (argument :: rest) given (argument :: others)

/-- A name that can be told from what stands around it. -/
structure Flag.WellNamed (f : Flag) : Prop where
  present : f.name ≠ []
  dash : f.name.head? ≠ some 45
  equals : 61 ∉ f.name

instance (f : Flag) : Decidable f.WellNamed :=
  decidable_of_iff (f.name ≠ [] ∧ f.name.head? ≠ some 45 ∧ 61 ∉ f.name)
    ⟨fun h => ⟨h.1, h.2.1, h.2.2⟩, fun h => ⟨h.present, h.dash, h.equals⟩⟩

/-! ## Names and texts -/

theorem splitEquals_joined {name : Bytes} (equals : 61 ∉ name) (text : Bytes) :
    splitEquals (name ++ 61 :: text) = (name, some text) := by
  have parts : Bytes.cut (utf8 "=") (name ++ 61 :: text) = some (name, text) := by
    induction name with
    | nil => rfl
    | cons b name ih =>
      rw [List.mem_cons, not_or] at equals
      have here : Bytes.after? (utf8 "=") (b :: (name ++ 61 :: text)) = none :=
        if_neg equals.1
      rw [List.cons_append, Bytes.cut, here, ih equals.2]
      rfl
  rw [splitEquals, parts]

theorem splitEquals_bare {name : Bytes} (equals : 61 ∉ name) : splitEquals name = (name, none) := by
  have none : Bytes.cut (utf8 "=") name = none := by
    induction name with
    | nil => rfl
    | cons b name ih =>
      rw [List.mem_cons, not_or] at equals
      have here : Bytes.after? (utf8 "=") (b :: name) = none := if_neg equals.1
      rw [Bytes.cut, here, ih equals.2]
      rfl
  rw [splitEquals, none]

theorem splitEquals_fst_of_some {s text : Bytes} (value : (splitEquals s).2 = some text) :
    s = (splitEquals s).1 ++ 61 :: text := by
  rw [splitEquals] at value ⊢
  cases parts : Bytes.cut (utf8 "=") s with
  | none =>
    rw [parts] at value
    cases value
  | some r =>
    obtain ⟨name, rest⟩ := r
    rw [parts] at value
    obtain rfl := Option.some.inj value
    exact (Bytes.eq_of_cut parts).trans (List.append_assoc _ _ _)

theorem splitEquals_fst_of_none {s : Bytes} (value : (splitEquals s).2 = none) :
    (splitEquals s).1 = s := by
  rw [splitEquals] at value ⊢
  cases parts : Bytes.cut (utf8 "=") s with
  | none => rfl
  | some r =>
    rw [parts] at value
    cases value

/-! ## Reading -/

theorem Except.exists_of_bind_eq_ok {ε α β : Type} {x : Except ε α} {f : α → Except ε β} {b : β}
    (done : x.bind f = .ok b) : ∃ a, x = .ok a ∧ f a = .ok b := by
  cases x with
  | error e => cases done
  | ok a => exact ⟨a, rfl, done⟩

namespace Given

/-- Gives flags their texts in turn. -/
def setAll (g : Given) (given : List (Flag × Bytes)) : Except FlagError Given :=
  given.foldlM (fun g p => g.setFlag p.1 p.2) g

/-- Adds arguments that are no flags. -/
def pushAll (g : Given) (others : List Bytes) : Given := { g with arguments := g.arguments ++ others }

theorem setAll_cons (g : Given) (f : Flag) (text : Bytes) (given : List (Flag × Bytes)) :
    g.setAll ((f, text) :: given) = (g.setFlag f text).bind (·.setAll given) :=
  List.foldlM_cons

theorem setAll_append (g : Given) (now later : List (Flag × Bytes)) :
    g.setAll (now ++ later) = (g.setAll now).bind (·.setAll later) :=
  List.foldlM_append

theorem arguments_setAll {g g' : Given} {given : List (Flag × Bytes)} (done : g.setAll given = .ok g') :
    g'.arguments = g.arguments := by
  induction given generalizing g with
  | nil =>
    obtain rfl := Except.ok.inj done
    rfl
  | cons p given ih =>
    rw [setAll_cons] at done
    obtain ⟨g₁, now, later⟩ := Except.exists_of_bind_eq_ok done
    obtain ⟨v, -, same⟩ := Except.exists_of_bind_eq_ok now
    obtain rfl := Except.ok.inj same
    exact (ih later).trans rfl

/-- Flags do not look at the other arguments. -/
theorem setAll_pushAll (g : Given) (given : List (Flag × Bytes)) (others : List Bytes) :
    (g.pushAll others).setAll given = (g.setAll given).map (·.pushAll others) := by
  induction given generalizing g with
  | nil => rfl
  | cons p given ih =>
    obtain ⟨f, text⟩ := p
    have one : (g.pushAll others).setFlag f text = (g.setFlag f text).map (·.pushAll others) := by
      rw [setFlag, setFlag]
      cases f.value text <;> rfl
    rw [setAll_cons, setAll_cons, one]
    cases g.setFlag f text with
    | error e => rfl
    | ok g' => exact ih g'

end Given

variable {flags : List Flag}

theorem SpellsLetters.read_eq {word : Bytes} {given : List (Flag × Bytes)}
    (spelled : SpellsLetters flags word given) (g : Given) : readLetters flags g word = g.setAll given := by
  induction spelled generalizing g with
  | nil => rfl
  | @skipped word test =>
    cases word with
    | nil => rfl
    | cons letter word =>
      rw [readLetters, if_pos test]
      rfl
  | valued test known =>
    rw [readLetters, if_neg test, known, Given.setAll_cons]
    exact (bind_pure _).symm
  | @bare f letter word given test known bare more ih =>
    rw [readLetters, if_neg test, known, Given.setAll_cons]
    dsimp only
    split
    next v value => exact absurd rfl (bare v value)
    next => exact bind_congr fun g => ih g

/-- An argument of two dashes and a name. -/
theorem read_long {name : Bytes} (present : name ≠ []) (dash : name.head? ≠ some 45)
    (equals : name.head? ≠ some 61) (g : Given) (rest : List Bytes) :
    read flags g ((utf8 "--" ++ name) :: rest) =
      match flags.find? fun f => f.name = (splitEquals name).1 with
      | none => .error (.unknownName (splitEquals name).1)
      | some f =>
        match (splitEquals name).2, rest with
        | some value, rest => (g.setFlag f value).bind fun g => read flags g rest
        | none, rest =>
          if f.isBool then (g.setFlag f (utf8 "true")).bind fun g => read flags g rest
          else
            match rest with
            | [] => .error (.noValue f.name)
            | value :: rest => (g.setFlag f value).bind fun g => read flags g rest := by
  have long : utf8 "--" ++ name = 45 :: 45 :: name := rfl
  rw [long, read.eq_3 _ _ _ _ present]
  rw [if_neg (by simp [dash, equals])]
  rfl

/-- A name stays a name whatever follows it. -/
theorem Flag.WellNamed.append {f : Flag} (named : f.WellNamed) (s : Bytes) :
    f.name ++ s ≠ [] ∧ (f.name ++ s).head? ≠ some 45 ∧ (f.name ++ s).head? ≠ some 61 := by
  obtain ⟨present, dash, equals⟩ := named
  obtain ⟨b, name, shape⟩ := List.exists_cons_of_ne_nil present
  rw [shape] at dash equals ⊢
  refine ⟨List.cons_ne_nil _ _, dash, fun same => equals ?_⟩
  rw [List.cons_append, List.head?_cons] at same
  rw [Option.some.inj same]
  exact List.mem_cons_self

/-- One flag, and what is read after it. -/
theorem bind_read {rest others : List Bytes} {given : List (Flag × Bytes)} {g : Given}
    (later : ∀ g, read flags g rest = (g.setAll given).map (·.pushAll others)) (f : Flag) (text : Bytes) :
    ((g.setFlag f text).bind fun g => read flags g rest)
      = (g.setAll ((f, text) :: given)).map (·.pushAll others) := by
  rw [Given.setAll_cons]
  cases g.setFlag f text with
  | error e => rfl
  | ok g' => exact later g'

/-- **What a command line spells is what is read.** -/
theorem Spells.read_eq (named : ∀ f ∈ flags, f.WellNamed) {args : List Bytes}
    {given : List (Flag × Bytes)} {others : List Bytes} (spelled : Spells flags args given others)
    (g : Given) : read flags g args = (g.setAll given).map (·.pushAll others) := by
  have wellNamed : ∀ {f : Flag}, (flags.find? fun e => e.name = f.name) = some f → f.WellNamed :=
    fun known => named _ (List.mem_of_find?_eq_some known)
  induction spelled generalizing g with
  | nil => simp [read, Given.setAll, Given.pushAll, Except.map, pure, Except.pure]
  | stop rest => rfl
  | @joined f rest given others known text more ih =>
    obtain ⟨present, dash, equals⟩ := (wellNamed known).append (61 :: text)
    rw [read_long present dash equals, splitEquals_joined (wellNamed known).equals, known]
    exact bind_read ih f text
  | @bare f rest given others known bool more ih =>
    obtain ⟨present, dash, equals⟩ := (wellNamed known).append []
    rw [List.append_nil] at present dash equals
    rw [read_long present dash equals, splitEquals_bare (wellNamed known).equals, known]
    dsimp only
    rw [if_pos bool]
    exact bind_read ih f (utf8 "true")
  | @next f rest given others known value text more ih =>
    obtain ⟨present, dash, equals⟩ := (wellNamed known).append []
    rw [List.append_nil] at present dash equals
    rw [read_long present dash equals, splitEquals_bare (wellNamed known).equals, known]
    dsimp only
    rw [if_neg value]
    exact bind_read ih f text
  | @letters letter word rest now given others single spelled more ih =>
    have step : read flags g ((45 :: letter :: word) :: rest)
        = (readLetters flags g (letter :: word)).bind fun g => read flags g rest := by
      rw [read]
      · rfl
      · exact fun same => absurd same single
      · exact single
    rw [step, spelled.read_eq, Given.setAll_append]
    cases g.setAll now with
    | error e => rfl
    | ok g' => exact ih g'
  | @other argument rest given others plain more ih =>
    have step : read flags g (argument :: rest) = read flags (g.pushAll [argument]) rest := by
      rw [read]
      · rfl
      · exact fun same => plain _ _ same
      · exact fun name same => plain _ _ same
      · exact fun b s same => plain b s same
    rw [step, ih, Given.setAll_pushAll]
    cases g.setAll given with
    | error e => rfl
    | ok g' => simp [Except.map, Given.pushAll]

/-- Letters that can be read stand for something. -/
theorem exists_spellsLetters {word : Bytes} {g g' : Given} (done : readLetters flags g word = .ok g') :
    ∃ given, SpellsLetters flags word given := by
  fun_induction readLetters flags g word with
  | case1 g => exact ⟨[], .nil⟩
  | case2 g letter rest test => exact ⟨[], .skipped test⟩
  | case3 g letter rest test unknown => cases done
  | case4 g letter f known v value test => exact ⟨_, .valued test known⟩
  | case5 g letter rest test f known bare ih =>
    obtain ⟨g₁, -, done⟩ := Except.exists_of_bind_eq_ok done
    obtain ⟨given, spelled⟩ := ih g₁ done
    exact ⟨_, .bare test known bare spelled⟩

/-- **A command line that can be read spells something.** -/
theorem exists_spells {args : List Bytes} {g g' : Given} (done : read flags g args = .ok g') :
    ∃ given others, Spells flags args given others := by
  -- The flag that is found for a name has that name.
  have own : ∀ {name : Bytes} {f : Flag}, (flags.find? fun e => e.name = name) = some f →
      f.name = name ∧ (flags.find? fun e => e.name = f.name) = some f := by
    intro name f known
    have same : f.name = name := by simpa using List.find?_some known
    exact ⟨same, by rw [same]; exact known⟩
  fun_induction read flags g args with
  | case1 g => exact ⟨[], [], .nil⟩
  | case2 g rest => exact ⟨[], rest, .stop rest⟩
  | case3 g rest name present syn => cases done
  | case4 g rest name present syn unknown => cases done
  | case5 g name present syn f known value rest parts ih =>
    obtain ⟨g₁, -, done⟩ := Except.exists_of_bind_eq_ok done
    obtain ⟨given, others, spelled⟩ := ih g₁ done
    obtain ⟨same, known⟩ := own known
    have shape : name = f.name ++ 61 :: value := by
      rw [same]
      exact splitEquals_fst_of_some parts
    rw [shape]
    exact ⟨_, others, .joined known value spelled⟩
  | case6 g name present syn f known rest parts bool ih =>
    obtain ⟨g₁, -, done⟩ := Except.exists_of_bind_eq_ok done
    obtain ⟨given, others, spelled⟩ := ih g₁ done
    obtain ⟨same, known⟩ := own known
    rw [← splitEquals_fst_of_none parts, ← same]
    exact ⟨_, others, .bare known bool spelled⟩
  | case7 g name present syn f known parts value => cases done
  | case8 g name present syn f known parts value text rest ih =>
    obtain ⟨g₁, -, done⟩ := Except.exists_of_bind_eq_ok done
    obtain ⟨given, others, spelled⟩ := ih g₁ done
    obtain ⟨same, known⟩ := own known
    rw [← splitEquals_fst_of_none parts, ← same]
    exact ⟨_, others, .next known value text spelled⟩
  | case9 g rest letter letters stop single ih =>
    obtain ⟨g₁, now, done⟩ := Except.exists_of_bind_eq_ok done
    obtain ⟨given, others, spelled⟩ := ih g₁ done
    obtain ⟨given', letters⟩ := exists_spellsLetters now
    exact ⟨_, others, .letters single letters spelled⟩
  | case10 g argument rest stop long letters ih =>
    obtain ⟨given, others, spelled⟩ := ih done
    exact ⟨given, _, .other letters spelled⟩

/-! ## The last text -/

/-- The flag of a name that was given last, and its text. -/
def lastGiven? (given : List (Flag × Bytes)) (name : String) : Option (Flag × Bytes) :=
  given.reverse.find? fun p => p.1.name = utf8 name

/-- **A flag has the last text that it was given.** -/
theorem Given.value?_setAll {g g' : Given} {given : List (Flag × Bytes)} (done : g.setAll given = .ok g')
    (name : String) :
    match lastGiven? given name with
    | some (f, text) => ∃ v, f.value text = .ok v ∧ g'.value? name = some v
    | none => g'.value? name = g.value? name := by
  induction given generalizing g with
  | nil =>
    obtain rfl := Except.ok.inj done
    rfl
  | cons p given ih =>
    obtain ⟨f, text⟩ := p
    rw [setAll_cons] at done
    obtain ⟨g₁, now, later⟩ := Except.exists_of_bind_eq_ok done
    obtain ⟨v, value, rfl⟩ : ∃ v, f.value text = .ok v ∧ g₁ = { g with flags := (f.name, v) :: g.flags } := by
      obtain ⟨v, value, same⟩ := Except.exists_of_bind_eq_ok now
      exact ⟨v, value, (Except.ok.inj same).symm⟩
    have rest := ih later
    have last : lastGiven? ((f, text) :: given) name
        = (lastGiven? given name).or (if f.name = utf8 name then some (f, text) else none) := by
      rw [lastGiven?, List.reverse_cons, List.find?_append]
      by_cases same : f.name = utf8 name
      · rw [if_pos same, List.find?_cons_of_pos (by simpa using same)]
        rfl
      · rw [if_neg same, List.find?_cons_of_neg (by simpa using same)]
        rfl
    rw [last]
    cases later : lastGiven? given name with
    | some q =>
      rw [later] at rest
      exact rest
    | none =>
      rw [later] at rest
      have here : Given.value? { g with flags := (f.name, v) :: g.flags } name
          = if f.name = utf8 name then some v else g.value? name := by
        by_cases same : f.name = utf8 name
        · simp [value?, same]
        · simp [value?, same]
      by_cases same : f.name = utf8 name
      · rw [if_pos same] at here ⊢
        exact ⟨v, value, rest.trans here⟩
      · rw [if_neg same] at here ⊢
        exact rest.trans here

/-- Only flags that are known are spelled. -/
theorem SpellsLetters.mem_flags {word : Bytes} {given : List (Flag × Bytes)}
    (spelled : SpellsLetters flags word given) : ∀ p ∈ given, p.1 ∈ flags := by
  induction spelled with
  | nil => simp
  | skipped test => simp
  | valued test known => simpa using List.mem_of_find?_eq_some known
  | bare test known bare more ih => exact List.forall_mem_cons.2 ⟨List.mem_of_find?_eq_some known, ih⟩

theorem Spells.mem_flags {args : List Bytes} {given : List (Flag × Bytes)} {others : List Bytes}
    (spelled : Spells flags args given others) : ∀ p ∈ given, p.1 ∈ flags := by
  induction spelled with
  | nil => simp
  | stop rest => simp
  | joined known text more ih => exact List.forall_mem_cons.2 ⟨List.mem_of_find?_eq_some known, ih⟩
  | bare known bool more ih => exact List.forall_mem_cons.2 ⟨List.mem_of_find?_eq_some known, ih⟩
  | next known value text more ih =>
    exact List.forall_mem_cons.2 ⟨List.mem_of_find?_eq_some known, ih⟩
  | letters single spelled more ih => exact List.forall_mem_append.2 ⟨spelled.mem_flags, ih⟩
  | other plain more ih => exact ih

/-- The text that a flag was given last. -/
def lastText? (given : List (Flag × Bytes)) (name : String) : Option Bytes :=
  (lastGiven? given name).map Prod.snd

namespace Spells

variable {args : List Bytes} {given : List (Flag × Bytes)} {others : List Bytes} {f : Flag} {name : String}
  {g : Given}

/-- The flag that was given last under a name that one flag has. -/
theorem lastGiven?_eq (spelled : Spells flags args given others)
    (only : ∀ e ∈ flags, e.name = utf8 name → e = f) :
    lastGiven? given name = (lastText? given name).map fun text => (f, text) := by
  rw [lastText?]
  cases last : lastGiven? given name with
  | none => rfl
  | some p =>
    have among : p ∈ given := List.mem_reverse.1 (List.mem_of_find?_eq_some last)
    have named : p.1.name = utf8 name := by simpa using List.find?_some last
    rw [Option.map_some, Option.map_some, ← only p.1 (spelled.mem_flags p among) named]

/-- The value of a flag is that of its last text, which has one; `reads` is how texts are read for
flags of its kind. -/
theorem value?_eq {α : Type} {reads : Bytes → Option α} {value : α → FlagValue}
    (spelled : Spells flags args given others) (only : ∀ e ∈ flags, e.name = utf8 name → e = f)
    (kind : ∀ text, (f.value text).toOption = (reads text).map value)
    (done : ({} : Given).setAll given = .ok g) :
    g.value? name = ((lastText? given name).bind reads).map value ∧
      ∀ text, lastText? given name = some text → reads text ≠ none := by
  have last := Given.value?_setAll done name
  rw [spelled.lastGiven?_eq only] at last
  cases given? : lastText? given name with
  | none =>
    rw [given?] at last
    exact ⟨last, fun text same => nomatch same⟩
  | some text =>
    rw [given?] at last
    obtain ⟨v, read, kept⟩ := last
    have kind := kind text
    rw [read] at kind
    rw [Option.bind_some, kept, ← kind]
    refine ⟨rfl, fun text' same none => ?_⟩
    obtain rfl := Option.some.inj same
    rw [none] at kind
    cases kind

theorem text?_eq (spelled : Spells flags args given others)
    (only : ∀ e ∈ flags, e.name = utf8 name → e = textFlag name)
    (done : ({} : Given).setAll given = .ok g) : g.text? name = lastText? given name := by
  have kind : ∀ text, ((textFlag name).value text).toOption = (some text).map FlagValue.text :=
    fun text => rfl
  rw [Given.text?, (spelled.value?_eq only kind done).1]
  cases lastText? given name <;> rfl

theorem int?_eq (spelled : Spells flags args given others)
    (only : ∀ e ∈ flags, e.name = utf8 name → e = intFlag name)
    (done : ({} : Given).setAll given = .ok g) :
    g.int? name = (lastText? given name).bind (fun text => (int text).toOption) ∧
      ∀ text, lastText? given name = some text → (int text).toOption ≠ none := by
  have kind : ∀ text, ((intFlag name).value text).toOption = (int text).toOption.map FlagValue.int := by
    intro text
    rw [Flag.value]
    cases int text <;> rfl
  obtain ⟨value, readable⟩ := spelled.value?_eq only kind done
  refine ⟨?_, readable⟩
  rw [Given.int?, value]
  cases (lastText? given name).bind fun text => (int text).toOption <;> rfl

theorem bool?_eq (spelled : Spells flags args given others)
    (only : ∀ e ∈ flags, e.name = utf8 name → e = boolFlag name)
    (done : ({} : Given).setAll given = .ok g) :
    g.bool? name = (lastText? given name).bind (fun text => (bool text).toOption) ∧
      ∀ text, lastText? given name = some text → (bool text).toOption ≠ none := by
  have kind : ∀ text,
      ((boolFlag name).value text).toOption = (bool text).toOption.map FlagValue.bool := by
    intro text
    rw [Flag.value]
    cases bool text <;> rfl
  obtain ⟨value, readable⟩ := spelled.value?_eq only kind done
  refine ⟨?_, readable⟩
  rw [Given.bool?, value]
  cases (lastText? given name).bind fun text => (bool text).toOption <;> rfl

end Spells

end Marginalia.CommandLine
