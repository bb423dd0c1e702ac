import Marginalia.CommandLine.Run
import Marginalia.Proofs.CommandLine.Reading
import Marginalia.Proofs.Config.Validated
import Mathlib.Data.List.Find
import Mathlib.Data.List.Permutation

/-!
# Flags over settings

What a command over files does is told by the settings of the project and by the
flags on the command line.  A flag for the limit, the resolver or the cache overrides
its setting, whatever its value.  The two flags that only tell about diagnostics are
switches: without a value that is true they leave the setting alone, so that a given
`false` does not switch off what the settings switch on.  The main statement
(`planOf_overrides`) gives the options from the texts on the command line, says where
this is overriding, and says when there is a plan at all.
-/

namespace Marginalia.CommandLine

set_option autoImplicit false

/-- What a flag and a setting amount to if the flag overrides the setting: what the last text of the
flag reads as, and without the flag the setting. -/
def overridden {α : Type} (given : List (Flag × Bytes)) (name : String) (reads : Bytes → Option α)
    (setting : Option α) : Option α :=
  (lastText? given name).elim setting reads

theorem overridden_eq {α : Type} {given : List (Flag × Bytes)} {name : String}
    {reads : Bytes → Option α} {setting : α}
    (readable : ∀ text, lastText? given name = some text → reads text ≠ none) :
    overridden given name reads (some setting)
      = some (((lastText? given name).bind reads).getD setting) := by
  rw [overridden]
  cases last : lastText? given name with
  | none => rfl
  | some text =>
    obtain ⟨v, value⟩ := Option.ne_none_iff_exists'.1 (readable text last)
    rw [Option.elim_some, Option.bind_some, value, Option.getD_some]

/-! ## Plans -/

/-- What is planned for a target, once the flags and the settings are in order. -/
def planWith (w : World) (g : Given) (target : Bytes) (c : Config) (entry : Entry) (options : Options)
    (color : Bool) : Plan where
  target := target
  isDir := entry.isDir
  options := (Overrides.ofGiven g).options
    { options with jobs := (g.int? "jobs").getD 0, timings := (g.bool? "timings").getD false }
  color := color
  quiet := (g.bool? "quiet").getD false
  cacheDir :=
    if !c.cacheEnabled then none
    else if c.cacheDir.isEmpty then some (Path.join [w.cacheHome, utf8 "docmark"])
    else some c.cacheDir

theorem isSome_cacheDir_planWith (w : World) (g : Given) (target : Bytes) (c : Config) (entry : Entry)
    (options : Options) (color : Bool) :
    (planWith w g target c entry options color).cacheDir.isSome = c.cacheEnabled := by
  rw [planWith]
  cases c.cacheEnabled with
  | false => rfl
  | true => cases c.cacheDir.isEmpty <;> rfl

/-- **When there is a plan, and which.** -/
theorem planOf_eq_ok_iff {w : World} {g : Given} {target : Bytes} {c : Config} {plan : Plan}
    (found : configOf w g target = .ok c) :
    planOf w g target = .ok plan ↔
      ∃ entry options color, w.disk.stat target = .ok entry ∧
        (Overrides.ofGiven g).maxDiagnostics.any (· < 0) = false ∧
        ((Overrides.ofGiven g).config c).options? = some options ∧ colorOf w g = .ok color ∧
        (ProgressMode.parse? ((g.text? "ui").getD (utf8 "auto"))).isNone = false ∧
        planWith w g target ((Overrides.ofGiven g).config c) entry options color = plan := by
  rw [planOf, found]
  cases stat : w.disk.stat target with
  | error e => simp [Except.mapError, bind, Except.bind]
  | ok entry =>
  cases negative : (Overrides.ofGiven g).maxDiagnostics.any (· < 0) with
  | true => simp [Except.mapError, bind, Except.bind, throw, throwThe, MonadExceptOf.throw, negative]
  | false =>
  cases options : ((Overrides.ofGiven g).config c).options? with
  | none =>
    simp [Except.mapError, bind, Except.bind, throw, throwThe, MonadExceptOf.throw, negative, options]
  | some options' =>
  cases color : colorOf w g with
  | error e => simp [Except.mapError, bind, Except.bind, negative, options]
  | ok color' =>
  cases mode : (ProgressMode.parse? ((g.text? "ui").getD (utf8 "auto"))).isNone with
  | true =>
    simp [Except.mapError, bind, Except.bind, throw, throwThe, MonadExceptOf.throw, negative, options,
      mode]
  | false =>
    simp [Except.mapError, bind, Except.bind, pure, Except.pure, negative, options, mode, planWith]

/-! ## The flags of a command line -/

/-- Reads a number. -/
def int? (text : Bytes) : Option Int := (int text).toOption

/-- Reads a truth value. -/
def bool? (text : Bytes) : Option Bool := (bool text).toOption

/-- The flags of `diag` can be told from their values. -/
theorem Command.wellNamed_diag : ∀ f ∈ Command.diag.flags, f.WellNamed := by
  decide

/-- A switch: on if its flag is given a value that is true, or if the setting is on. -/
structure SwitchesOn (given : List (Flag × Bytes)) (name : String) (setting result : Bool) : Prop where
  result_eq : result = (((lastText? given name).bind bool?).getD false || setting)
  /-- The flag overrides the setting but for a given `false` where the setting is on. -/
  overrides_iff : overridden given name bool? (some setting) = some result ↔
    ¬ ((lastText? given name).bind bool? = some false ∧ setting = true)

theorem switchesOn {given : List (Flag × Bytes)} {name : String} {setting : Bool}
    (readable : ∀ text, lastText? given name = some text → bool? text ≠ none) :
    SwitchesOn given name setting (((lastText? given name).bind bool?).getD false || setting) where
  result_eq := rfl
  overrides_iff := by
    rw [overridden_eq readable]
    cases (lastText? given name).bind bool? with
    | none => simp
    | some b => cases b <;> cases setting <;> decide

/-- What is read is what is given to the flags in turn, with the arguments that are no flags. -/
theorem exists_setAll {args rest : List Bytes} {given : List (Flag × Bytes)} {others : List Bytes}
    {g : Given} (command : findCommand args = .ok (.diag, rest))
    (spelled : Spells Command.diag.flags rest given others)
    (accepted : given? args = some (.diag, g)) :
    ∃ g₀, ({} : Given).setAll given = .ok g₀ ∧ g = g₀.pushAll others := by
  rw [given?, command] at accepted
  dsimp only at accepted
  rw [spelled.read_eq Command.wellNamed_diag] at accepted
  cases done : ({} : Given).setAll given with
  | error e =>
    rw [done] at accepted
    cases accepted
  | ok g₀ =>
    rw [done] at accepted
    exact ⟨g₀, rfl, (Prod.mk.inj (Option.some.inj accepted)).2.symm⟩

/-- The flags for settings, from the texts on the command line; each text is one that can be read. -/
theorem overrides_eq {args rest : List Bytes} {given : List (Flag × Bytes)} {others : List Bytes}
    {g : Given} (command : findCommand args = .ok (.diag, rest))
    (spelled : Spells Command.diag.flags rest given others)
    (accepted : given? args = some (.diag, g)) :
    Overrides.ofGiven g = {
      maxDiagnostics := (lastText? given "max-diagnostics").bind int?
      resolver := lastText? given "resolver"
      cache := (lastText? given "cache").bind bool?
      noInfo := (lastText? given "no-info").bind bool?
      warningsAsErrors := (lastText? given "warnings-as-errors").bind bool? } ∧
    g.text? "ui" = lastText? given "ui" ∧
    (∀ text, lastText? given "max-diagnostics" = some text → int? text ≠ none) ∧
    ∀ name ∈ ["cache", "no-info", "warnings-as-errors"],
      ∀ text, lastText? given name = some text → bool? text ≠ none := by
  obtain ⟨g₀, done, rfl⟩ := exists_setAll command spelled accepted
  have maximum : g₀.int? "max-diagnostics" = _ ∧ _ := spelled.int?_eq (by decide) done
  have resolver : g₀.text? "resolver" = _ := spelled.text?_eq (by decide) done
  have cache : g₀.bool? "cache" = _ ∧ _ := spelled.bool?_eq (by decide) done
  have noInfo : g₀.bool? "no-info" = _ ∧ _ := spelled.bool?_eq (by decide) done
  have strict : g₀.bool? "warnings-as-errors" = _ ∧ _ := spelled.bool?_eq (by decide) done
  have ui : g₀.text? "ui" = _ := spelled.text?_eq (by decide) done
  refine ⟨?_, ui, maximum.2, ?_⟩
  · have same : Overrides.ofGiven (g₀.pushAll others) = Overrides.ofGiven g₀ := rfl
    rw [same, Overrides.ofGiven, maximum.1, resolver, cache.1, noInfo.1, strict.1]
    rfl
  · simp only [List.forall_mem_cons]
    exact ⟨cache.2, noInfo.2, strict.2, by simp⟩

/-- Every command line of `diag` that can be read spells its flags and its other arguments. -/
theorem exists_spells_diag {args : List Bytes} {g : Given} (accepted : given? args = some (.diag, g)) :
    ∃ rest given, findCommand args = .ok (.diag, rest) ∧
      Spells Command.diag.flags rest given g.arguments := by
  cases command : findCommand args with
  | error e =>
    rw [given?, command] at accepted
    cases accepted
  | ok found =>
    obtain ⟨c, rest⟩ := found
    have kept := accepted
    rw [given?, command] at kept
    dsimp only at kept
    obtain ⟨g', done, same⟩ := Option.map_eq_some_iff.1 kept
    obtain rfl : c = .diag := (Prod.mk.inj same).1
    cases reading : read Command.diag.flags {} rest with
    | error e =>
      rw [reading] at done
      cases done
    | ok g'' =>
      obtain ⟨given, others, spelled⟩ := exists_spells reading
      obtain ⟨g₀, done, rfl⟩ := exists_setAll command spelled accepted
      have arguments : (g₀.pushAll others).arguments = others := by
        rw [Given.pushAll, Given.arguments_setAll done]
        rfl
      exact ⟨rest, given, rfl, by rw [arguments]; exact spelled⟩

/-- The options that the settings and the flags amount to, before the switches. -/
theorem options?_overrides {args rest : List Bytes} {given : List (Flag × Bytes)}
    {others : List Bytes} {g : Given} (command : findCommand args = .ok (.diag, rest))
    (spelled : Spells Command.diag.flags rest given others)
    (accepted : given? args = some (.diag, g)) (c : Config) :
    ((Overrides.ofGiven g).config c).options? =
      (overridden given "resolver" ResolverKind.parse? (ResolverKind.parse? c.resolver)).map fun resolver =>
        { normalize := c.normalize, resolver, patterns := c.patterns, extensions := c.extensions,
          maxDiagnostics := ((lastText? given "max-diagnostics").bind int?).getD c.maxDiagnostics,
          ignoreInfo := c.ignoreInfo, warningsAsErrors := c.warningsAsErrors } := by
  have resolver : overridden given "resolver" ResolverKind.parse? (ResolverKind.parse? c.resolver)
      = ResolverKind.parse? ((lastText? given "resolver").getD c.resolver) := by
    rw [overridden]
    cases lastText? given "resolver" <;> rfl
  rw [(overrides_eq command spelled accepted).1, resolver]
  rfl

/-- No limit is refused unless it is given and negative. -/
theorem any_negative_eq_false_iff {args rest : List Bytes} {given : List (Flag × Bytes)}
    {others : List Bytes} {g : Given} (command : findCommand args = .ok (.diag, rest))
    (spelled : Spells Command.diag.flags rest given others)
    (accepted : given? args = some (.diag, g)) :
    (Overrides.ofGiven g).maxDiagnostics.any (· < 0) = false ↔
      ∀ n, (lastText? given "max-diagnostics").bind int? = some n → 0 ≤ n := by
  rw [(overrides_eq command spelled accepted).1]
  cases (lastText? given "max-diagnostics").bind int? with
  | none => simp
  | some n => simp

/-- **Flags over settings.**  For every command line of `diag` and all settings: the limit, the
resolver and the use of a cache are what their flags say, and what the settings say where there is no
flag.  The two switches are overridden, too, except by a `false` that is given where the setting is
on; there the setting stays on.  There is a plan exactly if the target is there and the values of the
flags are ones that the program knows. -/
theorem planOf_overrides {w : World} {args : List Bytes} {target : Bytes} {g : Given} {c : Config}
    (accepted : given? args = some (.diag, g)) (only : g.arguments = [target])
    (found : configOf w g target = .ok c) :
    (∃ rest given, findCommand args = .ok (.diag, rest) ∧
      Spells Command.diag.flags rest given [target]) ∧
    ∀ rest given, findCommand args = .ok (.diag, rest) → Spells Command.diag.flags rest given [target] →
      ((∃ plan, planOf w g target = .ok plan) ↔
        (∃ entry, w.disk.stat target = .ok entry) ∧
        (∀ n, (lastText? given "max-diagnostics").bind int? = some n → 0 ≤ n) ∧
        overridden given "resolver" ResolverKind.parse? (ResolverKind.parse? c.resolver) ≠ none ∧
        (∃ color, colorOf w g = .ok color) ∧
        (ProgressMode.parse? ((lastText? given "ui").getD (utf8 "auto"))).isNone = false) ∧
      ∀ plan, planOf w g target = .ok plan →
        overridden given "max-diagnostics" int? (some c.maxDiagnostics)
          = some plan.options.maxDiagnostics ∧
        overridden given "resolver" ResolverKind.parse? (ResolverKind.parse? c.resolver)
          = some plan.options.resolver ∧
        overridden given "cache" bool? (some c.cacheEnabled) = some plan.cacheDir.isSome ∧
        SwitchesOn given "no-info" c.ignoreInfo plan.options.ignoreInfo ∧
        SwitchesOn given "warnings-as-errors" c.warningsAsErrors plan.options.warningsAsErrors := by
  refine ⟨?_, fun rest given command spelled => ?_⟩
  · rw [← only]
    exact exists_spells_diag accepted
  obtain ⟨overrides, ui, maximum, truths⟩ := overrides_eq command spelled accepted
  have options := options?_overrides command spelled accepted c
  have negative := any_negative_eq_false_iff command spelled accepted
  refine ⟨?_, fun plan made => ?_⟩
  · rw [← negative, ← ui]
    constructor
    · rintro ⟨plan, made⟩
      obtain ⟨entry, options', color, stat, positive, some', colored, mode, -⟩ :=
        (planOf_eq_ok_iff found).1 made
      refine ⟨⟨entry, stat⟩, positive, fun none => ?_, ⟨color, colored⟩, mode⟩
      rw [options, none] at some'
      cases some'
    · rintro ⟨⟨entry, stat⟩, positive, resolved, ⟨color, colored⟩, mode⟩
      obtain ⟨kind, resolved⟩ := Option.ne_none_iff_exists'.1 resolved
      rw [resolved] at options
      exact ⟨_, (planOf_eq_ok_iff found).2
        ⟨entry, _, color, stat, positive, options, colored, mode, rfl⟩⟩
  · obtain ⟨entry, options', color, -, -, some', -, -, rfl⟩ := (planOf_eq_ok_iff found).1 made
    rw [options, Option.map_eq_some_iff] at some'
    obtain ⟨kind, resolved, rfl⟩ := some'
    rw [overridden_eq maximum, resolved, overridden_eq (truths "cache" (by decide)),
      isSome_cacheDir_planWith, planWith, Overrides.options, overrides]
    exact ⟨rfl, rfl, rfl, switchesOn (truths "no-info" (by decide)),
      switchesOn (truths "warnings-as-errors" (by decide))⟩

end CommandLine

/-! ## Settings in a file -/

/-- An empty text chooses the default. -/
theorem ResolverKind.parse?_nil : ResolverKind.parse? [] = some .auto := by
  rw [ResolverKind.parse?, Bytes.trim_nil, Unicode.lower_nil]
  rfl

theorem ProgressMode.parse?_nil : ProgressMode.parse? [] = some .auto := by
  rw [ProgressMode.parse?, Unicode.lower_nil, Bytes.trim_nil]
  rfl

namespace Config

theorem isNamed_self (name : String) : isNamed name (utf8 name) = true := by
  rw [isNamed, Bytes.equalFold]
  exact beq_self_eq_true _

/-- Names of different lengths are different without regard to case, too. -/
theorem isNamed_of_length_ne {name key : String} (differ : name.toList.length ≠ key.toList.length) :
    isNamed name (utf8 key) = false := by
  have length : ∀ s : String, (Utf8.chars (utf8 s)).length = s.toList.length :=
    fun s => congrArg List.length (Utf8.chars_ofChars s.toList)
  rw [isNamed, Bytes.equalFold, beq_eq_false_iff_ne]
  intro same
  have lengths := congrArg List.length same
  rw [List.length_map, List.length_map, length, length] at lengths
  exact differ lengths

/-- A key is found as its name if the other names have other lengths. -/
theorem find?_isNamed {α : Type} {name : α → String} {entries : List α} {key : String}
    (lengths : ∀ e ∈ entries, name e = key ∨ (name e).toList.length ≠ key.toList.length) :
    (entries.find? fun e => isNamed (name e) (utf8 key)) = entries.find? fun e => name e = key := by
  refine List.find?_congr fun e member => ?_
  rcases lengths e member with rfl | differ
  · rw [isNamed_self, decide_eq_true rfl]
  · have other : name e ≠ key := fun same => differ (by rw [same])
    rw [isNamed_of_length_ne differ, decide_eq_false other]

theorem readSections_cons {r r' : Reading} {key : Bytes} {inner entries : Toml.Table}
    {named : String × List Setting} (found : (sections.find? fun s => isNamed s.1 key) = some named)
    (inside : readSection named.2 key { r with used := [key] :: r.used } inner = some r') :
    readSections r ((key, .table inner) :: entries) = readSections r' entries := by
  obtain ⟨name, settings⟩ := named
  rw [readSections, found]
  simp only [inside, Option.bind_eq_bind, Option.bind_some]

theorem readSection_cons {settings : List Setting} {name key : Bytes} {r : Reading} {v : Toml.Value}
    {entries : Toml.Table} {s : Setting} {config : Config}
    (found : (settings.find? fun s => isNamed s.name key) = some s)
    (done : s.apply r.config v = some config) :
    readSection settings name r ((key, v) :: entries)
      = readSection settings name { config, used := [name, key] :: r.used } entries := by
  rw [readSection, found]
  simp only [done, Option.bind_eq_bind, Option.bind_some]

/-- A text in lower case has a byte at least for each character. -/
theorem length_chars_le_lower (s : Bytes) : (Utf8.chars s).length ≤ (Unicode.lower s).length := by
  rw [Unicode.lower]
  induction Utf8.chars s with
  | nil => exact Nat.zero_le _
  | cons c cs ih =>
    obtain ⟨b, tail, bytes, -⟩ := Utf8.exists_decodeChar? (Unicode.toLower c) []
    have one : Utf8.ofChars ((c :: cs).map Unicode.toLower)
        = b :: (tail ++ Utf8.ofChars (cs.map Unicode.toLower)) :=
      congrArg (· ++ Utf8.ofChars (cs.map Unicode.toLower)) bytes
    rw [one, List.length_cons, List.length_cons, List.length_append]
    omega

/-- Extensions of more than one character are right. -/
theorem exists_extensions? {texts : List Bytes} (index : Nat)
    (long : ∀ text ∈ texts, 1 < (Utf8.chars (Bytes.trim text)).length) :
    ∃ extensions, extensions? index texts = .ok extensions := by
  induction texts generalizing index with
  | nil => exact ⟨[], rfl⟩
  | cons text texts ih =>
    rw [List.forall_mem_cons] at long
    obtain ⟨rest, done⟩ := ih (index + 1) long.2
    have size := Nat.lt_of_lt_of_le long.1 (length_chars_le_lower _)
    obtain ⟨e, right⟩ : ∃ e, extension? text = some e := by
      simp only [extension?]
      generalize Unicode.lower (Bytes.trim text) = e at size
      have right : (decide (e = []) || decide (e = utf8 ".")) = false := by
        rw [Bool.or_eq_false_iff, decide_eq_false_iff_not, decide_eq_false_iff_not]
        constructor
        · rintro rfl
          cases size
        · rintro rfl
          exact absurd size (by decide)
      rw [if_neg (Bool.eq_false_iff.1 right)]
      split
      next => exact ⟨_, rfl⟩
      next => exact ⟨_, rfl⟩
    rw [extensions?, right, done]
    exact ⟨_, rfl⟩

/-- A file of settings that is in order. -/
theorem ofText_eq {path text : Bytes} {doc : Toml.Document} {r : Reading} {c : Config}
    (document : Toml.Document.ofText? text = some doc)
    (taken : readSections { config := standard } doc.root = some r) (used : ∀ k ∈ doc.keys, k ∈ r.used)
    (extensions : r.config.extensions ≠ []) (valid : { r.config with path }.validate = .ok c)
    (dir : c.cacheDir = []) : ofText path text = .ok c := by
  have known : (doc.keys.filter fun k => !r.used.contains k) = [] := by
    rw [List.filter_eq_nil_iff]
    intro k member
    simpa using used k member
  simp only [ofText, document, taken, known, valid, dir]
  simp [extensions]

theorem long_defaultExtensions :
    ∀ text ∈ defaultExtensions, 1 < (Utf8.chars (Bytes.trim text)).length := by
  decide +kernel

end Config

namespace CommandLine

/-! ## A `false` that is not heard -/

/-- Settings that leave the choice of a resolver open and leave out what is informative. -/
def quietSettings : String := "[scan]\nresolver=\"\"\n[diagnostics]\nignore_info=true"

/-- A file, and these settings beside it. -/
def quietProject : World where
  disk :=
    { entries := [([utf8 "a.js"], .file (utf8 "//--\n")),
        ([utf8 "docmark.toml"], .file (utf8 quietSettings))] }

theorem find_quietProject :
    quietProject.disk.find true (utf8 "a.js") = .ok ([utf8 "a.js"], .file (utf8 "//--\n")) ∧
    quietProject.disk.find true (utf8 "/a.js") = .ok ([utf8 "a.js"], .file (utf8 "//--\n")) ∧
    quietProject.disk.find true (utf8 "/docmark.toml")
      = .ok ([utf8 "docmark.toml"], .file (utf8 quietSettings)) := by
  have starts : quietProject.disk.start (utf8 "a.js") = .ok ([utf8 "a.js"], []) ∧
      quietProject.disk.start (utf8 "/a.js") = .ok ([[], utf8 "a.js"], []) ∧
      quietProject.disk.start (utf8 "/docmark.toml") = .ok ([[], utf8 "docmark.toml"], []) :=
    ⟨rfl, rfl, rfl⟩
  have entries : quietProject.disk.at? [utf8 "a.js"] = some (.file (utf8 "//--\n")) ∧
      quietProject.disk.at? [utf8 "docmark.toml"] = some (.file (utf8 quietSettings)) :=
    ⟨rfl, rfl⟩
  have names : ∀ name ∈ [utf8 "a.js", utf8 "docmark.toml"],
      ¬ (name = [] ∨ name = Path.here) ∧ name ≠ Path.up ∧ ¬ 255 < name.length := by
    decide
  simp [Disk.find, starts, Disk.walk, entries, names]

theorem document_quietSettings :
    Toml.Document.ofText? (utf8 quietSettings) = some
      { root := [(utf8 "scan", .table [(utf8 "resolver", .text [])]),
          (utf8 "diagnostics", .table [(utf8 "ignore_info", .bool true)])]
        written := [[utf8 "diagnostics", utf8 "ignore_info"], [utf8 "diagnostics"],
          [utf8 "scan", utf8 "resolver"], [utf8 "scan"]] } := by
  have mark : Toml.dropMark (utf8 quietSettings) = utf8 quietSettings := by decide
  have chars : Utf8.chars (utf8 quietSettings) = quietSettings.toList :=
    Utf8.chars_ofChars quietSettings.toList
  have statements : Toml.statementsOfText? (utf8 quietSettings) = some
      [.table [utf8 "scan"], .assign [utf8 "resolver"] (.text []), .table [utf8 "diagnostics"],
       .assign [utf8 "ignore_info"] (.bool true)] := by
    simp only [Toml.statementsOfText?, mark, chars]
    cbv
  rw [Toml.Document.ofText?, statements, Option.bind_some]
  rfl

theorem readSections_quietSettings :
    Config.readSections { config := Config.standard }
      [(utf8 "scan", .table [(utf8 "resolver", .text [])]),
       (utf8 "diagnostics", .table [(utf8 "ignore_info", .bool true)])]
      = some
        { config := { Config.standard with resolver := [], ignoreInfo := true }
          used := [[utf8 "diagnostics", utf8 "ignore_info"], [utf8 "diagnostics"],
            [utf8 "scan", utf8 "resolver"], [utf8 "scan"]] } := by
  have scan : (Config.sections.find? fun s => Config.isNamed s.1 (utf8 "scan"))
      = Config.sections[0]? :=
    Config.find?_isNamed (by decide)
  have diagnostics : (Config.sections.find? fun s => Config.isNamed s.1 (utf8 "diagnostics"))
      = Config.sections[1]? :=
    Config.find?_isNamed (by decide)
  have resolver : ((Config.sections.get ⟨0, by decide⟩).2.find? fun s =>
      Config.isNamed s.name (utf8 "resolver")) = (Config.sections.get ⟨0, by decide⟩).2[2]? :=
    Config.find?_isNamed (by decide)
  have ignoreInfo : ((Config.sections.get ⟨1, by decide⟩).2.find? fun s =>
      Config.isNamed s.name (utf8 "ignore_info")) = (Config.sections.get ⟨1, by decide⟩).2[1]? :=
    Config.find?_isNamed (by decide)
  exact (Config.readSections_cons scan ((Config.readSection_cons resolver rfl).trans rfl)).trans
    (Config.readSections_cons diagnostics ((Config.readSection_cons ignoreInfo rfl).trans rfl))

theorem ofText_quietSettings (path : Bytes) :
    ∃ extensions, Config.ofText path (utf8 quietSettings)
      = .ok { Config.standard with extensions, resolver := [], ignoreInfo := true, path } := by
  obtain ⟨extensions, usual⟩ := Config.exists_extensions? 0 Config.long_defaultExtensions
  refine ⟨extensions, ?_⟩
  have valid : ({ Config.standard with resolver := [], ignoreInfo := true, path } : Config).validate
      = .ok { Config.standard with extensions, resolver := [], ignoreInfo := true, path } :=
    Config.validate_eq_ok_iff.2
      ⟨⟨_, ResolverKind.parse?_nil⟩, rfl, Int.natCast_nonneg 100, extensions, usual, rfl⟩
  exact Config.ofText_eq document_quietSettings readSections_quietSettings (by decide) (by decide)
    valid rfl

/-- The settings that hold for the file. -/
theorem configOf_quietProject (g : Given) (usual : g.text? "config" = none) :
    ∃ extensions, configOf quietProject g (utf8 "a.js") = .ok
      { Config.standard with
        extensions, resolver := [], ignoreInfo := true, path := utf8 "/docmark.toml" } := by
  obtain ⟨-, absolute, settings⟩ := find_quietProject
  have path : Path.absolute quietProject.disk.cwd
      (if (utf8 "a.js").isEmpty then utf8 "." else utf8 "a.js") = utf8 "/a.js" := by
    decide
  have above : Path.ancestors (utf8 "/") = [utf8 "/"] := by decide
  have candidate : Path.join [utf8 "/", Config.fileName] = utf8 "/docmark.toml" := by decide
  have start : Config.startDirectory quietProject.disk.stat quietProject.disk.cwd (utf8 "a.js")
      = utf8 "/" := by
    rw [Config.startDirectory, path, Disk.stat, absolute]
    decide
  have there : Config.find quietProject.disk.stat quietProject.disk.cwd (utf8 "a.js")
      = .ok (some (utf8 "/docmark.toml")) := by
    rw [Config.find, start, above, Config.findIn, candidate, Disk.stat, settings]
  obtain ⟨extensions, loaded⟩ := ofText_quietSettings (utf8 "/docmark.toml")
  refine ⟨extensions, ?_⟩
  rw [configOf, usual]
  simp only [Option.getD_none, List.isEmpty_nil, if_true]
  rw [Config.discover, there]
  simp only [Config.load]
  rw [Disk.read, settings]
  simp only [loaded]
  rfl

/-- A command line that asks for what is informative. -/
def unheard : List Bytes := [utf8 "diag", utf8 "--no-info=false", utf8 "--ui=", utf8 "a.js"]

theorem findCommand_unheard : findCommand unheard = .ok (.diag, unheard.tail) := by
  have word : firstWord? commonFlags unheard = some (utf8 "diag") := by decide
  have dropped : dropWord commonFlags (utf8 "diag") unheard = unheard.tail := by decide
  have name : Command.ofName? (utf8 "diag") = some .diag := by decide
  rw [findCommand, word]
  simp only [name, dropped]

theorem spells_unheard : Spells Command.diag.flags unheard.tail
    [(boolFlag "no-info", utf8 "false"), (textFlag "ui", [])] [utf8 "a.js"] := by
  refine .joined (f := boolFlag "no-info") (by decide) (utf8 "false") ?_
  refine .joined (f := textFlag "ui") (by decide) [] (.other ?_ .nil)
  intro b s same
  have dash : (utf8 "a.js").head? ≠ some 45 := by decide
  rw [same] at dash
  exact dash rfl

theorem given?_unheard : given? unheard = some (.diag,
    { flags := [(utf8 "ui", .text []), (utf8 "no-info", .bool false)], arguments := [utf8 "a.js"] }) := by
  rw [given?, findCommand_unheard]
  dsimp only
  rw [spells_unheard.read_eq Command.wellNamed_diag]
  rfl

/-- The flag says that informative diagnostics are wanted, the settings say that they are not, and the
settings prevail. -/
theorem planOf_overrides_unheard :
    ∃ g c plan, findCommand unheard = .ok (.diag, unheard.tail) ∧
      Spells Command.diag.flags unheard.tail
        [(boolFlag "no-info", utf8 "false"), (textFlag "ui", [])] [utf8 "a.js"] ∧
      given? unheard = some (.diag, g) ∧ configOf quietProject g (utf8 "a.js") = .ok c ∧
      c.ignoreInfo = true ∧ planOf quietProject g (utf8 "a.js") = .ok plan ∧
      overridden [(boolFlag "no-info", utf8 "false"), (textFlag "ui", [])] "no-info" bool?
        (some c.ignoreInfo) = some false ∧
      plan.options.ignoreInfo = true := by
  obtain ⟨extensions, found⟩ := configOf_quietProject
    { flags := [(utf8 "ui", .text []), (utf8 "no-info", .bool false)], arguments := [utf8 "a.js"] } rfl
  have main := (planOf_overrides given?_unheard rfl found).2 _ _ findCommand_unheard spells_unheard
  have texts : lastText? [(boolFlag "no-info", utf8 "false"), (textFlag "ui", [])] "no-info"
        = some (utf8 "false") ∧
      lastText? [(boolFlag "no-info", utf8 "false"), (textFlag "ui", [])] "ui" = some [] ∧
      lastText? [(boolFlag "no-info", utf8 "false"), (textFlag "ui", [])] "max-diagnostics" = none ∧
      lastText? [(boolFlag "no-info", utf8 "false"), (textFlag "ui", [])] "resolver" = none := by
    decide
  obtain ⟨noInfo, ui, maximum, resolver⟩ := texts
  have false' : bool? (utf8 "false") = some false := by decide
  have there : quietProject.disk.stat (utf8 "a.js") = .ok (.file (utf8 "//--\n")) := by
    rw [Disk.stat, find_quietProject.1]
  obtain ⟨plan, made⟩ := main.1.2 (by
    rw [maximum, overridden, resolver, ui, Option.elim_none, Option.getD_some,
      ResolverKind.parse?_nil, ProgressMode.parse?_nil]
    exact ⟨⟨_, there⟩, fun n none => (nomatch none), Option.some_ne_none _, ⟨false, rfl⟩, rfl⟩)
  obtain ⟨-, -, -, switch, -⟩ := main.2 plan made
  refine ⟨_, _, plan, findCommand_unheard, spells_unheard, given?_unheard, found, rfl, made, ?_, ?_⟩
  · rw [overridden, noInfo, Option.elim_some, false']
  · rw [switch.result_eq]
    exact Bool.or_true _

end Marginalia.CommandLine
