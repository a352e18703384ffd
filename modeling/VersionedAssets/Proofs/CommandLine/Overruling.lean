import VersionedAssets.CommandLine
import VersionedAssets.Proofs.CommandLine.Options

/-! # Options overrule the environment

An option stands in the place of a variable of the environment. What the variable holds then never
reaches the settings, but the environment is read in full before it is overruled: a variable that
should write an integer and does not is a fault in spite of its option.
-/

namespace VersionedAssets.CommandLine

open Attempt

/-- The keys of the options that overrule variables of the environment, each with its variable. -/
def overruledBy : List (String × String) := [
  ("host", "ASSETS_HOST"), ("port", "ASSETS_PORT"), ("public_dir", "ASSETS_PUBLIC_DIR"),
  ("public_url_path", "ASSETS_PUBLIC_URL_PATH"), ("resource_package", "ASSETS_PACKAGE"),
  ("webjars_package", "ASSETS_WEBJARS_PACKAGE"), ("cache_max_age", "ASSETS_CACHE_MAX_AGE"),
  ("dev", "ASSETS_PRODUCTION"), ("log_level", "ASSETS_LOG_LEVEL"),
  ("log_format", "ASSETS_LOG_FORMAT")]

/-- Every variable that is read has its option. -/
example : overruledBy.map (·.2) = Config.variableNames := rfl

/-- The variables that have to write integers, in the order in which they are read. -/
def integerNames : List String := ["ASSETS_PORT", "ASSETS_CACHE_MAX_AGE"]

/-- The fault of a variable that should write an integer and does not. -/
def unreadable? (env : Variables) (name : String) : Option Fault :=
  (env.lookup name).bind fun text =>
    match Text.Numeral.read text with
    | .ok _ => none
    | .error fault => some (.config (.environment fault))

/-- The fault of the first variable that should write an integer and does not. -/
def integerFault? (env : Variables) : Option Fault := integerNames.findSome? (unreadable? env)

namespace Invocation

variable {invocation : Invocation} {env other : Variables}

/-- An option that stands in the place of the variable is given. -/
def Overrules (invocation : Invocation) (name : String) : Prop :=
  ∃ key, (key, name) ∈ overruledBy ∧ (invocation.find? key).isSome

/-- The environments agree on all variables that no option overrules. -/
def Agree (invocation : Invocation) (env other : Variables) : Prop :=
  ∀ name ∈ Config.variableNames, ¬ invocation.Overrules name → env.lookup name = other.lookup name

/-- Every setting under the key is blank or writes an integer. -/
def WritesIntegers (invocation : Invocation) (key : String) : Prop :=
  ∀ setting ∈ invocation.settings, setting.key = key →
    ∀ text, setting.value = some text → isInteger text = true

/-! ## One setting -/

section

variable {key text : String} {a b : String} {m n : Int} {source twin : Option String}

theorem text_congr (hother : invocation.find? key = none → a = b) :
    invocation.text key a = invocation.text key b := by
  unfold text isBlank get?
  cases hfind : invocation.find? key with
  | none => rw [hother hfind]
  | some setting => cases hvalue : setting.value <;> simp [hvalue]

theorem source?_congr (hother : invocation.find? key = none → source = twin) :
    invocation.source? key source = invocation.source? key twin := by
  unfold source? isBlank get?
  cases hfind : invocation.find? key with
  | none => rw [hother hfind]
  | some setting => cases hvalue : setting.value <;> simp [hvalue]

/-- An integer that an option does not write would come from the environment after all. -/
theorem number_congr (hwrites : invocation.WritesIntegers key)
    (hother : invocation.find? key = none → m = n) :
    invocation.number key m = invocation.number key n := by
  unfold number isBlank int? get?
  cases hfind : invocation.find? key with
  | none => rw [hother hfind]
  | some setting =>
      cases hvalue : setting.value with
      | none => simp [hvalue]
      | some text =>
          have hmem : setting ∈ invocation.settings :=
            List.mem_reverse.mp (List.mem_of_find?_eq_some hfind)
          have hkey : setting.key = key := by simpa using List.find?_some hfind
          have hinteger := hwrites setting hmem hkey text hvalue
          unfold isInteger at hinteger
          split at hinteger
          next integer hread => simp [hvalue, hread, Except.toOption]
          next => cases hinteger

end

/-! ## The settings that parsing makes -/

/-- The options under the key take integers and nothing else. -/
def AsksIntegers (grammar : Grammar) (key : String) : Prop :=
  ∀ spec ∈ grammar.options, spec.key = key → ∃ shown, spec.kind = .value shown isInteger

theorem asksIntegers {used : Grammar} {key : String}
    (hused : used ∈ [grammar, serveGrammar, versionGrammar])
    (hkey : key ∈ ["port", "cache_max_age"]) : AsksIntegers used key := by
  simp only [List.mem_cons, List.not_mem_nil, or_false] at hused hkey
  rcases hused with rfl | rfl | rfl <;> rcases hkey with rfl | rfl <;>
    simp [AsksIntegers, grammar, serveGrammar, versionGrammar, helpOption, valueOption,
      choiceOption]

theorem writesIntegers_of_makes {used : Grammar} {settings : List Setting} {key : String}
    (hmakes : used.Makes settings) (hasks : AsksIntegers used key) :
    ∀ setting ∈ settings, setting.key = key →
      ∀ text, setting.value = some text → isInteger text = true := by
  intro setting hsetting hkey text hvalue
  obtain ⟨spec, hspec, hspecKey, hmade⟩ := hmakes setting hsetting
  obtain ⟨shown, hkind⟩ := hasks spec hspec (by rw [← hspecKey, hkey])
  rw [hkind] at hmade
  exact hmade text hvalue

/-- The settings of a command are made by the options of its own grammar. -/
theorem makes_readCommand {arguments : List String} {command : Command} {inner : Parsed}
    (hread : readCommand arguments = .ok (command, inner)) :
    ∃ used ∈ [grammar, serveGrammar, versionGrammar], used.Makes inner.settings := by
  unfold readCommand at hread
  split at hread
  next =>
    obtain ⟨⟩ := hread
    exact ⟨grammar, by simp, by simp [Grammar.Makes]⟩
  next =>
    split at hread
    next =>
      obtain ⟨parsed, hparsed, heq⟩ := map_eq_ok_iff.mp hread
      obtain ⟨rfl, rfl⟩ := Prod.mk.inj heq
      exact ⟨serveGrammar, by simp, Grammar.makes_parse hparsed⟩
    next =>
      split at hread
      next =>
        obtain ⟨parsed, hparsed, heq⟩ := map_eq_ok_iff.mp hread
        obtain ⟨rfl, rfl⟩ := Prod.mk.inj heq
        exact ⟨versionGrammar, by simp, Grammar.makes_parse hparsed⟩
      next => cases hread

/-- A number that parsing lets through is one that the settings can hold. -/
theorem writesIntegers_of_parse {arguments : List String} {key : String}
    (hparse : parse arguments = .ok invocation) (hkey : key ∈ ["port", "cache_max_age"]) :
    invocation.WritesIntegers key := by
  obtain ⟨parsed, hparsed, hparse⟩ := bind_eq_ok_iff.mp hparse
  obtain ⟨⟨command, inner⟩, hcommand, hparse⟩ := bind_eq_ok_iff.mp hparse
  dsimp only at hparse
  split at hparse
  next =>
    obtain ⟨⟩ := hparse
    obtain ⟨used, hused, hinner⟩ := makes_readCommand hcommand
    intro setting hsetting
    rcases List.mem_append.mp hsetting with houter | hsetting
    · exact writesIntegers_of_makes (Grammar.makes_parse hparsed)
        (asksIntegers (by simp) hkey) setting houter
    · exact writesIntegers_of_makes hinner (asksIntegers hused hkey) setting hsetting
  next => cases hparse

/-! ## Reading the environment -/

theorem readInt_eq_error_iff {name : String} {fallback : Int} {fault : Fault} :
    Config.readInt env name fallback = .error fault ↔ unreadable? env name = some fault := by
  unfold Config.readInt unreadable?
  cases env.lookup name with
  | none => simp
  | some text => cases hread : Text.Numeral.read text <;> simp [hread]

theorem exists_readInt_eq_ok_iff {name : String} {fallback : Int} :
    (∃ n, Config.readInt env name fallback = .ok n) ↔ unreadable? env name = none := by
  unfold Config.readInt unreadable?
  cases env.lookup name with
  | none => simp
  | some text => cases hread : Text.Numeral.read text <;> simp [hread]

/-- Reading the environment fails at an integer, and nowhere else. -/
theorem ofVariables_eq_error_iff {fault : Fault} :
    Config.ofVariables env = .error fault ↔ integerFault? env = some fault := by
  have hport : Config.readInt env "ASSETS_PORT" 8080 = .error fault ↔
      unreadable? env "ASSETS_PORT" = some fault := readInt_eq_error_iff
  have hage : Config.readInt env "ASSETS_CACHE_MAX_AGE" 3600 = .error fault ↔
      unreadable? env "ASSETS_CACHE_MAX_AGE" = some fault := readInt_eq_error_iff
  have hread : (∃ n, Config.readInt env "ASSETS_PORT" 8080 = .ok n) ↔
      unreadable? env "ASSETS_PORT" = none := exists_readInt_eq_ok_iff
  unfold Config.ofVariables integerFault? integerNames
  simp only [bind_eq_error_iff, pure, Except.pure, hport, hage, reduceCtorEq, and_false,
    exists_false, or_false, exists_and_right, hread, List.findSome?_cons, List.findSome?_nil]
  cases unreadable? env "ASSETS_PORT" with
  | some found => simp
  | none => cases unreadable? env "ASSETS_CACHE_MAX_AGE" <;> simp

/-! ## Two environments -/

/-- A variable in whose place no option stands is the same in both. -/
theorem Agree.lookup_eq (hagree : invocation.Agree env other) :
    ∀ entry ∈ overruledBy, invocation.find? entry.1 = none →
      env.lookup entry.2 = other.lookup entry.2 := by
  intro entry hentry hfind
  refine hagree entry.2 (List.mem_map_of_mem hentry) ?_
  rintro ⟨key, hkey, hsome⟩
  -- each variable stands under one key only
  have hone : ∀ one ∈ overruledBy, ∀ two ∈ overruledBy, one.2 = two.2 → one = two := by decide
  rw [show key = entry.1 from congrArg Prod.fst (hone _ hkey _ hentry rfl), hfind] at hsome
  cases hsome

theorem readInt_congr {name : String} {fallback m n : Int}
    (henv : Config.readInt env name fallback = .ok m)
    (hother : Config.readInt other name fallback = .ok n)
    (hlookup : env.lookup name = other.lookup name) : m = n := by
  unfold Config.readInt at henv hother
  rw [hlookup] at henv
  exact Except.ok.inj (henv.symm.trans hother)

/-- Both environments come to the same settings as far as each of them comes to any. -/
theorem Agree.overrule_eq {arguments : List String} {config twin : Config}
    (hparse : parse arguments = .ok invocation) (hagree : invocation.Agree env other)
    (henv : Config.ofVariables env = .ok config) (hother : Config.ofVariables other = .ok twin) :
    invocation.overrule config = invocation.overrule twin := by
  obtain ⟨port, hport, henv⟩ := bind_eq_ok_iff.mp henv
  obtain ⟨age, hage, henv⟩ := bind_eq_ok_iff.mp henv
  obtain ⟨port', hport', hother⟩ := bind_eq_ok_iff.mp hother
  obtain ⟨age', hage', hother⟩ := bind_eq_ok_iff.mp hother
  obtain ⟨⟩ := henv
  obtain ⟨⟩ := hother
  have hsame := hagree.lookup_eq
  simp only [overruledBy, List.forall_mem_cons] at hsame
  obtain ⟨hhost, hportSame, hdirectory, hurl, hpackage, hwebjars, hageSame, hdev, hlevel, hformat,
    -⟩ := hsame
  simp only [overrule, Config.mk.injEq, true_and]
  refine ⟨text_congr fun hfind => ?_, number_congr (writesIntegers_of_parse hparse (by simp))
      fun hfind => readInt_congr hport hport' (hportSame hfind),
    source?_congr hdirectory, text_congr fun hfind => ?_, source?_congr hpackage,
    source?_congr hwebjars, number_congr (writesIntegers_of_parse hparse (by simp))
      fun hfind => readInt_congr hage hage' (hageSame hfind),
    ?_, text_congr fun hfind => ?_, text_congr fun hfind => ?_⟩
  · rw [hhost hfind]
  · rw [hurl hfind]
  · split
    next => rfl
    next hfind => rw [hdev (Option.not_isSome_iff_eq_none.mp hfind)]
  · rw [hlevel hfind]
  · rw [hformat hfind]

theorem config_eq_error_iff {fault : Fault} :
    invocation.config env = .error fault ↔ integerFault? env = some fault := by
  rw [← ofVariables_eq_error_iff]
  exact map_eq_error_iff

/-- The environments find the same fault if neither finds one in a variable that is overruled. -/
theorem Agree.integerFault?_eq (hagree : invocation.Agree env other)
    (hoverruled : ∀ name ∈ integerNames, invocation.Overrules name →
      unreadable? env name = none ∧ unreadable? other name = none) :
    integerFault? env = integerFault? other := by
  have hsame : ∀ name ∈ integerNames, unreadable? env name = unreadable? other name := by
    intro name hname
    by_cases hover : invocation.Overrules name
    · rw [(hoverruled name hname hover).1, (hoverruled name hname hover).2]
    · have hread : name ∈ Config.variableNames := by
        simp only [integerNames, List.mem_cons, List.not_mem_nil, or_false] at hname
        rcases hname with rfl | rfl <;> simp [Config.variableNames]
      unfold unreadable?
      rw [hagree name hread hover]
  simp only [integerFault?, integerNames, List.findSome?_cons, List.findSome?_nil]
  rw [hsame "ASSETS_PORT" (by simp [integerNames]),
    hsame "ASSETS_CACHE_MAX_AGE" (by simp [integerNames])]

/-- In two environments that agree on all that no option overrules, a command line comes to the same
settings or the same fault exactly if both environments find the same fault in the integers, and so
whenever every overruled integer can be read. -/
theorem config_eq_iff {arguments : List String} (hparse : parse arguments = .ok invocation)
    (hagree : invocation.Agree env other) :
    (invocation.config env = invocation.config other ↔
      integerFault? env = integerFault? other) ∧
    ((∀ name ∈ integerNames, invocation.Overrules name →
        unreadable? env name = none ∧ unreadable? other name = none) →
      invocation.config env = invocation.config other) := by
  have hiff : invocation.config env = invocation.config other ↔
      integerFault? env = integerFault? other := by
    constructor
    · intro hsame
      ext fault
      rw [← config_eq_error_iff, ← config_eq_error_iff, hsame]
    · intro hsame
      cases hfault : invocation.config env with
      | error fault =>
          rw [config_eq_error_iff, hsame, ← config_eq_error_iff] at hfault
          exact hfault.symm
      | ok config =>
          cases hother : invocation.config other with
          | error fault =>
              rw [config_eq_error_iff, ← hsame, ← config_eq_error_iff, hfault] at hother
              cases hother
          | ok twin =>
              obtain ⟨config, hconfig, rfl⟩ := map_eq_ok_iff.mp hfault
              obtain ⟨twin, htwin, rfl⟩ := map_eq_ok_iff.mp hother
              exact congrArg Except.ok (hagree.overrule_eq hparse hconfig htwin)
  exact ⟨hiff, fun hoverruled => hiff.mpr (hagree.integerFault?_eq hoverruled)⟩

/-- With an option for the port it does not matter which port the environment holds. -/
theorem agree_port {command : Command} {value : Option String} {port twin : String} :
    Agree ⟨command, [⟨"port", value⟩]⟩ (("ASSETS_PORT", port) :: env)
      (("ASSETS_PORT", twin) :: env) := by
  intro name _ hname
  have hne : name ≠ "ASSETS_PORT" := by
    rintro rfl
    exact hname ⟨"port", by simp [overruledBy], by simp [find?]⟩
  rw [List.lookup_cons, List.lookup_cons, beq_false_of_ne hne]

theorem config_eq_iff_port :
    parse ["serve", "--port", "3000"] = .ok ⟨.serve, [⟨"port", some "3000"⟩]⟩ ∧
      Agree ⟨.serve, [⟨"port", some "3000"⟩]⟩ [("ASSETS_PORT", "80")] [("ASSETS_PORT", "90")] ∧
      config ⟨.serve, [⟨"port", some "3000"⟩]⟩ [("ASSETS_PORT", "80")] =
        config ⟨.serve, [⟨"port", some "3000"⟩]⟩ [("ASSETS_PORT", "90")] := by
  have hparse : parse ["serve", "--port", "3000"] = .ok ⟨.serve, [⟨"port", some "3000"⟩]⟩ := rfl
  exact ⟨hparse, agree_port, (config_eq_iff hparse agree_port).1.mpr (by decide +kernel)⟩

/-- A port in the environment that is no integer is told although an option overrules it. -/
theorem not_config_eq : ¬ ∀ arguments invocation env other,
    parse arguments = .ok invocation → Agree invocation env other →
      invocation.config env = invocation.config other := by
  intro hsame
  have hport := congrArg Except.toOption <|
    hsame ["serve", "--port", "3000"] ⟨.serve, [⟨"port", some "3000"⟩]⟩
      [("ASSETS_PORT", "x")] [("ASSETS_PORT", "80")] rfl agree_port
  revert hport
  decide +kernel

end Invocation

end VersionedAssets.CommandLine
