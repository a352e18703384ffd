import VersionedAssets.CommandLine.Options
import VersionedAssets.Proofs.Attempt

/-! # What parsing makes

Whatever stands on a command line, arguments are taken for options of the grammar only, and every
setting that parsing makes is one of such an option, with a value that the option takes.
-/

namespace VersionedAssets.CommandLine

open Attempt

/-- The option makes such settings: under its key, with a value that it accepts or a blank one. -/
def OptionSpec.Makes (spec : OptionSpec) (setting : Setting) : Prop :=
  setting.key = spec.key ∧
    match spec.kind with
    | .value _ accepts => ∀ text, setting.value = some text → accepts text = true
    | .flag => setting.value = some ""
    | .exit _ | .help => False

namespace Grammar

variable {grammar : Grammar} {spec : OptionSpec} {argument name : String}

/-- An argument that is taken for an option is taken for one of the grammar. -/
def Knows (grammar : Grammar) (mark : Mark) : Prop :=
  ∀ spec name attached, mark = .option (some spec) name attached → spec ∈ grammar.options

/-- Every setting is one that an option of the grammar makes. -/
def Makes (grammar : Grammar) (settings : List Setting) : Prop :=
  ∀ setting ∈ settings, ∃ spec ∈ grammar.options, spec.Makes setting

/-! ## Taking arguments for options -/

theorem mem_options_of_mem_nameTable (hmem : (name, spec) ∈ grammar.nameTable) :
    spec ∈ grammar.options := by
  obtain ⟨other, hother, hname⟩ := List.mem_flatMap.mp hmem
  obtain ⟨_, _, heq⟩ := List.mem_map.mp hname
  obtain ⟨-, rfl⟩ := Prod.mk.inj heq
  exact hother

theorem mem_options_of_find? (hfind : grammar.find? name = some spec) :
    spec ∈ grammar.options := by
  obtain ⟨before, after, hsplit, -⟩ := List.lookup_eq_some_iff.mp hfind
  have hmem : (name, spec) ∈ grammar.nameTable := by simp [hsplit]
  exact mem_options_of_mem_nameTable hmem

theorem knows_of_mem {attached : Option String} (hspec : spec ∈ grammar.options) :
    grammar.Knows (.option (some spec) name attached) := by
  rintro _ _ _ ⟨⟩
  exact hspec

theorem knows_longMatches : ∀ mark ∈ grammar.longMatches argument, grammar.Knows mark := by
  intro mark hmark
  obtain ⟨⟨name, spec⟩, hentry, rfl⟩ := List.mem_map.mp hmark
  exact knows_of_mem (mem_options_of_mem_nameTable (List.mem_filter.mp hentry).1)

theorem knows_shortMatches : ∀ mark ∈ grammar.shortMatches argument, grammar.Knows mark := by
  intro mark hmark
  obtain ⟨⟨name, spec⟩, hentry, hsome⟩ := List.mem_filterMap.mp hmark
  have hspec := mem_options_of_mem_nameTable hentry
  dsimp only at hsome
  split at hsome
  next =>
    obtain rfl := Option.some.inj hsome
    exact knows_of_mem hspec
  next =>
    split at hsome
    next =>
      obtain rfl := Option.some.inj hsome
      exact knows_of_mem hspec
    next => cases hsome

theorem knows_mark {mark : Mark} (hmark : grammar.mark argument = .ok mark) :
    grammar.Knows mark := by
  unfold Grammar.mark at hmark
  split at hmark
  next second _ _ =>
    split at hmark
    next spec hfind =>
      obtain ⟨⟩ := hmark
      exact knows_of_mem (mem_options_of_find? hfind)
    next =>
      split at hmark
      next found hfound =>
        obtain ⟨⟩ := hmark
        obtain ⟨⟨head, value⟩, -, hmap⟩ := Option.bind_eq_some_iff.mp hfound
        obtain ⟨spec, hfind, rfl⟩ := Option.map_eq_some_iff.mp hmap
        exact knows_of_mem (mem_options_of_find? hfind)
      next =>
        split at hmark
        next found hone =>
          obtain ⟨⟩ := hmark
          have hmem : mark ∈ if second = '-' then grammar.longMatches argument
              else grammar.shortMatches argument := by
            rw [hone]
            exact List.mem_singleton_self _
          split at hmem
          next => exact knows_longMatches _ hmem
          next => exact knows_shortMatches _ hmem
        next => cases hmark
        next =>
          split at hmark
          next =>
            obtain ⟨⟩ := hmark
            rintro _ _ _ ⟨⟩
          next =>
            obtain ⟨⟩ := hmark
            rintro _ _ _ ⟨⟩
  next =>
    obtain ⟨⟩ := hmark
    rintro _ _ _ ⟨⟩

theorem knows_marks {arguments : List String} {marks : List Mark}
    (hmarks : grammar.marks arguments = .ok marks) : ∀ mark ∈ marks, grammar.Knows mark := by
  induction arguments generalizing marks with
  | nil =>
      obtain ⟨⟩ := hmarks
      simp
  | cons argument rest ih =>
      unfold Grammar.marks at hmarks
      split at hmarks
      next =>
        obtain ⟨⟩ := hmarks
        intro mark hmark
        rcases List.mem_cons.mp hmark with rfl | hmark
        · rintro _ _ _ ⟨⟩
        · obtain ⟨_, _, rfl⟩ := List.mem_map.mp hmark
          rintro _ _ _ ⟨⟩
      next =>
        obtain ⟨first, hfirst, hmarks⟩ := bind_eq_ok_iff.mp hmarks
        obtain ⟨others, hothers, hmarks⟩ := bind_eq_ok_iff.mp hmarks
        obtain ⟨⟩ := hmarks
        exact List.forall_mem_cons.mpr ⟨knows_mark hfirst, ih hothers⟩

/-! ## Carrying options out -/

/-- The letters after a short name stand for options of the grammar, and no item is made up. -/
theorem readLetters_known {after left : List Item} {letters : List Char} {actions : List Action}
    (hspec : spec ∈ grammar.options)
    (hread : grammar.readLetters after spec letters = .ok (actions, left)) :
    (∀ action ∈ actions, action.spec ∈ grammar.options) ∧ left ⊆ after := by
  induction letters generalizing spec actions with
  | nil =>
      unfold readLetters at hread
      split at hread
      next =>
        obtain ⟨⟩ := hread
        exact ⟨by simpa using hspec, List.subset_cons_self _ _⟩
      next => cases hread
      next =>
        obtain ⟨⟩ := hread
        exact ⟨by simpa using hspec, List.Subset.refl _⟩
  | cons letter letters ih =>
      unfold readLetters at hread
      split at hread
      next =>
        obtain ⟨⟩ := hread
        exact ⟨by simpa using hspec, List.Subset.refl _⟩
      next =>
        split at hread
        next => cases hread
        next other hother =>
          obtain ⟨⟨more, left'⟩, hmore, heq⟩ := map_eq_ok_iff.mp hread
          obtain ⟨rfl, rfl⟩ := Prod.mk.inj heq
          obtain ⟨hactions, hleft⟩ := ih (mem_options_of_find? hother) hmore
          exact ⟨List.forall_mem_cons.mpr ⟨hspec, hactions⟩, hleft⟩

theorem readOption_known {after left : List Item} {attached : Option String}
    {actions : List Action} (hspec : spec ∈ grammar.options)
    (hread : grammar.readOption spec name attached after = .ok (actions, left)) :
    (∀ action ∈ actions, action.spec ∈ grammar.options) ∧ left ⊆ after := by
  unfold readOption at hread
  split at hread
  next => exact readLetters_known hspec hread
  next =>
    obtain ⟨⟩ := hread
    exact ⟨by simpa using hspec, List.Subset.refl _⟩
  next =>
    split at hread
    next => cases hread
    next => exact readLetters_known hspec hread

/-- One option makes a setting of its own, or ends the program. -/
theorem Makes.perform {parsed after : Parsed} {action : Action}
    (hmakes : grammar.Makes parsed.settings) (hspec : action.spec ∈ grammar.options)
    (hrun : grammar.perform parsed action = .ok after) : grammar.Makes after.settings := by
  have hadded {value : Option String} (hmade : action.spec.Makes ⟨action.spec.key, value⟩) :
      grammar.Makes (parsed.settings ++ [⟨action.spec.key, value⟩]) := by
    intro setting hsetting
    rcases List.mem_append.mp hsetting with hold | hnew
    · exact hmakes setting hold
    · rw [List.mem_singleton.mp hnew]
      exact ⟨action.spec, hspec, hmade⟩
  unfold Grammar.perform at hrun
  split at hrun
  next hkind =>
    split at hrun
    next =>
      obtain ⟨⟩ := hrun
      exact hadded ⟨rfl, by simp [hkind]⟩
    next =>
      split at hrun
      next haccepts =>
        obtain ⟨⟩ := hrun
        exact hadded ⟨rfl, by simpa [hkind] using haccepts⟩
      next => cases hrun
  next hkind =>
    obtain ⟨⟩ := hrun
    exact hadded ⟨rfl, by simp [hkind]⟩
  next => cases hrun
  next => cases hrun

theorem Makes.performAll {parsed after : Parsed} {actions : List Action}
    (hmakes : grammar.Makes parsed.settings)
    (hspecs : ∀ action ∈ actions, action.spec ∈ grammar.options)
    (hrun : actions.foldlM grammar.perform parsed = .ok after) : grammar.Makes after.settings := by
  induction actions generalizing parsed with
  | nil =>
      obtain ⟨⟩ := hrun
      exact hmakes
  | cons action rest ih =>
      rw [List.foldlM_cons] at hrun
      obtain ⟨middle, hfirst, hrest⟩ := bind_eq_ok_iff.mp hrun
      obtain ⟨hspec, hspecs⟩ := List.forall_mem_cons.mp hspecs
      exact ih (hmakes.perform hspec hfirst) hspecs hrest

/-! ## Parsing -/

theorem takeOperand_settings (parsed : Parsed) (items : List Item) :
    (grammar.takeOperand parsed items).1.settings = parsed.settings ∧
      (grammar.takeOperand parsed items).2 ⊆ items := by
  unfold takeOperand
  split
  next => exact ⟨rfl, List.Subset.refl _⟩
  next =>
    split
    next => exact ⟨rfl, List.Subset.refl _⟩
    next => exact ⟨rfl, List.drop_subset _ _⟩

/-- Going through the items adds settings of the grammar only. -/
theorem Makes.parseItems {fuel : Nat} {parsed after : Parsed} {items : List Item}
    (hmakes : grammar.Makes parsed.settings) (hknown : ∀ item ∈ items, grammar.Knows item.2)
    (hrun : grammar.parseItems fuel parsed items = .ok after) : grammar.Makes after.settings := by
  induction fuel generalizing parsed items with
  | zero =>
      obtain ⟨⟩ := hrun
      exact hmakes
  | succ fuel ih =>
      unfold Grammar.parseItems at hrun
      split at hrun
      next =>
        obtain ⟨⟩ := hrun
        exact hmakes
      next argument spec name attached rest =>
        obtain ⟨hfirst, hrest⟩ := List.forall_mem_cons.mp hknown
        split at hrun
        next =>
          refine ih ?_ hrest hrun
          exact hmakes
        next spec =>
          obtain ⟨⟨actions, left⟩, hread, hrun⟩ := bind_eq_ok_iff.mp hrun
          obtain ⟨middle, hactions, hrun⟩ := bind_eq_ok_iff.mp hrun
          obtain ⟨hspecs, hleft⟩ := readOption_known (hfirst _ _ _ rfl) hread
          exact ih (hmakes.performAll hspecs hactions) (fun item hitem => hrest item (hleft hitem))
            hrun
      next first rest _ =>
        obtain ⟨hsettings, hleft⟩ := grammar.takeOperand_settings parsed (first :: rest)
        split at hrun
        next taken left htaken =>
          rw [htaken] at hsettings hleft
          split at hrun
          next =>
            refine ih ?_ (fun item hitem => hknown item (hleft hitem)) hrun
            rw [show taken.settings = parsed.settings from hsettings]
            exact hmakes
          next =>
            refine ih ?_ (fun item hitem => hknown item (List.mem_of_mem_drop hitem)) hrun
            exact hmakes

/-- All settings that parsing makes are those of options. -/
theorem makes_parse {arguments : List String} {parsed : Parsed}
    (hparse : grammar.parse arguments = .ok parsed) : grammar.Makes parsed.settings := by
  obtain ⟨marks, hmarks, hrun⟩ := bind_eq_ok_iff.mp hparse
  obtain ⟨found, hitems, hrun⟩ := bind_eq_ok_iff.mp hrun
  have hmakes : grammar.Makes found.settings := by
    refine Makes.parseItems (by simp [Makes]) (fun item hitem => ?_) hitems
    exact knows_marks hmarks item.2 (List.of_mem_zip hitem).2
  split at hrun
  next =>
    split at hrun
    next => cases hrun
    next =>
      obtain ⟨⟩ := hrun
      exact hmakes
  next =>
    obtain ⟨⟩ := hrun
    exact hmakes

end Grammar

end VersionedAssets.CommandLine
