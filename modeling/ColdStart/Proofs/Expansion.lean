/-
This file follows modes through their expansion. The templates come first, and then
once more for each setting of the runtime. A variant differs from its template in its
name and in the two toggles of the runtime. No build looks at these, so both are built
by one command and only started differently. None of the suffixes that variants get ends
with another one, so names that were apart stay apart.
-/

import ColdStart.Backend
import Mathlib.Data.List.Flatten
import Mathlib.Data.List.Forall2
import Mathlib.Data.List.Nodup

namespace ColdStart

/-! ### Commands -/

/-- A toggle says how the runtime is started. The others say how an image is built. -/
def Toggle.IsOfRuntime (toggle : Toggle) : Prop :=
  toggle = .readyToRun ∨ toggle = .tieredCompilation

instance (toggle : Toggle) : Decidable toggle.IsOfRuntime :=
  inferInstanceAs (Decidable (_ ∨ _))

theorem forall_isOfRuntime_iff (first second : Mode) :
    (∀ toggle : Toggle, toggle.IsOfRuntime → first.has toggle = second.has toggle) ↔
      first.readyToRun = second.readyToRun ∧
        first.tieredCompilation = second.tieredCompilation := by
  simp [Toggle.IsOfRuntime, Mode.has]

theorem buildArgument?_of_isOfRuntime {toggle : Toggle} (isOfRuntime : toggle.IsOfRuntime) :
    toggle.buildArgument? = none := by
  rcases isOfRuntime with rfl | rfl <;> rfl

theorem not_isOfRuntime_of_mem_buildSwitches :
    ∀ switch ∈ buildSwitches, ¬ switch.1.IsOfRuntime := by
  decide

theorem boolDigit_inj {first second : Bool} :
    boolDigit first = boolDigit second ↔ first = second := by
  cases first <;> cases second <;> decide

namespace Backend

/-- Modes that only differ in toggles of the runtime are built by one command. -/
theorem buildCommand_congr (backend : Backend) {first second : Mode}
    (same : ∀ toggle : Toggle, ¬ toggle.IsOfRuntime → first.has toggle = second.has toggle)
    (workDirectory : String) :
    backend.buildCommand first workDirectory = backend.buildCommand second workDirectory := by
  cases backend with
  | docker =>
    refine congrArg (fun arguments => _ ++ arguments ++ _) (List.flatMap_congr fun toggle _ => ?_)
    by_cases isOfRuntime : toggle.IsOfRuntime
    · rw [buildArgument?_of_isOfRuntime isOfRuntime]
    · rw [same toggle isOfRuntime]
  | script =>
    refine congrArg (_ ++ ·) (List.filterMap_congr fun (toggle, switch) member => ?_)
    have build : ¬ toggle.IsOfRuntime := not_isOfRuntime_of_mem_buildSwitches _ member
    simp only [same toggle build]

/-- Modes are started by one command exactly when they agree in the toggles of the runtime. -/
theorem runCommand_eq_iff (backend : Backend) (first second : Mode) (artifact : String)
    (failures : Bool) :
    backend.runCommand first artifact failures = backend.runCommand second artifact failures ↔
      ∀ toggle : Toggle, toggle.IsOfRuntime → first.has toggle = second.has toggle := by
  rw [forall_isOfRuntime_iff]
  cases backend with
  | docker => simp [runCommand, boolDigit_inj]
  | script =>
    -- Each toggle adds a word of its own, so the words tell which of the two are on.
    rw [runCommand, runCommand]
    cases first.readyToRun <;> cases second.readyToRun <;> cases first.tieredCompilation <;>
      cases second.tieredCompilation <;> simp

end Backend

/-! ### Names -/

/-- Names stay apart when endings are put behind them of which none ends with another one and none
ends a name. -/
theorem nodup_withEndings {names endings : List String} (distinct : names.Nodup)
    (apart : endings.Pairwise fun first second =>
      ¬ first.toList <:+ second.toList ∧ ¬ second.toList <:+ first.toList)
    (bare : ∀ name ∈ names, ∀ ending ∈ endings, ¬ ending.toList <:+ name.toList) :
    (names ++ endings.flatMap fun ending => names.map (· ++ ending)).Nodup := by
  have ends : ∀ {ending text : String}, text ∈ names.map (· ++ ending) →
      ending.toList <:+ text.toList := by
    rintro ending _ member
    obtain ⟨name, -, rfl⟩ := List.mem_map.mp member
    exact ⟨name.toList, String.toList_append.symm⟩
  rw [List.nodup_append', List.nodup_flatMap]
  refine ⟨distinct, ⟨fun ending _ => ?_, apart.imp fun separate => ?_⟩, ?_⟩
  · exact distinct.map fun first second same => (String.append_left_inj ending).mp same
  · -- What stands in two blocks ends with both endings, so one of them ends with the other.
    intro text inFirst inSecond
    rcases List.suffix_or_suffix_of_suffix (ends inFirst) (ends inSecond) with inside | inside
    · exact separate.1 inside
    · exact separate.2 inside
  · intro text isName inBlocks
    obtain ⟨ending, isEnding, inBlock⟩ := List.mem_flatMap.mp inBlocks
    exact bare text isName ending isEnding (ends inBlock)

namespace Mode

theorem suffixes_apart : (runtimeVariants.map RuntimeVariant.suffixText).Pairwise
    fun first second => ¬ first.toList <:+ second.toList ∧ ¬ second.toList <:+ first.toList := by
  decide

theorem map_name_expand (templates : List Mode) :
    (expand templates).map Mode.name = templates.map Mode.name ++
      (runtimeVariants.map RuntimeVariant.suffixText).flatMap fun ending =>
        (templates.map Mode.name).map (· ++ ending) := by
  rw [expand, List.map_append, List.map_flatMap, List.flatMap_map]
  simp only [List.map_map]
  rfl

/-! ### Variants -/

/-- A mode is the variant of a template under a setting of the runtime. -/
structure IsVariant (setting : RuntimeVariant) (template mode : Mode) : Prop where
  name : mode.name = template.name ++ setting.suffixText
  readyToRun : mode.readyToRun = setting.readyToRun
  tieredCompilation : mode.tieredCompilation = setting.tieredCompilation
  others : ∀ toggle : Toggle, ¬ toggle.IsOfRuntime → mode.has toggle = template.has toggle
  /-- Both are built by one command. -/
  builds : ∀ (backend : Backend) (workDirectory : String),
    backend.buildCommand mode workDirectory = backend.buildCommand template workDirectory
  /-- They are started by different commands, unless the template had the setting already. -/
  runs : ∀ (backend : Backend) (artifact : String) (failures : Bool),
    backend.runCommand mode artifact failures = backend.runCommand template artifact failures ↔
      template.readyToRun = setting.readyToRun ∧
        template.tieredCompilation = setting.tieredCompilation

theorem isVariant_apply (setting : RuntimeVariant) (template : Mode) :
    IsVariant setting template (setting.apply template) := by
  have others : ∀ toggle : Toggle, ¬ toggle.IsOfRuntime →
      (setting.apply template).has toggle = template.has toggle := by
    intro toggle build
    cases toggle with
    | readyToRun => exact absurd (.inl rfl) build
    | tieredCompilation => exact absurd (.inr rfl) build
    | _ => rfl
  refine ⟨rfl, rfl, rfl, others, fun backend => backend.buildCommand_congr others,
    fun backend artifact failures => ?_⟩
  rw [backend.runCommand_eq_iff, forall_isOfRuntime_iff, eq_comm (a := template.readyToRun),
    eq_comm (a := template.tieredCompilation)]
  rfl

/-- Expanding keeps names apart and builds as they are. If the names of the templates are apart
and none of them ends with the suffix of a variant, all names are apart. Whatever the templates
are, they come first, and three blocks follow, one for each setting of the runtime. In a block the
variants stand in the order of their templates. Each is built as its template is, by either
backend, and can only be told from it by its name and how it is started. -/
theorem expand_keepsApart (templates : List Mode) :
    ((templates.map Mode.name).Nodup →
      (∀ template ∈ templates, ∀ setting ∈ runtimeVariants,
        ¬ setting.suffixText.toList <:+ template.name.toList) →
      ((expand templates).map Mode.name).Nodup) ∧
    ∃ blocks : List (List Mode), blocks.length = 3 ∧
      expand templates = templates ++ blocks.flatten ∧
      List.Forall₂ (fun setting block => List.Forall₂ (IsVariant setting) templates block)
        runtimeVariants blocks := by
  constructor
  · intro distinct bare
    rw [map_name_expand]
    refine nodup_withEndings distinct suffixes_apart ?_
    simpa only [List.forall_mem_map] using bare
  · refine ⟨runtimeVariants.map fun setting => templates.map setting.apply, rfl, ?_, ?_⟩
    · rw [expand, List.flatMap_def]
    · rw [List.forall₂_map_right_iff, List.forall₂_same]
      intro setting _
      rw [List.forall₂_map_right_iff, List.forall₂_same]
      exact fun template _ => isVariant_apply setting template

/-- Templates whose names look like suffixes of variants or hold parts of them. -/
def suffixedTemplates : List Mode := [
  { name := "" },
  { name := "-usereadytorun-and", readyToRun := true },
  { name := "r2r-tieredcompilation", appPrecompiled := true },
  { name := "-usereadytorun-", webComposite := true, tieredCompilation := true }]

theorem expand_keepsApart_suffixedTemplates :
    (suffixedTemplates.map Mode.name).Nodup ∧
    (∀ template ∈ suffixedTemplates, ∀ setting ∈ runtimeVariants,
      ¬ setting.suffixText.toList <:+ template.name.toList) ∧
    ((expand suffixedTemplates).map Mode.name).Nodup := by
  have distinct : (suffixedTemplates.map Mode.name).Nodup := by decide
  have bare : ∀ template ∈ suffixedTemplates, ∀ setting ∈ runtimeVariants,
      ¬ setting.suffixText.toList <:+ template.name.toList := by decide
  exact ⟨distinct, bare, (expand_keepsApart suffixedTemplates).1 distinct bare⟩

end Mode

end ColdStart
