import ModePolicy.Proofs.Permission.Answers
import ModePolicy.Proofs.Profile.Changes

/-!
# Checks in an imported profile

Modes reach a profile by import or by registration, and both let valid modes in only; the built-in
modes are valid too. So whatever pattern a use comes to is an expression that compiles, and:

> `check_decides_iff`: in every profile that an import and a history of changes lead to, the check
> of a use ends with a decision exactly if the use does not come to a pattern whose first match in
> the path has a crossed group. A pattern that cannot be used is never met.

That an expression compiles does not say that a search with it gives an answer: a group that is
entered again may end before it begins, and such a match is refused. `possessiveUse_undecided` is a
use that stops there.
-/

namespace ModePolicy

/-! ## The built-in modes -/

namespace Mode

/-- The expressions of the built-in modes. -/
def builtinPatterns : List String := ["\\.md$", "\\.agent/review_response_.*\\.md$"]

theorem builtinPatterns_isPattern : ∀ source ∈ builtinPatterns, (Json.str source).IsPattern := by
  have hcompile : ∀ source ∈ builtinPatterns, (Pattern.compile source).isOk = true := by
    decide +kernel
  intro source hsource
  cases hc : Pattern.compile source with
  | ok regex => exact Or.inr ⟨source, regex, rfl, hc⟩
  | error defect =>
    have hok := hcompile source hsource
    rw [hc] at hok
    exact absurd hok Bool.false_ne_true

/-- The grants of the built-in modes can be used. -/
theorem builtins_entries_valid : ∀ m ∈ builtins, ∀ e ∈ m.groups, e.Valid := by
  have hoptions : (builtins.flatMap (·.groups)).filterMap (·.options?) =
      [{ fileRegex := .str "\\.md$", description := .str "Markdown files only" },
        { fileRegex := .str "\\.agent/review_response_.*\\.md$",
          description := .str "Review response files only" }] := rfl
  intro m hm e he o ho
  have hmem : o ∈ (builtins.flatMap (·.groups)).filterMap (·.options?) :=
    List.mem_filterMap.mpr ⟨e, List.mem_flatMap.mpr ⟨m, hm, he⟩, ho⟩
  rw [hoptions] at hmem
  rcases List.mem_cons.mp hmem with rfl | hmem
  · exact ⟨builtinPatterns_isPattern _ (by simp [builtinPatterns]), rfl⟩
  · obtain rfl := List.mem_singleton.mp hmem
    exact ⟨builtinPatterns_isPattern _ (by simp [builtinPatterns]), rfl⟩

/-- The built-in modes are valid. -/
theorem builtins_valid : ∀ m ∈ builtins, m.Valid := by
  have htexts : ∀ m ∈ builtins, ModeFlaw.ofSlug m.slug = [] ∧ ModeFlaw.ofName m.name = [] ∧
      ModeFlaw.ofRole m.role = [] ∧ m.instructions.isOptionalStr = true := by
    have hchecked : (builtins.all fun m => (ModeFlaw.ofSlug m.slug).isEmpty &&
        (ModeFlaw.ofName m.name).isEmpty && (ModeFlaw.ofRole m.role).isEmpty &&
        m.instructions.isOptionalStr) = true := by decide +kernel
    intro m hm
    simpa [and_assoc] using List.all_eq_true.mp hchecked m hm
  have hdistinct : ∀ groups ∈ builtins.map fun m => m.groups.map (·.group), groups.Nodup := by
    decide +kernel
  intro m hm
  obtain ⟨hslug, hname, hrole, hinstructions⟩ := htexts m hm
  exact ⟨hslug, hname, hrole, hinstructions, builtins_entries_valid m hm,
    hdistinct _ (List.mem_map_of_mem hm)⟩

end Mode

namespace Profile

/-- The profile comes from imported settings by a history of changes. -/
def Reachable (p : Profile) : Prop :=
  ∃ text s history, (Settings.ofText text).result = .ok s ∧ p = (ofSettings s).run history

variable {p : Profile}

theorem Reachable.sound (h : p.Reachable) : p.Sound := by
  obtain ⟨text, s, history, himport, rfl⟩ := h
  exact (sound_ofSettings himport).run history

/-- Whatever mode a slug names in a sound profile, it is valid. -/
theorem Sound.find?_valid (h : p.Sound) {slug : Json} {m : Mode}
    (hm : Mode.find? slug p.customModes = some m) : m.Valid := by
  rw [Mode.find?_eq_or] at hm
  rcases (find?_or_builtin h).mp hm with ⟨hm, -⟩ | ⟨-, hm⟩
  · exact h.valid m hm
  · exact Mode.builtins_valid m (List.mem_of_find?_eq_some hm)

/-- The patterns that uses come to in a sound profile are expressions. -/
theorem Sound.isPattern_of_meets (h : p.Sound) {use : ToolUse} {pattern : Json} {path : String}
    (hmeets : use.Meets p.customModes pattern path) : pattern.IsPattern := by
  obtain ⟨-, -, m, options, hm, hfirst, -, rfl⟩ := hmeets
  have hentry := (h.find?_valid hm).entries _ (List.mem_of_find?_eq_some hfirst)
  exact (hentry options rfl).fileRegex

/-- **In a profile that comes from an import, the check of a use ends with a decision exactly if the
use does not come to a pattern whose first match in the path has a crossed group.** Nothing else
stops it, and that a pattern cannot be used is never reported. -/
theorem check_decides_iff (h : p.Reachable) {call : Json} (hcall : call.IsTable) (tool : String)
    (slug requirements : Json) :
    ((∃ d, (p.check (.str tool) slug (.raw call) (.ofJson requirements)).result = .ok d) ↔
      ¬ (p.toolUse (.str tool) slug (.raw call) (.ofJson requirements)).Crossed p.customModes) ∧
    (∀ e, (p.check (.str tool) slug (.raw call) (.ofJson requirements)).result = .error e →
      e = .crossedGroup) ∧
    ∀ entry ∈ (p.check (.str tool) slug (.raw call) (.ofJson requirements)).log,
      entry.level ≠ .error := by
  have hstated : (p.toolUse (.str tool) slug (.raw call) (.ofJson requirements)).WellStated :=
    ⟨⟨tool, rfl⟩, Or.inr ⟨_, rfl⟩, call, rfl, hcall⟩
  have hanswers := ToolUse.check_answers hstated fun pattern path => h.sound.isPattern_of_meets
  refine ⟨⟨fun hd hcrossed => ?_, hanswers.answer⟩, fun e he => ?_, hanswers.clean⟩
  · obtain ⟨d, hd⟩ := hd
    exact absurd (hd.symm.trans (hanswers.stop hcrossed)) (by simp)
  · by_cases hcrossed : (p.toolUse (.str tool) slug (.raw call)
        (.ofJson requirements)).Crossed p.customModes
    · exact Except.error.inj (he.symm.trans (hanswers.stop hcrossed))
    · obtain ⟨d, hd⟩ := hanswers.answer hcrossed
      exact absurd (hd.symm.trans he) (by simp)

/-- An expression with a possessive repetition. After `ab`, a last round begins the inner group
again before it turns to the empty alternative, while the end of that group is still that of the
first round. -/
def possessivePattern : String := "((a)b|)*+"

/-- The profile of settings with a mode that may edit the files which that expression matches. -/
def possessiveProfile : Profile := ofSettings (Settings.editingSettings possessivePattern)

/-- The parameters of writing a file. -/
def possessiveCall : Json := .obj [("path", .str "ab"), ("content", .str "x")]

/-- Writing that file in that profile. -/
def possessiveUse : ToolUse :=
  possessiveProfile.toolUse (.str "write_to_file") (.str "docs") (.raw possessiveCall)
    (.ofJson .null)

/-- The expression compiles, and its first match in the path has a crossed group. -/
theorem possessivePattern_crosses : ∃ regex found, Pattern.compile possessivePattern = .ok regex ∧
    regex.find? "ab" = some found ∧ found.marks.areCrossed = true := by
  have hany : ((Pattern.compile possessivePattern).toOption.bind (·.find? "ab")).any
      (·.marks.areCrossed) = true := by decide +kernel
  cases hc : Pattern.compile possessivePattern with
  | error defect =>
    rw [hc] at hany
    exact absurd hany Bool.false_ne_true
  | ok regex =>
    rw [hc] at hany
    cases hfind : regex.find? "ab" with
    | none => exact absurd hany (by simp [Except.toOption, hfind])
    | some found => exact ⟨regex, found, rfl, hfind, by simpa [Except.toOption, hfind] using hany⟩

/-- The settings are imported, but the check of that use ends with no decision. -/
theorem possessiveUse_undecided :
    possessiveProfile.Reachable ∧ possessiveCall.IsTable ∧
    ¬ ∃ d, (possessiveProfile.check (.str "write_to_file") (.str "docs") (.raw possessiveCall)
      (.ofJson .null)).result = .ok d := by
  obtain ⟨regex, found, hcompile, hfind, hcrossed⟩ := possessivePattern_crosses
  have hreachable : possessiveProfile.Reachable :=
    ⟨_, _, [], Settings.ofText_editingSettings hcompile, rfl⟩
  have hcall : possessiveCall.IsTable := Or.inr ⟨_, rfl⟩
  have hedits : possessiveUse.Edits "ab" := by
    refine ⟨⟨"write_to_file", by decide, rfl⟩, ⟨_, CallParams.ofJson_obj _, ?_, ?_⟩, by decide⟩
    · simp [CallParams.ofFields, CallParams.pathText, Json.isNull, Json.plain]
    · simp [CallParams.ofFields, CallParams.writes, List.lookup, Json.truthy]
  have hopen : possessiveUse.GatesOpen := by
    simp [ToolUse.GatesOpen, possessiveUse, toolUse, experimentIds, Requirements.ofJson,
      Requirements.Block]
  have hmode : Mode.find? (.str "docs") possessiveProfile.customModes =
      some (Settings.editingMode possessivePattern) := by
    simp [Mode.find?, Mode.hasSlug, possessiveProfile, ofSettings, Settings.editingSettings,
      Settings.editingMode, Json.same]
  have hcrosses : possessiveUse.Crossed possessiveProfile.customModes :=
    ⟨.str possessivePattern, "ab", ⟨hedits, hopen, _, _, hmode, rfl, rfl, rfl⟩,
      possessivePattern, regex, found, rfl, hcompile, hfind, hcrossed⟩
  refine ⟨hreachable, hcall, fun hd => ?_⟩
  exact (check_decides_iff hreachable hcall "write_to_file" (.str "docs") .null).1.mp hd hcrosses

end Profile

end ModePolicy
