import ModePolicy.Proofs.Permission.Answers

/-!
# Patterns that cannot be used

The pattern of an edit grant may be any value, since modes are made from data before they are
validated. It may be no text, or a text that is no expression, or an expression whose match cannot be
told. A check that comes to such a pattern should refuse the edit. It does so where the pattern is of
the wrong kind or has a syntax error (`Json.IsMalformed`); in all other cases it stops:

> `unusable_pattern_refused_iff`: the edit is refused for its path exactly if the pattern is
> malformed, and otherwise the check ends with the failure that the search has met
> (`Json.StopsIn`). It is never allowed.

The other cases are a repetition count that cannot be represented, flags that exclude each other, and
a match with a crossed group: `lavishGrant_stops_check`.
-/

namespace ModePolicy

/-! ## What can be wrong with a pattern -/

namespace Json

/-- The value cannot be used on the path, for whatever reason: no expression is made of it, or its
match in the path has a crossed group. -/
def IsUnusable (pattern : Json) (path : String) : Prop :=
  (∀ source regex, pattern = .str source → Pattern.compile source ≠ .ok regex) ∨
    PatternCrosses pattern path

/-- The value is no text, or a text with a syntax error. -/
def IsMalformed (pattern : Json) : Prop :=
  ∀ source, pattern = .str source → ∃ why, Pattern.compile source = .error (.syntaxError why)

/-- A search in the path stops with this failure: the expression has a defect other than its syntax,
or its match has a crossed group. -/
def StopsIn (pattern : Json) (path : String) (failure : Failure) : Prop :=
  (∃ source defect, pattern = .str source ∧ Pattern.compile source = .error defect ∧
    Failure.ofDefect defect = some failure) ∨
  (PatternCrosses pattern path ∧ failure = .crossedGroup)

end Json

section Search

variable {pattern : Json} {path : String}

/-- A value that is no text is reported. -/
theorem searchPath_of_not_text (h : ∀ source, pattern ≠ .str source) :
    ∃ problem, searchPath (.str path) pattern = .ok (.error problem) := by
  cases pattern with
  | str source => exact absurd rfl (h source)
  | _ => exact ⟨_, rfl⟩

/-- What a search reports as wrong with a pattern is its kind or its syntax. -/
theorem searchPath_reports_iff :
    (∃ problem, searchPath (.str path) pattern = .ok (.error problem)) ↔ pattern.IsMalformed := by
  by_cases htext : ∃ source, pattern = .str source
  · obtain ⟨source, rfl⟩ := htext
    have hmalformed : (Json.str source).IsMalformed ↔
        ∃ why, Pattern.compile source = .error (.syntaxError why) :=
      ⟨fun h => h source rfl, fun h other hother => Json.str.inj hother ▸ h⟩
    rw [hmalformed]
    cases hc : Pattern.compile source with
    | error defect => cases defect <;> simp [searchPath, hc]
    | ok regex =>
      rw [searchPath_compiled hc]
      cases regex.find? path with
      | none => simp
      | some found => cases hcrossed : found.marks.areCrossed <;> simp [hcrossed]
  · rw [not_exists] at htext
    exact iff_of_true (searchPath_of_not_text htext) fun source h => absurd h (htext source)

/-- A search stops for the defects that are not reported. -/
theorem searchPath_stops_iff {failure : Failure} :
    searchPath (.str path) pattern = .error failure ↔ pattern.StopsIn path failure := by
  by_cases htext : ∃ source, pattern = .str source
  · obtain ⟨source, rfl⟩ := htext
    cases hc : Pattern.compile source with
    | error defect =>
      have hcrosses : ¬ PatternCrosses (.str source) path := by
        intro h
        obtain ⟨source', regex, -, hs, hc', -⟩ := h
        obtain rfl : source = source' := Json.str.inj hs
        exact absurd (hc.symm.trans hc') (by simp)
      cases defect <;> simp [searchPath, hc, Json.StopsIn, hcrosses, Failure.ofDefect]
    | ok regex =>
      have hexpression : (Json.str source).StopsIn path failure ↔
          PatternCrosses (.str source) path ∧ failure = .crossedGroup := by
        refine or_iff_right fun h => ?_
        obtain ⟨source', defect, hs, hdefect, -⟩ := h
        obtain rfl : source = source' := Json.str.inj hs
        exact absurd (hc.symm.trans hdefect) (by simp)
      rw [hexpression, patternCrosses_str hc, searchPath_compiled hc]
      cases regex.find? path with
      | none => simp
      | some found => cases hcrossed : found.marks.areCrossed <;> simp [hcrossed, @eq_comm _ failure]
  · rw [not_exists] at htext
    obtain ⟨problem, hproblem⟩ := @searchPath_of_not_text pattern path htext
    rw [hproblem]
    refine iff_of_false (by simp) fun h => ?_
    rcases h with ⟨source, -, hs, -⟩ | ⟨⟨source, -, -, hs, -⟩, -⟩ <;> exact htext source hs

/-- A pattern is unusable on a path exactly if the search there does not tell whether it matches. -/
theorem isUnusable_iff :
    pattern.IsUnusable path ↔ ∀ found, searchPath (.str path) pattern ≠ .ok (.ok found) := by
  by_cases hcompiles : ∃ source regex, pattern = .str source ∧ Pattern.compile source = .ok regex
  · obtain ⟨source, regex, rfl, hc⟩ := hcompiles
    have hexpression : (Json.str source).IsUnusable path ↔ PatternCrosses (.str source) path :=
      or_iff_right fun h => h source regex rfl hc
    rw [hexpression, patternCrosses_str hc, searchPath_compiled hc]
    cases regex.find? path with
    | none => simp
    | some found => cases hcrossed : found.marks.areCrossed <;> simp [hcrossed]
  · refine iff_of_true (Or.inl fun source regex hs hc => hcompiles ⟨source, regex, hs, hc⟩) ?_
    intro found hfound
    cases pattern with
    | str source =>
      cases hc : Pattern.compile source with
      | ok regex => exact hcompiles ⟨source, regex, rfl, hc⟩
      | error defect => cases defect <;> simp [searchPath, hc] at hfound
    | _ => simp [searchPath] at hfound

/-- How the comparison with an unusable pattern ends: with no match if the pattern is malformed, and
else it stops. -/
theorem result_matchesPath_unusable (h : pattern.IsUnusable path) :
    (pattern.IsMalformed ∧ (matchesPath (.str path) pattern).result = .ok false) ∨
    (¬ pattern.IsMalformed ∧ ∃ failure, pattern.StopsIn path failure ∧
      (matchesPath (.str path) pattern).result = .error failure) := by
  rw [← @searchPath_reports_iff pattern path, result_matchesPath]
  cases hsearch : searchPath (.str path) pattern with
  | error failure => exact Or.inr ⟨by simp, failure, searchPath_stops_iff.mp hsearch, rfl⟩
  | ok answer =>
    cases answer with
    | ok found => exact absurd hsearch (isUnusable_iff.mp h found)
    | error problem => exact Or.inl ⟨⟨problem, rfl⟩, rfl⟩

end Search

/-! ## Edits that come to such a pattern -/

/-- **An unusable pattern refuses exactly if it is malformed.** Then the comparison of the path with
it finds no match, and an edit that comes to it past the gates is a violation, which carries the
pattern. Otherwise the check of the edit ends with the failure that the search stops with. -/
theorem unusable_pattern_refused_iff {pattern : Json} {path : String}
    (hunusable : pattern.IsUnusable path) :
    ((matchesPath (.str path) pattern).result = .ok false ↔ pattern.IsMalformed) ∧
    ∀ (use : ToolUse) (custom : List Mode) (m : Mode) (options : GroupOptions),
      use.Edits path → use.GatesOpen → Mode.find? use.slug custom = some m →
      m.firstEditGrant? = some (.restricted .edit options) → options.fileRegex = pattern →
      pattern.truthy = true →
        ((use.check custom).result = .ok (.violation (m.violationBy options path)) ↔
          pattern.IsMalformed) ∧
        (¬ pattern.IsMalformed → ∃ failure, pattern.StopsIn path failure ∧
          (use.check custom).result = .error failure) := by
  have hcheck : ∀ (use : ToolUse) (custom : List Mode) (m : Mode) (options : GroupOptions),
      use.Edits path → use.GatesOpen → Mode.find? use.slug custom = some m →
      m.firstEditGrant? = some (.restricted .edit options) → options.fileRegex = pattern →
      pattern.truthy = true → (use.check custom).result =
        (matchesPath (.str path) pattern).result.map fun found =>
          if found then .allowed (some .edit) else .violation (m.violationBy options path) := by
    intro use custom m options he hopen hm hfirst hpattern hset
    subst hpattern
    exact he.result_check hopen hm hfirst hset
  rcases result_matchesPath_unusable hunusable with
    ⟨hmalformed, hresult⟩ | ⟨hwellformed, failure, hstops, hresult⟩
  · refine ⟨iff_of_true hresult hmalformed, fun use custom m options he hopen hm hfirst hp hset => ?_⟩
    rw [hcheck use custom m options he hopen hm hfirst hp hset, hresult]
    exact ⟨iff_of_true rfl hmalformed, fun h => absurd hmalformed h⟩
  · -- the comparison stops, and so does the check
    refine ⟨iff_of_false (by simp [hresult]) hwellformed, ?_⟩
    intro use custom m options he hopen hm hfirst hp hset
    rw [hcheck use custom m options he hopen hm hfirst hp hset, hresult]
    exact ⟨iff_of_false (by simp [Except.map]) hwellformed, fun _ => ⟨failure, hstops, rfl⟩⟩

/-- Editing is for files with more letters than can be counted. -/
def lavishOptions : GroupOptions where
  fileRegex := .str "a\x7b99999999999\x7d"

/-- A mode that grants editing under these options. -/
def lavishMode : Mode := { docsMode with groups := [.restricted .edit lavishOptions] }

/-- The repetition count cannot be represented, which is no matter of syntax. So writing a file in
that mode is not refused: the check stops. -/
theorem lavishGrant_stops_check :
    lavishOptions.fileRegex.IsUnusable "build.py" ∧ scriptWrite.Edits "build.py" ∧
    scriptWrite.GatesOpen ∧ Mode.find? scriptWrite.slug [lavishMode] = some lavishMode ∧
    lavishMode.firstEditGrant? = some (.restricted .edit lavishOptions) ∧
    lavishOptions.fileRegex.truthy = true ∧
    (matchesPath (.str "build.py") lavishOptions.fileRegex).result ≠ .ok false ∧
    (scriptWrite.check [lavishMode]).result ≠
      .ok (.violation (lavishMode.violationBy lavishOptions "build.py")) ∧
    ∃ failure, (scriptWrite.check [lavishMode]).result = .error failure := by
  have hdefect : Pattern.compile "a\x7b99999999999\x7d" = .error .repeatTooLarge := rfl
  have hunusable : lavishOptions.fileRegex.IsUnusable "build.py" := by
    refine Or.inl fun source regex hs hc => ?_
    obtain rfl := Json.str.inj hs
    exact absurd (hdefect.symm.trans hc) (by simp)
  have hwellformed : ¬ lavishOptions.fileRegex.IsMalformed := by
    intro h
    obtain ⟨why, hwhy⟩ := h _ rfl
    exact absurd (hdefect.symm.trans hwhy) (by simp)
  have hfind : Mode.find? scriptWrite.slug [lavishMode] = some lavishMode := by
    simp [Mode.find?, Mode.hasSlug, lavishMode, docsMode, scriptWrite, Json.same]
  have hfirst : lavishMode.firstEditGrant? = some (.restricted .edit lavishOptions) := rfl
  have hset : lavishOptions.fileRegex.truthy = true := rfl
  obtain ⟨hcompared, hchecked⟩ := unusable_pattern_refused_iff hunusable
  obtain ⟨hviolation, hstops⟩ := hchecked scriptWrite [lavishMode] lavishMode lavishOptions
    scriptWrite_edits scriptWrite_gatesOpen hfind hfirst rfl hset
  obtain ⟨failure, -, hfailure⟩ := hstops hwellformed
  exact ⟨hunusable, scriptWrite_edits, scriptWrite_gatesOpen, hfind, hfirst, hset,
    fun h => hwellformed (hcompared.mp h), fun h => hwellformed (hviolation.mp h), failure, hfailure⟩

end ModePolicy
