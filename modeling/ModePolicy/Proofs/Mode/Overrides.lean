import ModePolicy.Proofs.Mode.Listing
import ModePolicy.Proofs.Permission.Decision

/-!
# Overrides change texts, and no decision

An override replaces the role and the instructions of a mode. A decision reads neither: it depends
on the slug, the name and the groups of the mode that the slug names (`Mode.SameGrants`). So two
lists of modes decide alike as soon as they name, for the slug in question, modes with the same
grants, or both none (`check_of_sameGrants`).

Overrides come in by two ways. One goes through the list of all modes, built-in ones and custom ones
in their places, and gives each its override (`resolvedWithPrompts_read`); a lookup there finds the
mode that it finds among the custom modes, under its override (`find?_withOverride`). The other
makes the one mode that a task works under (`effective_sameGrants`). Both lead to:

> `overrides_change_no_decision`: decisions are the same before overrides and after.
-/

namespace ModePolicy

/-! ## What a decision reads of a mode -/

namespace Mode

/-- The modes have the same slug, name and groups; they may differ in their texts. -/
structure SameGrants (m n : Mode) : Prop where
  slug : m.slug = n.slug
  name : m.name = n.name
  groups : m.groups = n.groups

namespace SameGrants

variable {m n : Mode}

theorem refl (m : Mode) : m.SameGrants m := ⟨rfl, rfl, rfl⟩

theorem symm (h : m.SameGrants n) : n.SameGrants m := ⟨h.slug.symm, h.name.symm, h.groups.symm⟩

theorem trans {k : Mode} (h : m.SameGrants n) (hk : n.SameGrants k) : m.SameGrants k :=
  ⟨h.slug.trans hk.slug, h.name.trans hk.name, h.groups.trans hk.groups⟩

theorem hasSlug_eq (h : m.SameGrants n) (slug : Json) : m.hasSlug slug = n.hasSlug slug := by
  unfold Mode.hasSlug
  rw [h.slug]

/-- What a mode decides comes from its grants, and so does what it reports on the way. -/
theorem decidesAs (h : m.SameGrants n) : m.DecidesAs n := by
  intro tool params
  unfold Mode.decide Mode.decideBy
  rw [h.slug, h.name, h.groups]

end SameGrants

end Mode

/-- Lists of modes that name modes with the same grants for a slug, or both none, decide alike. -/
theorem ToolUse.check_of_sameGrants {use : ToolUse} {custom custom' : List Mode}
    (h : Option.Rel Mode.SameGrants (Mode.find? use.slug custom) (Mode.find? use.slug custom')) :
    use.check custom = use.check custom' := by
  refine check_of_decidesAs ?_
  generalize Mode.find? use.slug custom = found, Mode.find? use.slug custom' = found' at h
  cases h with
  | none => exact .none
  | some hsame => exact .some hsame.decidesAs

namespace Mode

variable {custom : List Mode} (overrides : Fields PromptOverride)

/-! ## The list of modes under their overrides -/

/-- The mode under the override for its slug, if there is one. -/
def withOverride (m : Mode) : Mode := m.withPrompt (m.slug.str?.bind fun s => overrides.lookup s)

theorem withOverride_sameGrants (m : Mode) : (m.withOverride overrides).SameGrants m := by
  unfold withOverride
  cases m.slug.str?.bind fun s => overrides.lookup s <;> exact ⟨rfl, rfl, rfl⟩

/-- Every listed mode gets the override for its slug. -/
theorem resolvedWithPrompts_read (htext : ∀ n ∈ custom, n.slug.isStr = true) :
    resolvedWithPrompts custom (.read overrides) =
      .ok ((resolved custom).map (withOverride overrides)) := by
  refine mapM_succeeds fun m hm => ?_
  obtain ⟨s, hs⟩ := Json.exists_str (resolved_isStr htext m hm)
  simp [PromptTable.find?, Json.entry?, withOverride, hs, Json.str?]

/-- The built-in modes are in the list, so that a slug it has not is that of no built-in mode. -/
theorem find?_withOverride (htext : ∀ n ∈ custom, n.slug.isStr = true) (hshown : Unshadowed custom)
    (slug : Json) :
    find? slug ((resolved custom).map (withOverride overrides)) =
      (find? slug custom).map (withOverride overrides) := by
  have hlisted : (resolved custom).find? (·.hasSlug slug) = find? slug custom := by
    rw [find?_resolved htext, find?_eq_or, hshown slug]
  have hslug : (fun m : Mode => m.hasSlug slug) ∘ withOverride overrides = (·.hasSlug slug) :=
    funext fun m => (m.withOverride_sameGrants overrides).hasSlug_eq slug
  rw [find?_eq_or, List.find?_map, hslug, hlisted]
  cases hfound : find? slug custom with
  | some m => rfl
  | none =>
    rw [find?_eq_or, Option.or_eq_none_iff] at hfound
    rw [hfound.2]
    rfl

/-! ## The mode that a task works under -/

/-- Only a text names a mode, and it is the slug of that mode. -/
theorem slug_of_lookup (htext : ∀ n ∈ custom, n.slug.isStr = true) {slug : Json} {m : Mode}
    (h : find? slug custom = some m) : m.slug.isStr = true ∧ m.slug = slug := by
  have hstr : m.slug.isStr = true := by
    rw [find?_eq_or] at h
    rcases Option.or_eq_some_iff.mp h with hcustom | ⟨-, hbuiltin⟩
    · exact htext m (List.mem_of_find?_eq_some hcustom)
    · exact builtins_isStr m (List.mem_of_find?_eq_some hbuiltin)
  exact ⟨hstr, (hasSlug_iff hstr).mp (hasSlug_of_lookup h)⟩

theorem result_findOrFallback (slug : Json) (custom : List Mode) :
    (findOrFallback slug custom).result = .ok ((find? slug custom).getD fallback) := by
  unfold findOrFallback
  cases find? slug custom <;> rfl

/-- A task works under a mode with the grants of the one that the slug names, or of the default mode,
provided that instructions can be extended. -/
theorem effective_sameGrants (custom : List Mode) {s : String} {context : Option ModeContext}
    {aggregate : Aggregator}
    (hextends : ∀ instructions, ∃ text,
      (extendInstructions aggregate (.str s) instructions context).result = .ok text) :
    ∃ m, (effective (.str s) custom (.read overrides) context aggregate).result = .ok m ∧
      m.SameGrants ((find? (.str s) custom).getD fallback) := by
  have hprompt : (PromptTable.read overrides).find? (.str s) = .ok (overrides.lookup s) := rfl
  unfold effective
  simp only [Report.result_bind, result_findOrFallback, ok_bind, Report.result_lift_misuse, hprompt,
    mapError_ok]
  obtain ⟨text, htext⟩ := hextends _
  rw [htext, ok_bind]
  exact ⟨_, rfl, rfl, rfl, rfl⟩

/-- Instructions can be extended by an aggregator that always comes back. -/
theorem extendInstructions_succeeds {aggregate : Aggregator}
    (h : ∀ request, ∃ text, (aggregate request).result = .ok (.str text)) (slug instructions : Json)
    (context : Option ModeContext) :
    ∃ text, (extendInstructions aggregate slug instructions context).result = .ok text := by
  unfold extendInstructions
  cases context with
  | none => exact ⟨_, rfl⟩
  | some context =>
    dsimp only
    split
    · obtain ⟨text, htext⟩ := h _
      exact ⟨_, htext⟩
    · exact ⟨_, rfl⟩

/-- **Overrides change no decision.** With distinct custom modes, a use is decided by the list of all
modes under their overrides as it is by the custom modes alone; and for a slug that names a mode, it
is decided by the mode that a task works under there, whatever its instructions are extended with. -/
theorem overrides_change_no_decision (htext : ∀ n ∈ custom, n.slug.isStr = true)
    (hdistinct : (custom.map (·.slug)).Nodup) :
    (∃ modes, resolvedWithPrompts custom (.read overrides) = .ok modes ∧
      ∀ use : ToolUse, use.check modes = use.check custom) ∧
    ∀ (slug : Json) (context : Option ModeContext) (aggregate : Aggregator),
      (find? slug custom).isSome = true →
      (∀ request, ∃ text, (aggregate request).result = .ok (.str text)) →
      ∃ m, (effective slug custom (.read overrides) context aggregate).result = .ok m ∧
        ∀ use : ToolUse, use.slug = slug → use.check [m] = use.check custom := by
  refine ⟨⟨_, resolvedWithPrompts_read overrides htext, fun use => ?_⟩, ?_⟩
  · refine ToolUse.check_of_sameGrants ?_
    rw [find?_withOverride overrides htext (unshadowed_of_nodup htext hdistinct)]
    cases find? use.slug custom with
    | none => exact .none
    | some m => exact .some (m.withOverride_sameGrants overrides)
  · intro slug context aggregate hnamed haggregate
    obtain ⟨base, hbase⟩ := Option.isSome_iff_exists.mp hnamed
    obtain ⟨hstr, hslug⟩ := slug_of_lookup htext hbase
    obtain ⟨s, hs⟩ := Json.exists_str hstr
    obtain rfl : slug = .str s := hslug.symm.trans hs
    obtain ⟨m, hm, hgrants⟩ := effective_sameGrants overrides custom
      fun instructions => extendInstructions_succeeds haggregate (.str s) instructions context
    rw [hbase, Option.getD_some] at hgrants
    refine ⟨m, hm, fun use huse => ToolUse.check_of_sameGrants ?_⟩
    -- the list of this one mode names it for its slug
    have halone : find? (.str s) [m] = some m := by
      rw [find?_eq_or, List.find?_singleton, hgrants.hasSlug_eq, hasSlug_of_lookup hbase]
      rfl
    rw [huse, halone, hbase]
    exact .some hgrants

/-- A mode that takes the place of the built-in one that codes, and may only read. -/
def readingCode : Mode :=
  { slug := .str "code", name := .str "Reader", role := .str "You read.", groups := [.simple .read] }

/-- Overrides for that mode and for one that does not exist. -/
def writerOverrides : Fields PromptOverride :=
  [("code", { role := .str "You write.", instructions := .str "Edit every file." }),
    ("poet", { role := .str "You rhyme." })]

/-- Writing a file in that mode. -/
def codeWrite : ToolUse := { tool := .str "write_to_file", slug := .str "code" }

/-- A mode that is told to edit every file edits none, as before. -/
theorem readingCode_told_to_write :
    (∀ n ∈ [readingCode], n.slug.isStr = true) ∧ ([readingCode].map (·.slug)).Nodup ∧
    (find? (.str "code") [readingCode]).isSome = true ∧
    (∃ modes, resolvedWithPrompts [readingCode] (.read writerOverrides) = .ok modes ∧
      (codeWrite.check modes).result = .ok (.denied .notInMode)) ∧
    ∃ m, (effective (.str "code") [readingCode] (.read writerOverrides) none
        fun _ => return .str "").result = .ok m ∧
      (codeWrite.check [m]).result = .ok (.denied .notInMode) := by
  have htext : ∀ n ∈ [readingCode], n.slug.isStr = true := by simp [readingCode, Json.isStr]
  have hdistinct : ([readingCode].map (·.slug)).Nodup := by simp
  have hnamed : (find? (.str "code") [readingCode]).isSome = true := by
    simp [find?, Mode.hasSlug, readingCode, Json.same]
  have hbefore : (codeWrite.check [readingCode]).result = .ok (.denied .notInMode) := by
    have hmode : find? codeWrite.slug [readingCode] = some readingCode := by
      simp [find?, Mode.hasSlug, readingCode, codeWrite, Json.same]
    have hungranted : readingCode.groups.find? (·.group.authorises codeWrite.tool) = none := by
      simp [readingCode, codeWrite, GroupEntry.group, ToolGroup.authorises, ToolGroup.tools,
        Json.same]
    refine (ToolUse.check_succeeds (by decide)).mpr (Or.inr ⟨rfl, ?_⟩)
    exact ToolUse.decideInMode_succeeds.mpr (Or.inr ⟨readingCode, {}, hmode, rfl,
      decide_succeeds.mpr (Or.inl ⟨hungranted, rfl⟩)⟩)
  obtain ⟨⟨modes, hmodes, hlisted⟩, halone⟩ :=
    overrides_change_no_decision writerOverrides htext hdistinct
  obtain ⟨m, hm, heffective⟩ := halone (.str "code") none (fun _ => return .str "") hnamed
    fun _ => ⟨"", rfl⟩
  exact ⟨htext, hdistinct, hnamed, ⟨modes, hmodes, hlisted codeWrite ▸ hbefore⟩, m, hm,
    heffective codeWrite rfl ▸ hbefore⟩

end Mode

end ModePolicy
