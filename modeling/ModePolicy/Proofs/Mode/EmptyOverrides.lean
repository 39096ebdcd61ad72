import ModePolicy.Proofs.Mode.Overrides

/-!
# Overrides listed and overrides worked under

There are two ways to a mode under its override. The list of all modes takes a text of the override
that is set (`Json.unlessNull`), and a task works under one that is not empty (`Json.orElse`). The two
tests answer alike on every text but the empty one, which is set and does not count:

> `listed_is_worked_under`: the mode listed for a slug and the mode that a task works under there have
> the same grants, and the same texts unless the override for that text is empty. In that case the
> list has the empty text, and the task works under the mode's own.

Instructions that are not set are read as the empty text.
-/

namespace ModePolicy

/-! ## Two tests of a text -/

/-- The value, with null read as the empty text. -/
def Json.orBlank (v : Json) : Json := v.unlessNull (.str "")

/-- A text that is not empty counts exactly if it is set. -/
theorem Json.orElse_eq_unlessNull {v other : Json} (hv : v.isOptionalStr = true) (hne : v ≠ .str "") :
    v.orElse other = v.unlessNull other := by
  rcases Json.isOptionalStr_cases hv with rfl | ⟨s, rfl⟩
  · rfl
  · have hs : s ≠ "" := fun h => hne (h ▸ rfl)
    simp [orElse, unlessNull, truthy, isNull, hs]

/-- In place of the empty text, either test gives the empty text. -/
theorem Json.orElse_blank {v : Json} (hv : v.isOptionalStr = true) :
    v.orElse (.str "") = v.orBlank := by
  by_cases hblank : v = .str ""
  · rw [hblank]
    rfl
  · exact orElse_eq_unlessNull hv hblank

theorem Json.unlessNull_isOptionalStr {v other : Json} (hv : v.isOptionalStr = true)
    (hother : other.isOptionalStr = true) : (v.unlessNull other).isOptionalStr = true := by
  unfold unlessNull
  split
  · exact hother
  · exact hv

namespace Mode

/-! ## The override for a slug -/

variable {custom : List Mode} {overrides : Fields PromptOverride} {slug : String}

/-- The override for a slug; without one, nothing is set. -/
def overrideOf (overrides : Fields PromptOverride) (slug : String) : PromptOverride :=
  (overrides.lookup slug).getD {}

/-- Texts of an override are texts, or not set. -/
def TextOverrides (overrides : Fields PromptOverride) : Prop :=
  ∀ entry ∈ overrides, entry.2.role.isOptionalStr = true ∧ entry.2.instructions.isOptionalStr = true

theorem overrideOf_isOptionalStr (h : TextOverrides overrides) (slug : String) :
    (overrideOf overrides slug).role.isOptionalStr = true ∧
      (overrideOf overrides slug).instructions.isOptionalStr = true := by
  unfold overrideOf
  cases hlookup : overrides.lookup slug with
  | none => exact ⟨rfl, rfl⟩
  | some o =>
    obtain ⟨before, after, rfl, -⟩ := List.lookup_eq_some_iff.mp hlookup
    exact h (slug, o) (List.mem_append_right _ (List.mem_cons_self ..))

/-- The mode that is listed: a text of the override takes the place of the mode's own if it is set. -/
theorem withOverride_eq {m : Mode} (hslug : m.slug = .str slug) :
    m.withOverride overrides =
      { m with
        role := (overrideOf overrides slug).role.unlessNull m.role
        instructions := (overrideOf overrides slug).instructions.unlessNull m.instructions } := by
  have hlookup : (m.slug.str?.bind fun s => overrides.lookup s) = overrides.lookup slug := by
    rw [hslug]
    rfl
  unfold withOverride overrideOf
  rw [hlookup]
  cases overrides.lookup slug <;> rfl

/-- The mode that a task works under: a text of the override takes the place of the mode's own if it
is not empty. -/
theorem result_effective {m : Mode} (hm : find? (.str slug) custom = some m) (aggregate : Aggregator) :
    (effective (.str slug) custom (.read overrides) none aggregate).result =
      .ok { m with
        role := (overrideOf overrides slug).role.orElse m.role
        instructions :=
          ((overrideOf overrides slug).instructions.orElse m.instructions).orElse (.str "") } := by
  have hprompt : (PromptTable.read overrides).find? (.str slug) = .ok (overrides.lookup slug) := rfl
  unfold effective
  simp only [Report.result_bind, result_findOrFallback, ok_bind, Report.result_lift_misuse, hprompt,
    mapError_ok, hm]
  rfl

/-! ## The two ways -/

/-- Texts that two ways to apply an override `o` to a mode `m` give: the same, unless the text of the
override is empty. -/
structure SameUnlessBlank (o : PromptOverride) (m listed worked : Mode) : Prop where
  role : o.role ≠ .str "" → worked.role = listed.role
  role_blank : o.role = .str "" → listed.role = .str "" ∧ worked.role = m.role
  instructions : o.instructions ≠ .str "" → worked.instructions = listed.instructions.orBlank
  instructions_blank : o.instructions = .str "" →
    listed.instructions = .str "" ∧ worked.instructions = m.instructions.orBlank

/-- **A mode listed under its override is the one that a task works under, but for empty overrides.**
With distinct custom modes and overrides of texts, there is one mode listed for the slug of a mode; it
has the grants of the mode that a task works under there, and the two have the same texts unless the
text of the override is empty. -/
theorem listed_is_worked_under (htext : ∀ n ∈ custom, n.slug.isStr = true)
    (hdistinct : (custom.map (·.slug)).Nodup) (hoverrides : TextOverrides overrides) {m : Mode}
    (hm : find? (.str slug) custom = some m) (hown : m.instructions.isOptionalStr = true)
    (aggregate : Aggregator) :
    ∃ modes listed worked, resolvedWithPrompts custom (.read overrides) = .ok modes ∧
      (∀ n, (n ∈ modes ∧ n.slug = .str slug) ↔ n = listed) ∧
      (effective (.str slug) custom (.read overrides) none aggregate).result = .ok worked ∧
      worked.SameGrants listed ∧
      SameUnlessBlank (overrideOf overrides slug) m listed worked := by
  obtain ⟨hrole, hinstructions⟩ := overrideOf_isOptionalStr hoverrides slug
  have hslug : m.slug = .str slug := (slug_of_lookup htext hm).2
  have hlisted : m.withOverride overrides = _ := withOverride_eq hslug
  refine ⟨_, m.withOverride overrides, _, resolvedWithPrompts_read overrides htext, fun n => ?_,
    result_effective hm aggregate, ?_, ?_⟩
  · -- what is listed under the slug is what it names, under its override
    have hfound : ∀ k : Mode, (k ∈ resolved custom ∧ k.slug = .str slug) ↔
        find? (.str slug) custom = some k := fun k =>
      listed_iff_found htext (unshadowed_of_nodup htext hdistinct)
    rw [List.mem_map]
    constructor
    · intro hn
      obtain ⟨⟨k, hk, rfl⟩, hkslug⟩ := hn
      have hkm := (hfound k).mp ⟨hk, (k.withOverride_sameGrants overrides).slug.symm.trans hkslug⟩
      rw [Option.some.inj (hkm.symm.trans hm)]
    · intro hn
      obtain ⟨hmem, -⟩ := (hfound m).mpr hm
      exact hn ▸ ⟨⟨m, hmem, rfl⟩, (m.withOverride_sameGrants overrides).slug.trans hslug⟩
  · rw [hlisted]
    exact ⟨rfl, rfl, rfl⟩
  · rw [hlisted]
    refine ⟨fun h => Json.orElse_eq_unlessNull hrole h, fun h => ?_, fun h => ?_, fun h => ?_⟩
    · rw [h]
      exact ⟨rfl, rfl⟩
    · rw [Json.orElse_eq_unlessNull hinstructions h]
      exact Json.orElse_blank (Json.unlessNull_isOptionalStr hinstructions hown)
    · rw [h]
      exact ⟨rfl, Json.orElse_blank hown⟩

/-- An override whose role is empty. -/
def blankRole : Fields PromptOverride :=
  [("docs", { role := .str "", instructions := .str "Keep it short." })]

/-- Under that override a mode is listed without a role, and a task works under its own role. The
instructions of the two are the same. -/
theorem editingDocs_blank_role :
    (∀ n ∈ [Profile.editingDocs], n.slug.isStr = true) ∧
    ([Profile.editingDocs].map (·.slug)).Nodup ∧ TextOverrides blankRole ∧
    find? (.str "docs") [Profile.editingDocs] = some Profile.editingDocs ∧
    Profile.editingDocs.instructions.isOptionalStr = true ∧
    ∃ modes listed worked, resolvedWithPrompts [Profile.editingDocs] (.read blankRole) = .ok modes ∧
      listed ∈ modes ∧
      (effective (.str "docs") [Profile.editingDocs] (.read blankRole) none
        fun _ => return .str "").result = .ok worked ∧
      listed.role = .str "" ∧ worked.role = .str "You write." ∧
      worked.instructions = listed.instructions.orBlank := by
  have htext : ∀ n ∈ [Profile.editingDocs], n.slug.isStr = true := by
    simp [Profile.editingDocs, Json.isStr]
  have hdistinct : ([Profile.editingDocs].map (·.slug)).Nodup := by simp
  have hoverrides : TextOverrides blankRole := by
    simp [TextOverrides, blankRole, Json.isOptionalStr]
  have hfound : find? (.str "docs") [Profile.editingDocs] = some Profile.editingDocs := by
    simp [find?, Mode.hasSlug, Profile.editingDocs, Json.same]
  obtain ⟨modes, listed, worked, hmodes, hlisted, hworked, -, hsame⟩ :=
    listed_is_worked_under htext hdistinct hoverrides hfound rfl fun _ => return .str ""
  obtain ⟨hblank, hown⟩ := hsame.role_blank rfl
  have hset : (overrideOf blankRole "docs").instructions ≠ .str "" := by
    simp [overrideOf, blankRole]
  exact ⟨htext, hdistinct, hoverrides, hfound, rfl, modes, listed, worked, hmodes,
    ((hlisted listed).mpr rfl).1, hworked, hblank, hown, hsame.instructions hset⟩

end Mode

end ModePolicy
