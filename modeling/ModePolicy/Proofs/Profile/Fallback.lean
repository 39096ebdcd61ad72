import ModePolicy.Proofs.Mode.Overrides

/-!
# What stands in for a mode that does not exist

Two questions to a profile take another mode if the slug names none. Asking for the mode gives the
one of the profile's default slug, which may be a custom mode. Asking for the mode that a task works
under gives the built-in default mode, whatever the default slug is and whatever custom mode hides
that built-in one. So:

> `works_under_found_iff`: the two agree on grants exactly if the slug names a mode, or the default
> slug is that of the built-in default mode and no custom mode of that slug has other grants.

Where they differ, a task works under the built-in default mode although the profile falls back to a
mode with fewer grants: `lockedProfile_falls_apart`.
-/

namespace ModePolicy.Profile

variable {p : Profile}

/-- The profile falls back to the built-in default mode, as far as grants go: its default slug is
that of the built-in one, and a custom mode that hides it has its name and its groups. -/
def FallsBackToBuiltin (p : Profile) : Prop :=
  p.defaultSlug = Mode.fallbackSlug ∧
    ∀ m, p.customModes.find? (·.hasSlug Mode.fallbackSlug) = some m →
      m.name = Mode.fallback.name ∧ m.groups = Mode.fallback.groups

/-- Asking for a mode gives the one that the slug names, or else the one of the default slug. -/
theorem get_succeeds {slug : Json} {b : Mode} :
    (p.get slug).result = .ok b ↔ Mode.find? slug p.customModes = some b ∨
      Mode.find? slug p.customModes = none ∧ Mode.find? p.defaultSlug p.customModes = some b := by
  unfold Profile.get
  cases Mode.find? slug p.customModes with
  | some m => simp
  | none => simp [Mode.find_eq_ok]

/-- The mode of the default slug has the grants of the built-in default mode exactly if the profile
falls back to that. -/
theorem fallsBackToBuiltin_iff (htext : ∀ n ∈ p.customModes, n.slug.isStr = true) {b : Mode}
    (hb : Mode.find? p.defaultSlug p.customModes = some b) :
    Mode.fallback.SameGrants b ↔ p.FallsBackToBuiltin := by
  have hslug : b.slug = p.defaultSlug := (Mode.slug_of_lookup htext hb).2
  have hbuiltin : Mode.builtin? Mode.fallbackSlug = some Mode.fallback := by
    simp [Mode.builtin?, Mode.builtins, Mode.hasSlug, Mode.fallbackSlug, Mode.fallback, Mode.code,
      Json.same]
  constructor
  · intro h
    have hdefault : p.defaultSlug = Mode.fallbackSlug := hslug.symm.trans h.slug.symm
    refine ⟨hdefault, fun m hm => ?_⟩
    rw [hdefault, Mode.find?_eq_or, hm] at hb
    obtain rfl : m = b := Option.some.inj hb
    exact ⟨h.name.symm, h.groups.symm⟩
  · intro h
    obtain ⟨hdefault, hcustom⟩ := h
    rw [hdefault, Mode.find?_eq_or] at hb
    cases hm : p.customModes.find? (·.hasSlug Mode.fallbackSlug) with
    | some m =>
      rw [hm] at hb
      obtain rfl : m = b := Option.some.inj hb
      obtain ⟨hname, hgroups⟩ := hcustom m hm
      exact ⟨(hslug.trans hdefault).symm, hname.symm, hgroups.symm⟩
    | none =>
      rw [hm, Option.none_or, hbuiltin] at hb
      exact Option.some.inj hb ▸ Mode.SameGrants.refl _

/-- **A task works under a mode with the grants of the one that is found, exactly if the slug names
a mode or the profile falls back to the built-in default mode.** -/
theorem works_under_found_iff (htext : ∀ n ∈ p.customModes, n.slug.isStr = true) {slug : String}
    {b : Mode} (hget : (p.get (.str slug)).result = .ok b) (aggregate : Aggregator) :
    ∃ m, (p.effective (.str slug) none aggregate).result = .ok m ∧
      (m.SameGrants b ↔ p.hasMode (.str slug) = true ∨ p.FallsBackToBuiltin) := by
  have hextends : ∀ instructions, ∃ text,
      (extendInstructions aggregate (.str slug) instructions none).result = .ok text :=
    fun instructions => ⟨instructions, rfl⟩
  obtain ⟨m, hm, hgrants⟩ := Mode.effective_sameGrants p.prompts p.customModes hextends
  refine ⟨m, hm, ?_⟩
  unfold hasMode
  rcases get_succeeds.mp hget with hfound | ⟨hnone, hdefault⟩
  · -- one lookup for both
    rw [hfound, Option.getD_some] at hgrants
    exact iff_of_true hgrants (Or.inl (by rw [hfound]; rfl))
  · -- the task works under the built-in default mode, and `b` is the mode of the default slug
    rw [hnone, Option.getD_none] at hgrants
    rw [hnone, ← fallsBackToBuiltin_iff htext hdefault]
    simp only [Option.isSome_none, Bool.false_eq_true, false_or]
    exact ⟨hgrants.symm.trans, hgrants.trans⟩

/-- A mode that takes the place of the built-in one that asks, and may only read. -/
def lockedAsk : Mode :=
  { slug := .str "ask", name := .str "Locked", role := .str "You read.", groups := [.simple .read] }

/-- A profile that falls back to that mode. -/
def lockedProfile : Profile := { customModes := [lockedAsk], defaultSlug := .str "ask" }

/-- For a slug that names no mode, that profile finds the mode that only reads, and a task works
under the built-in default mode, which also edits. -/
theorem lockedProfile_falls_apart :
    (∀ n ∈ lockedProfile.customModes, n.slug.isStr = true) ∧
    (lockedProfile.get (.str "poet")).result = .ok lockedAsk ∧
    ∃ m, (lockedProfile.effective (.str "poet") none fun _ => return .str "").result = .ok m ∧
      ¬ m.SameGrants lockedAsk := by
  have htext : ∀ n ∈ lockedProfile.customModes, n.slug.isStr = true := by
    simp [lockedProfile, lockedAsk, Json.isStr]
  have hunknown : Mode.find? (.str "poet") lockedProfile.customModes = none := by
    simp [Mode.find?, Mode.builtins, Mode.hasSlug, lockedProfile, lockedAsk, Mode.code,
      Mode.architect, Mode.ask, Mode.debug, Mode.reviewer, Mode.orchestrator, Json.same]
  have hdefault : Mode.find? lockedProfile.defaultSlug lockedProfile.customModes =
      some lockedAsk := by
    simp [Mode.find?, Mode.hasSlug, lockedProfile, lockedAsk, Json.same]
  have hget : (lockedProfile.get (.str "poet")).result = .ok lockedAsk :=
    get_succeeds.mpr (Or.inr ⟨hunknown, hdefault⟩)
  have helsewhere : lockedProfile.defaultSlug ≠ Mode.fallbackSlug := by
    simp [lockedProfile, Mode.fallbackSlug, Mode.fallback, Mode.code]
  obtain ⟨m, hm, hagree⟩ := works_under_found_iff htext hget fun _ => return .str ""
  refine ⟨htext, hget, m, hm, fun h => ?_⟩
  rcases hagree.mp h with hmode | hfalls
  · rw [hasMode, hunknown] at hmode
    exact absurd hmode Bool.false_ne_true
  · exact helsewhere hfalls.1

end ModePolicy.Profile
