import Mathlib.Data.List.Nodup
import ModePolicy.Profile
import ModePolicy.Proofs.Json.Values

/-!
# What is listed and what is found

Two walks give a slug its mode. `Mode.find?` goes through the custom modes from the front and takes
the first of the slug; `Mode.resolved` puts one custom mode after another into the list of all
modes, so that the last of the slug is left there:

> `find?_resolved`: the list has, under a slug, the *last* custom mode of that slug, or else the
> built-in one.

The list names no slug twice (`resolved_slugs_nodup`), so a mode stands in it exactly if it is the
one that the list has under its slug. The two walks therefore agree exactly on lists of custom modes
in which the first mode of every slug is also the last (`Mode.Unshadowed`), as they are if no slug is
repeated (`unshadowed_of_nodup`), and not on others: `listing_agrees_iff_unshadowed` says so for a
profile and all its questions about a mode.

Slugs are texts here, as they are in every mode that is not made from unchecked data. That is what
makes comparing them the same as being equal (`hasSlug_iff`).
-/

namespace ModePolicy

namespace Mode

/-! ## Modes by slug -/

/-- Comparing a text slug with a value is asking whether they are equal. -/
theorem hasSlug_iff {m : Mode} {slug : Json} (hm : m.slug.isStr = true) :
    m.hasSlug slug = true ↔ m.slug = slug := by
  obtain ⟨s, hs⟩ := Json.exists_str hm
  unfold hasSlug
  rw [hs]
  cases slug <;> simp [Json.same]

/-- So it is if the value that the slug is compared with is a text. -/
theorem hasSlug_iff_of_text {m : Mode} {slug : Json} (hslug : slug.isStr = true) :
    m.hasSlug slug = true ↔ m.slug = slug := by
  obtain ⟨s, rfl⟩ := Json.exists_str hslug
  exact Json.same_str

theorem hasSlug_eq_false {m : Mode} {slug : Json} (hm : m.slug.isStr = true) (hne : m.slug ≠ slug) :
    m.hasSlug slug = false :=
  Bool.eq_false_iff.mpr fun h => hne ((hasSlug_iff hm).mp h)

/-- The lookup is a search in the custom modes and then one in the built-in ones. -/
theorem find?_eq_or (slug : Json) (custom : List Mode) :
    find? slug custom = (custom.find? (·.hasSlug slug)).or (builtin? slug) := by
  unfold find? builtin?
  cases custom.find? (·.hasSlug slug) <;> rfl

/-- A mode that a search for a slug has given has that slug. -/
theorem slug_eq_of_find? {modes : List Mode} {slug : Json} {m : Mode}
    (htext : ∀ n ∈ modes, n.slug.isStr = true) (h : modes.find? (·.hasSlug slug) = some m) :
    m.slug = slug := by
  have hm : m.hasSlug slug = true := by simpa using List.find?_some h
  exact (hasSlug_iff (htext m (List.mem_of_find?_eq_some h))).mp hm

/-- A mode that the lookup has given has the slug. -/
theorem hasSlug_of_lookup {slug : Json} {custom : List Mode} {m : Mode}
    (h : find? slug custom = some m) : m.hasSlug slug = true := by
  rw [find?_eq_or] at h
  rcases Option.or_eq_some_iff.mp h with hcustom | ⟨-, hbuiltin⟩
  · simpa using List.find?_some hcustom
  · unfold builtin? at hbuiltin
    simpa using List.find?_some hbuiltin

theorem find_eq_ok {slug : Json} {custom : List Mode} {m : Mode} :
    find slug custom = .ok m ↔ find? slug custom = some m := by
  unfold find
  cases find? slug custom <;> simp

/-- Under distinct slugs, a mode of a list is what a search for its slug gives. -/
theorem find?_slug_of_mem {modes : List Mode} {m : Mode} (htext : ∀ n ∈ modes, n.slug.isStr = true)
    (hnodup : (modes.map (·.slug)).Nodup) (hm : m ∈ modes) :
    modes.find? (·.hasSlug m.slug) = some m := by
  induction modes with
  | nil => exact absurd hm List.not_mem_nil
  | cons n rest ih =>
    rw [List.map_cons, List.nodup_cons] at hnodup
    have hn := htext n (List.mem_cons_self ..)
    rcases List.mem_cons.mp hm with rfl | hrest
    · rw [List.find?_cons_of_pos]
      exact (hasSlug_iff hn).mpr rfl
    · have hne : n.slug ≠ m.slug := fun h =>
        hnodup.1 (h ▸ List.mem_map_of_mem hrest)
      rw [List.find?_cons_of_neg (by simp [hasSlug_eq_false hn hne])]
      exact ih (fun k hk => htext k (List.mem_cons_of_mem _ hk)) hnodup.2 hrest

/-- In a list of distinct slugs, a search for a slug gives the mode that has it. -/
theorem find?_slug_eq_some_iff {modes : List Mode} {slug : Json} {m : Mode}
    (htext : ∀ n ∈ modes, n.slug.isStr = true) (hnodup : (modes.map (·.slug)).Nodup) :
    modes.find? (·.hasSlug slug) = some m ↔ m ∈ modes ∧ m.slug = slug := by
  constructor
  · exact fun h => ⟨List.mem_of_find?_eq_some h, slug_eq_of_find? htext h⟩
  · intro h
    obtain ⟨hm, rfl⟩ := h
    exact find?_slug_of_mem htext hnodup hm

/-! ## Putting a mode in its place -/

/-- A search after a mode has been put in its place gives that mode under its own slug, and what it
gave before under any other. -/
theorem find?_place {new : Mode} (hnew : new.slug.isStr = true) (modes : List Mode) (slug : Json) :
    (place new modes).find? (·.hasSlug slug) =
      if new.hasSlug slug then some new else modes.find? (·.hasSlug slug) := by
  induction modes with
  | nil => cases hs : new.hasSlug slug <;> simp [place, hs]
  | cons m rest ih =>
    unfold place
    cases hsame : m.hasSlug new.slug with
    | true =>
      -- the mode replaced and the new one answer to the same slugs
      rw [if_pos rfl]
      have hboth : m.hasSlug slug = new.hasSlug slug := by
        unfold hasSlug
        rw [(hasSlug_iff_of_text hnew).mp hsame]
      cases hs : new.hasSlug slug <;> simp [hs, hboth]
    | false =>
      rw [if_neg Bool.false_ne_true]
      -- this mode stays; under its own slug it hides the new one, which has another
      cases hs : m.hasSlug slug with
      | true =>
        have hne : new.hasSlug slug = false := hasSlug_eq_false hnew fun h => by
          rw [h, hs] at hsame
          exact absurd hsame (by simp)
        simp [hs, hne]
      | false =>
        simpa [hs] using ih

/-- Putting a mode in its place keeps the slugs, with a new one at the end. -/
theorem map_slug_place {new : Mode} {modes : List Mode} (htext : ∀ n ∈ modes, n.slug.isStr = true) :
    (place new modes).map (·.slug) =
      modes.map (·.slug) ++ if isCustom new.slug modes then [] else [new.slug] := by
  induction modes with
  | nil => rfl
  | cons m rest ih =>
    have ih := ih fun k hk => htext k (List.mem_cons_of_mem _ hk)
    unfold place isCustom
    cases hs : m.hasSlug new.slug with
    | true =>
      have hsame := (hasSlug_iff (htext m (List.mem_cons_self ..))).mp hs
      simp [hs, hsame]
    | false =>
      rw [if_neg (by simp), List.map_cons, ih, List.map_cons, List.cons_append, List.any_cons, hs,
        Bool.false_or]
      rfl

/-- A slug is in use exactly if a search for it finds a mode. -/
theorem isCustom_eq_isSome (slug : Json) (custom : List Mode) :
    isCustom slug custom = (custom.find? (·.hasSlug slug)).isSome := by
  unfold isCustom
  rw [Bool.eq_iff_iff, List.any_eq_true, List.find?_isSome]

/-- A slug is in use exactly if some mode has it. -/
theorem isCustom_iff {slug : Json} {modes : List Mode} (htext : ∀ n ∈ modes, n.slug.isStr = true) :
    isCustom slug modes = true ↔ slug ∈ modes.map (·.slug) := by
  unfold isCustom
  rw [List.any_eq_true, List.mem_map]
  exact ⟨fun ⟨m, hm, hs⟩ => ⟨m, hm, (hasSlug_iff (htext m hm)).mp hs⟩,
    fun ⟨m, hm, hs⟩ => ⟨m, hm, (hasSlug_iff (htext m hm)).mpr hs⟩⟩

theorem mem_place {new m : Mode} {modes : List Mode} (h : m ∈ place new modes) :
    m = new ∨ m ∈ modes := by
  induction modes with
  | nil => exact Or.inl (by simpa [place] using h)
  | cons n rest ih =>
    unfold place at h
    split at h
    · rcases List.mem_cons.mp h with rfl | hrest
      · exact Or.inl rfl
      · exact Or.inr (List.mem_cons_of_mem _ hrest)
    · rcases List.mem_cons.mp h with rfl | hrest
      · exact Or.inr (List.mem_cons_self ..)
      · rcases ih hrest with rfl | hm
        · exact Or.inl rfl
        · exact Or.inr (List.mem_cons_of_mem _ hm)

theorem place_slugs_nodup {new : Mode} {modes : List Mode}
    (htext : ∀ n ∈ modes, n.slug.isStr = true) (h : (modes.map (·.slug)).Nodup) :
    ((place new modes).map (·.slug)).Nodup := by
  rw [map_slug_place htext]
  cases hs : isCustom new.slug modes with
  | true => simpa using h
  | false =>
    rw [if_neg (by simp), List.nodup_append]
    refine ⟨h, List.nodup_singleton _, fun a ha b hb hab => ?_⟩
    rw [List.mem_singleton.mp hb] at hab
    rw [(isCustom_iff htext).mpr (hab ▸ ha)] at hs
    exact absurd hs (by simp)

theorem place_isStr {new : Mode} {modes : List Mode} (hnew : new.slug.isStr = true)
    (htext : ∀ n ∈ modes, n.slug.isStr = true) : ∀ n ∈ place new modes, n.slug.isStr = true := by
  intro n hn
  rcases mem_place hn with rfl | hm
  · exact hnew
  · exact htext n hm

/-! ## The list of all modes -/

/-- Putting custom modes in their places one after another leaves the last one of each slug. -/
theorem find?_foldl_place {slug : Json} (custom : List Mode) :
    ∀ {base : List Mode}, (∀ n ∈ custom, n.slug.isStr = true) →
      (custom.foldl (fun modes new => place new modes) base).find? (·.hasSlug slug) =
        (custom.findRev? (·.hasSlug slug)).or (base.find? (·.hasSlug slug)) := by
  induction custom with
  | nil => intro base _; rfl
  | cons new rest ih =>
    intro base hcustom
    obtain ⟨hnew, hrest⟩ := List.forall_mem_cons.mp hcustom
    rw [List.foldl_cons, ih hrest, find?_place hnew base, List.findRev?]
    cases rest.findRev? (·.hasSlug slug) with
    | some later => rfl
    | none =>
      cases new.hasSlug slug <;> rfl

theorem foldl_place_slugs (custom : List Mode) :
    ∀ {base : List Mode}, (∀ n ∈ custom, n.slug.isStr = true) → (∀ n ∈ base, n.slug.isStr = true) →
      (base.map (·.slug)).Nodup →
      (∀ n ∈ custom.foldl (fun modes new => place new modes) base, n.slug.isStr = true) ∧
      ((custom.foldl (fun modes new => place new modes) base).map (·.slug)).Nodup := by
  induction custom with
  | nil => intro base _ hbase hnodup; exact ⟨hbase, hnodup⟩
  | cons new rest ih =>
    intro base hcustom hbase hnodup
    rw [List.foldl_cons]
    exact ih (fun k hk => hcustom k (List.mem_cons_of_mem _ hk))
      (place_isStr (hcustom new (List.mem_cons_self ..)) hbase) (place_slugs_nodup hbase hnodup)

/-- The slugs of the built-in modes. -/
def builtinSlugs : List String := ["code", "architect", "ask", "debug", "reviewer", "orchestrator"]

theorem map_slug_builtins : builtins.map (·.slug) = builtinSlugs.map .str := rfl

theorem builtins_isStr : ∀ n ∈ builtins, n.slug.isStr = true := by
  intro n hn
  have hslug : n.slug ∈ builtinSlugs.map .str := map_slug_builtins ▸ List.mem_map_of_mem hn
  obtain ⟨s, -, hs⟩ := List.mem_map.mp hslug
  rw [← hs]
  rfl

theorem builtins_slug_ne_empty : ∀ n ∈ builtins, n.slug ≠ .str "" := by
  intro n hn hempty
  have hslug : n.slug ∈ builtinSlugs.map .str := map_slug_builtins ▸ List.mem_map_of_mem hn
  obtain ⟨s, hs, heq⟩ := List.mem_map.mp hslug
  rw [Json.str.inj (heq.trans hempty)] at hs
  exact absurd hs (by decide)

theorem builtins_slugs_nodup : (builtins.map (·.slug)).Nodup := by
  rw [map_slug_builtins]
  exact List.Nodup.map (fun _ _ h => Json.str.inj h) (by decide)

variable {custom : List Mode}

/-- **The last custom mode of a slug is listed**, or else the built-in one. -/
theorem find?_resolved (htext : ∀ n ∈ custom, n.slug.isStr = true) (slug : Json) :
    (resolved custom).find? (·.hasSlug slug) =
      (custom.findRev? (·.hasSlug slug)).or (builtin? slug) :=
  find?_foldl_place custom htext

theorem resolved_isStr (htext : ∀ n ∈ custom, n.slug.isStr = true) :
    ∀ n ∈ resolved custom, n.slug.isStr = true :=
  (foldl_place_slugs custom htext builtins_isStr builtins_slugs_nodup).1

/-- No slug is listed twice. -/
theorem resolved_slugs_nodup (htext : ∀ n ∈ custom, n.slug.isStr = true) :
    ((resolved custom).map (·.slug)).Nodup :=
  (foldl_place_slugs custom htext builtins_isStr builtins_slugs_nodup).2

/-- A mode is listed exactly if it is the one that the list has under its slug. -/
theorem mem_resolved_iff (htext : ∀ n ∈ custom, n.slug.isStr = true) {m : Mode} :
    m ∈ resolved custom ↔
      (custom.findRev? (·.hasSlug m.slug)).or (builtin? m.slug) = some m := by
  rw [← find?_resolved htext]
  exact ⟨find?_slug_of_mem (resolved_isStr htext) (resolved_slugs_nodup htext),
    fun h => List.mem_of_find?_eq_some h⟩

/-- Every listed mode is a custom mode or a built-in one. -/
theorem mem_resolved (htext : ∀ n ∈ custom, n.slug.isStr = true) {m : Mode}
    (hm : m ∈ resolved custom) : m ∈ custom ∨ m ∈ builtins := by
  rw [mem_resolved_iff htext, List.findRev?_eq_find?_reverse] at hm
  rcases Option.or_eq_some_iff.mp hm with hcustom | ⟨-, hbuiltin⟩
  · exact Or.inl (List.mem_reverse.mp (List.mem_of_find?_eq_some hcustom))
  · exact Or.inr (List.mem_of_find?_eq_some hbuiltin)

/-- The slug of every custom mode is listed. -/
theorem slug_listed (htext : ∀ n ∈ custom, n.slug.isStr = true) {m : Mode} (hm : m ∈ custom) :
    ∃ last ∈ resolved custom, last.slug = m.slug := by
  cases hlast : (resolved custom).find? (·.hasSlug m.slug) with
  | some last =>
    exact ⟨last, List.mem_of_find?_eq_some hlast, slug_eq_of_find? (resolved_isStr htext) hlast⟩
  | none =>
    rw [find?_resolved htext, Option.or_eq_none_iff, List.findRev?_eq_find?_reverse,
      List.find?_eq_none] at hlast
    exact absurd ((hasSlug_iff (htext m hm)).mpr rfl) (hlast.1 m (List.mem_reverse.mpr hm))

/-! ## Where the two walks agree -/

/-- The first custom mode of every slug is also the last one of that slug. -/
def Unshadowed (custom : List Mode) : Prop :=
  ∀ slug, custom.find? (·.hasSlug slug) = custom.findRev? (·.hasSlug slug)

/-- What is listed is what is found, exactly if no custom mode is shadowed by one of its slug. -/
theorem find?_of_mem_resolved_iff (htext : ∀ n ∈ custom, n.slug.isStr = true) :
    (∀ m ∈ resolved custom, find? m.slug custom = some m) ↔ Unshadowed custom := by
  constructor
  · intro h slug
    cases hlast : custom.findRev? (·.hasSlug slug) with
    | none =>
      rw [List.findRev?_eq_find?_reverse, List.find?_eq_none] at hlast
      exact List.find?_eq_none.mpr fun m hm => hlast m (List.mem_reverse.mpr hm)
    | some last =>
      -- the last mode of the slug is listed, so the lookup gives it, and from the custom modes
      have hlisted : (resolved custom).find? (·.hasSlug slug) = some last := by
        rw [find?_resolved htext, hlast]
        rfl
      have hslug : last.slug = slug := slug_eq_of_find? (resolved_isStr htext) hlisted
      have hfound := h last (List.mem_of_find?_eq_some hlisted)
      rw [hslug, find?_eq_or] at hfound
      cases hfirst : custom.find? (·.hasSlug slug) with
      | some first =>
        rw [hfirst] at hfound
        exact hfound
      | none =>
        rw [List.findRev?_eq_find?_reverse] at hlast
        have hmem := List.mem_reverse.mp (List.mem_of_find?_eq_some hlast)
        exact absurd (List.find?_some hlast) (List.find?_eq_none.mp hfirst last hmem)
  · intro h m hm
    rw [find?_eq_or, h m.slug]
    exact (mem_resolved_iff htext).mp hm

/-- Custom modes of distinct slugs shadow nothing. -/
theorem unshadowed_of_nodup (htext : ∀ n ∈ custom, n.slug.isStr = true)
    (h : (custom.map (·.slug)).Nodup) : Unshadowed custom := by
  intro slug
  cases hfirst : custom.find? (·.hasSlug slug) with
  | none =>
    rw [List.findRev?_eq_find?_reverse, eq_comm, List.find?_eq_none]
    exact fun m hm => List.find?_eq_none.mp hfirst m (List.mem_reverse.mp hm)
  | some first =>
    have hslug := slug_eq_of_find? htext hfirst
    have hmem := List.mem_of_find?_eq_some hfirst
    rw [List.findRev?_eq_find?_reverse, ← hslug, eq_comm]
    refine find?_slug_of_mem (fun n hn => htext n (List.mem_reverse.mp hn)) ?_
      (List.mem_reverse.mpr hmem)
    rwa [List.map_reverse, List.nodup_reverse]

/-- If no custom mode is shadowed, the mode listed under a slug is the one that the slug names. -/
theorem listed_iff_found (htext : ∀ n ∈ custom, n.slug.isStr = true) (h : Unshadowed custom)
    {slug : Json} {m : Mode} :
    (m ∈ resolved custom ∧ m.slug = slug) ↔ find? slug custom = some m := by
  rw [find?_eq_or, h slug, ← find?_resolved htext]
  exact (find?_slug_eq_some_iff (resolved_isStr htext) (resolved_slugs_nodup htext)).symm

end Mode

/-! ## The questions of a profile -/

/-- A decision depends on the custom modes only through the mode that they give the slug. -/
theorem ToolUse.check_congr {use : ToolUse} {custom custom' : List Mode}
    (h : Mode.find? use.slug custom = Mode.find? use.slug custom') :
    use.check custom = use.check custom' := by
  unfold check decideInMode
  rw [h]

namespace Profile

/-- A profile answers every question about the slug of a mode with that mode: it is found, and not by
falling back to the default mode; its groups give the tools; and a decision looks it up (`consulted`)
and is the one that the mode makes on its own. -/
structure Uses (p : Profile) (m : Mode) : Prop where
  find : p.find m.slug = .ok m
  get : p.get m.slug = Report.ok m
  toolsFor : p.toolsFor m.slug = .ok m.tools
  consulted (tool : Json) (call : CallData) (requirements : Requirements) :
    Mode.find? (p.toolUse tool m.slug call requirements).slug p.customModes = some m
  check (tool : Json) (call : CallData) (requirements : Requirements) :
    p.check tool m.slug call requirements = (p.toolUse tool m.slug call requirements).check [m]

/-- The slug that a decision looks up is the given one, except that the empty text counts as none. -/
theorem toolUse_slug (p : Profile) (tool : Json) (s : String) (call : CallData)
    (requirements : Requirements) :
    (p.toolUse tool (.str s) call requirements).slug = if s = "" then p.defaultSlug else .str s := by
  by_cases hs : s = "" <;> simp [toolUse, Json.orElse, Json.truthy, hs]

variable {p : Profile}

/-- A mode is used for its slug exactly if the lookups of that slug and of the one that a decision
looks up both give it. -/
theorem uses_iff {m : Mode} {s : String} (hs : m.slug = .str s) :
    p.Uses m ↔ Mode.find? m.slug p.customModes = some m ∧
      (s = "" → Mode.find? p.defaultSlug p.customModes = some m) := by
  constructor
  · intro h
    refine ⟨Mode.find_eq_ok.mp h.find, fun hempty => ?_⟩
    have hlook := h.consulted .null (.raw .null) .unrestricted
    rwa [hs, toolUse_slug, if_pos hempty] at hlook
  · intro h
    obtain ⟨hfound, hdefault⟩ := h
    have hfind : p.find m.slug = .ok m := Mode.find_eq_ok.mpr hfound
    have hlook : ∀ tool call requirements,
        Mode.find? (p.toolUse tool m.slug call requirements).slug p.customModes = some m := by
      intro tool call requirements
      rw [hs, toolUse_slug]
      by_cases hempty : s = ""
      · rw [if_pos hempty]
        exact hdefault hempty
      · rw [if_neg hempty, ← hs]
        exact hfound
    refine ⟨hfind, ?_, ?_, hlook, fun tool call requirements => ?_⟩
    · unfold Profile.get
      rw [hfound]
      rfl
    · unfold toolsFor
      rw [hfind]
      rfl
    · -- the slug looked up is that of the mode, so the mode alone gives the same mode
      have hlooked := hlook tool call requirements
      have hsame := Mode.hasSlug_of_lookup hlooked
      exact ToolUse.check_congr (hlooked.trans (by simp [Mode.find?, hsame]))

/-- **Listing and lookup agree exactly if no custom mode is shadowed.** The list has the last custom
mode of a slug where the lookup gives the first; so what is listed is what is found exactly if these
are always the same. A profile then also decides by the modes it lists, as long as none has the empty
slug, which stands for the default one. -/
theorem listing_agrees_iff_unshadowed (p : Profile)
    (htext : ∀ n ∈ p.customModes, n.slug.isStr = true) :
    (∀ slug,
      p.modes.find? (·.hasSlug slug) =
        (p.customModes.findRev? (·.hasSlug slug)).or (Mode.builtin? slug) ∧
      Mode.find? slug p.customModes =
        (p.customModes.find? (·.hasSlug slug)).or (Mode.builtin? slug)) ∧
    ((∀ m ∈ p.modes, Mode.find? m.slug p.customModes = some m) ↔
      Mode.Unshadowed p.customModes) ∧
    ((∀ m ∈ p.modes, p.Uses m) ↔
      Mode.Unshadowed p.customModes ∧
        (p.defaultSlug = .str "" ∨ ∀ m ∈ p.customModes, m.slug ≠ .str "")) := by
  have hagree := Mode.find?_of_mem_resolved_iff htext
  have hlisted : ∀ m ∈ p.modes, m.slug.isStr = true := Mode.resolved_isStr htext
  refine ⟨fun slug => ⟨Mode.find?_resolved htext slug, Mode.find?_eq_or slug _⟩, hagree, ?_⟩
  constructor
  · intro huses
    -- a custom mode of the empty slug would be listed, and a decision looks up the default slug for it
    refine ⟨hagree.mp fun m hm => Mode.find_eq_ok.mp (huses m hm).find, ?_⟩
    by_cases hdefault : p.defaultSlug = .str ""
    · exact Or.inl hdefault
    · refine Or.inr fun m hm hempty => hdefault ?_
      obtain ⟨last, hlast, hslug⟩ := Mode.slug_listed htext hm
      have hlook := ((uses_iff (hslug.trans hempty)).mp (huses last hlast)).2 rfl
      rw [← (Mode.hasSlug_iff (hlisted last hlast)).mp (Mode.hasSlug_of_lookup hlook), hslug, hempty]
  · intro h m hm
    obtain ⟨hun, hempty⟩ := h
    have hfound := hagree.mpr hun m hm
    obtain ⟨s, hs⟩ : ∃ s, m.slug = .str s := Json.exists_str (hlisted m hm)
    refine (uses_iff hs).mpr ⟨hfound, fun hs' => ?_⟩
    rw [hs'] at hs
    rcases hempty with hdefault | hnone
    · rw [hdefault, ← hs]
      exact hfound
    · rcases Mode.mem_resolved htext hm with hcustom | hbuiltin
      · exact absurd hs (hnone m hcustom)
      · exact absurd hs (Mode.builtins_slug_ne_empty m hbuiltin)

/-- A mode that may edit. -/
def editingDocs : Mode :=
  { slug := .str "docs", name := .str "Writer", role := .str "You write.", groups := [.simple .edit] }

/-- A mode of the same slug that may only read. -/
def readingDocs : Mode :=
  { slug := .str "docs", name := .str "Reader", role := .str "You read.", groups := [.simple .read] }

/-- A profile that lists the mode that reads, and decides by the one that edits. -/
theorem readingDocs_listed_not_used :
    (∀ n ∈ [editingDocs, readingDocs], n.slug.isStr = true) ∧
    ({ customModes := [editingDocs, readingDocs] } : Profile).modes.find?
      (·.hasSlug (.str "docs")) = some readingDocs ∧
    Mode.find? (.str "docs") [editingDocs, readingDocs] = some editingDocs ∧
    ¬ ∀ m ∈ ({ customModes := [editingDocs, readingDocs] } : Profile).modes,
      ({ customModes := [editingDocs, readingDocs] } : Profile).Uses m := by
  have htext : ∀ n ∈ [editingDocs, readingDocs], n.slug.isStr = true := by
    simp [editingDocs, readingDocs, Json.isStr]
  have hwriter : editingDocs.hasSlug (.str "docs") = true := by
    simp [Mode.hasSlug, editingDocs, Json.same]
  have hreader : readingDocs.hasSlug (.str "docs") = true := by
    simp [Mode.hasSlug, readingDocs, Json.same]
  obtain ⟨hboth, -, hall⟩ :=
    listing_agrees_iff_unshadowed { customModes := [editingDocs, readingDocs] } htext
  obtain ⟨hlisted, hfound⟩ := hboth (.str "docs")
  refine ⟨htext, ?_, ?_, fun h => ?_⟩
  · rw [hlisted]
    simp [List.findRev?, hreader]
  · rw [hfound]
    simp [hwriter]
  · have hsame := (hall.mp h).1 (.str "docs")
    simp [List.findRev?, hreader, hwriter] at hsame
    simp [editingDocs, readingDocs] at hsame

end Profile

end ModePolicy
