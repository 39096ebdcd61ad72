import ModePolicy.Proofs.Mode.Listing

/-!
# What merging custom modes leaves

The list of all modes is made by putting one custom mode after another in its place among the built-in
ones. Whatever the custom modes are, also if slugs are repeated among them:

> `resolved_is_merge`: each slug is listed once, the built-in ones first and then the others in the
> order in which they first occur; under a slug stands the last custom mode that has it, or else the
> built-in one; and merging what is listed changes nothing.

What one mode adds to the slugs is said once (`slugNames_place`). The slugs of the whole list are then
those of the base and of the custom modes without repetitions (`slugNames_foldl_place`), and its
content is given by `find?_resolved`. Modes of distinct slugs are told by their slugs in order and by
their membership (`eq_of_map_slug_eq`), and both stay the same in a second merge.
-/

namespace ModePolicy

namespace Mode

/-! ## The slugs of a list -/

/-- The slugs of modes whose slugs are texts. -/
def slugNames (modes : List Mode) : List String := modes.filterMap (·.slug.str?)

variable {modes custom : List Mode}

theorem slugNames_cons {m : Mode} {s : String} (hs : m.slug = .str s) (rest : List Mode) :
    slugNames (m :: rest) = s :: slugNames rest := by
  simp [slugNames, hs, Json.str?]

theorem map_slug_eq (htext : ∀ n ∈ modes, n.slug.isStr = true) :
    modes.map (·.slug) = (slugNames modes).map .str := by
  induction modes with
  | nil => rfl
  | cons m rest ih =>
    obtain ⟨hm, hrest⟩ := List.forall_mem_cons.mp htext
    obtain ⟨s, hs⟩ := Json.exists_str hm
    rw [slugNames_cons hs, List.map_cons, List.map_cons, ih hrest, hs]

theorem mem_slugNames (htext : ∀ n ∈ modes, n.slug.isStr = true) {s : String} :
    s ∈ slugNames modes ↔ ∃ m ∈ modes, m.slug = .str s := by
  rw [← List.mem_map (f := Mode.slug), map_slug_eq htext]
  simp

theorem slugNames_nodup (htext : ∀ n ∈ modes, n.slug.isStr = true)
    (h : (modes.map (·.slug)).Nodup) : (slugNames modes).Nodup := by
  rw [map_slug_eq htext] at h
  exact List.Nodup.of_map _ h

/-- Putting a mode in its place adds its slug at the end, unless it is there. -/
theorem slugNames_place {new : Mode} {s : String} (hnew : new.slug = .str s)
    (htext : ∀ n ∈ modes, n.slug.isStr = true) :
    slugNames (place new modes) =
      slugNames modes ++ if s ∈ slugNames modes then [] else [s] := by
  have hplaced : ∀ n ∈ place new modes, n.slug.isStr = true :=
    place_isStr (hnew ▸ rfl : new.slug.isStr = true) htext
  have hslugs : (place new modes).map (·.slug) = _ := map_slug_place htext
  have hthere : isCustom new.slug modes = true ↔ s ∈ slugNames modes := by
    rw [isCustom_iff htext, List.mem_map, hnew, mem_slugNames htext]
  rw [map_slug_eq hplaced, map_slug_eq htext] at hslugs
  refine List.map_injective_iff.mpr (fun _ _ h => Json.str.inj h) (hslugs.trans ?_)
  by_cases hs : s ∈ slugNames modes
  · simp [hs, hthere.mpr hs]
  · rw [if_neg hs, if_neg (mt hthere.mp hs), hnew, List.map_append]
    rfl

/-- The slugs after all custom modes have been put in their places: those of the base, and then the
others where they first occur. -/
theorem slugNames_foldl_place (custom : List Mode) : ∀ {base : List Mode},
    (∀ n ∈ custom, n.slug.isStr = true) → (∀ n ∈ base, n.slug.isStr = true) →
    (slugNames base).Nodup →
    slugNames (custom.foldl (fun modes new => place new modes) base) =
      (slugNames base ++ slugNames custom).eraseDups := by
  induction custom with
  | nil =>
    intro base _ _ hnodup
    have hnames : slugNames base ++ slugNames [] = slugNames base := List.append_nil _
    rw [hnames, eraseDups_of_nodup hnodup]
    rfl
  | cons new rest ih =>
    intro base hcustom hbase hnodup
    obtain ⟨hnew, hrest⟩ := List.forall_mem_cons.mp hcustom
    obtain ⟨s, hs⟩ := Json.exists_str hnew
    have hplaced := place_isStr hnew hbase
    obtain ⟨hnodup', hsame⟩ := eraseDups_collect hnodup (slugNames_place hs hbase)
    rw [List.foldl_cons, slugNames_cons hs, ih hrest hplaced hnodup', hsame]

theorem slugNames_builtins : slugNames builtins = builtinSlugs := rfl

/-- The slugs that are listed: the built-in ones, and then the others where they first occur. -/
theorem slugNames_resolved (htext : ∀ n ∈ custom, n.slug.isStr = true) :
    slugNames (resolved custom) =
      builtinSlugs ++ ((slugNames custom).filter (· ∉ builtinSlugs)).eraseDups := by
  have hnodup := slugNames_nodup builtins_isStr builtins_slugs_nodup
  have hothers : (slugNames custom).removeAll builtinSlugs =
      (slugNames custom).filter (· ∉ builtinSlugs) := by
    simp [List.removeAll]
  unfold resolved
  rw [slugNames_foldl_place custom htext builtins_isStr hnodup, List.eraseDups_append,
    eraseDups_of_nodup hnodup, slugNames_builtins, hothers]

/-- Of custom modes with distinct slugs, those that hide no built-in mode are listed after the built-in
ones, in their order. -/
theorem map_slug_resolved (htext : ∀ n ∈ custom, n.slug.isStr = true)
    (hnodup : (custom.map (·.slug)).Nodup) :
    (resolved custom).map (·.slug) =
      builtins.map (·.slug) ++ (custom.filter fun m => (builtin? m.slug).isNone).map (·.slug) := by
  have hnew : ∀ s : String, (builtin? (.str s)).isNone = true ↔ s ∉ builtinSlugs := by
    intro s
    unfold builtin?
    rw [Option.isNone_iff_eq_none, List.find?_eq_none, ← slugNames_builtins,
      mem_slugNames builtins_isStr, not_exists]
    simp only [hasSlug_iff_of_text (rfl : (Json.str s).isStr = true), not_and]
  have hothers : (custom.filter fun m => (builtin? m.slug).isNone).map (·.slug) =
      ((slugNames custom).filter (· ∉ builtinSlugs)).map .str := by
    calc (custom.filter fun m => (builtin? m.slug).isNone).map (·.slug)
        = (custom.map (·.slug)).filter (fun slug => (builtin? slug).isNone) := by
          rw [List.filter_map]
          rfl
      _ = ((slugNames custom).filter (fun s => (builtin? (.str s)).isNone)).map .str := by
          rw [map_slug_eq htext, List.filter_map]
          rfl
      _ = ((slugNames custom).filter (· ∉ builtinSlugs)).map .str := by
          congr 1
          exact List.filter_congr fun s _ => Bool.eq_iff_iff.mpr ((hnew s).trans (by simp))
  -- distinct slugs have no repetitions to be erased
  have honce := (slugNames_nodup htext hnodup).filter (· ∉ builtinSlugs)
  rw [hothers, map_slug_eq (resolved_isStr htext), slugNames_resolved htext,
    eraseDups_of_nodup honce, List.map_append, map_slug_builtins]

/-! ## The modes of a list -/

/-- The mode is in the list, and no later one has its slug. -/
def LastOfSlug (modes : List Mode) (m : Mode) : Prop :=
  ∃ before after, modes = before ++ m :: after ∧ ∀ n ∈ after, n.slug ≠ m.slug

/-- A search from the end gives the last mode of a slug. -/
theorem findRev?_slug_eq_some (htext : ∀ n ∈ modes, n.slug.isStr = true) {m : Mode} :
    modes.findRev? (·.hasSlug m.slug) = some m ↔ LastOfSlug modes m := by
  rw [List.findRev?_eq_find?_reverse, List.find?_eq_some_iff_append]
  constructor
  · intro h
    obtain ⟨-, after, before, heq, hafter⟩ := h
    have hmodes : modes = before.reverse ++ m :: after.reverse := by
      simpa using congrArg List.reverse heq
    refine ⟨_, _, hmodes, fun n hn hslug => ?_⟩
    have hn' : n ∈ modes := hmodes ▸ List.mem_append_right _ (List.mem_cons_of_mem _ hn)
    have hother := hafter n (List.mem_reverse.mp hn)
    rw [(hasSlug_iff (htext n hn')).mpr hslug] at hother
    exact absurd hother (by simp)
  · intro h
    obtain ⟨before, after, rfl, hafter⟩ := h
    obtain ⟨hm, htext⟩ := List.forall_mem_cons.mp (List.forall_mem_append.mp htext).2
    refine ⟨(hasSlug_iff hm).mpr rfl, after.reverse, before.reverse, by simp, fun n hn => ?_⟩
    have hn := List.mem_reverse.mp hn
    simp [hasSlug_eq_false (htext n hn) (hafter n hn)]

/-- The search gives nothing if there is no mode of the slug. -/
theorem findRev?_slug_eq_none (htext : ∀ n ∈ modes, n.slug.isStr = true) {slug : Json} :
    modes.findRev? (·.hasSlug slug) = none ↔ ∀ n ∈ modes, n.slug ≠ slug := by
  rw [List.findRev?_eq_find?_reverse, List.find?_eq_none]
  simp only [List.mem_reverse]
  exact forall₂_congr fun n hn => not_congr (hasSlug_iff (htext n hn))

/-- The modes listed are the last custom mode of every slug and the built-in modes of the others. -/
theorem mem_resolved_iff_last (htext : ∀ n ∈ custom, n.slug.isStr = true) {m : Mode} :
    m ∈ resolved custom ↔
      LastOfSlug custom m ∨ (∀ n ∈ custom, n.slug ≠ m.slug) ∧ m ∈ builtins := by
  rw [mem_resolved_iff htext, Option.or_eq_some_iff, findRev?_slug_eq_some htext,
    findRev?_slug_eq_none htext]
  refine or_congr_right (and_congr_right fun _ => ⟨List.mem_of_find?_eq_some, fun hm => ?_⟩)
  exact find?_slug_of_mem builtins_isStr builtins_slugs_nodup hm

/-- Modes of distinct slugs are told by their slugs in order and by which modes they are. -/
theorem eq_of_map_slug_eq {xs : List Mode} : ∀ {ys : List Mode},
    xs.map (·.slug) = ys.map (·.slug) → (xs.map (·.slug)).Nodup → (∀ m ∈ xs, m ∈ ys) →
    xs = ys := by
  induction xs with
  | nil => exact fun hslugs _ _ => (List.map_eq_nil_iff.mp hslugs.symm).symm
  | cons x xs ih =>
    intro ys hslugs hnodup hmem
    cases ys with
    | nil => exact absurd hslugs (by simp)
    | cons y ys =>
      obtain ⟨hhead, htail⟩ := List.cons.inj hslugs
      obtain ⟨hnew, hnodup⟩ := List.nodup_cons.mp hnodup
      obtain ⟨hx, hxs⟩ := List.forall_mem_cons.mp hmem
      -- the first mode of the one list cannot stand further back in the other
      obtain rfl : x = y := (List.mem_cons.mp hx).resolve_right fun hlater =>
        hnew (htail ▸ List.mem_map_of_mem hlater)
      refine congrArg (x :: ·) (ih htail hnodup fun m hm => ?_)
      refine (List.mem_cons.mp (hxs m hm)).resolve_left fun heq => hnew ?_
      exact heq ▸ List.mem_map_of_mem hm

/-- A slug is listed exactly if it names a mode. -/
theorem exists_listed_iff (htext : ∀ n ∈ custom, n.slug.isStr = true) (slug : Json) :
    (∃ m ∈ resolved custom, m.slug = slug) ↔ (find? slug custom).isSome = true := by
  have hlisted : (∃ m ∈ resolved custom, m.slug = slug) ↔
      ((resolved custom).find? (·.hasSlug slug)).isSome = true := by
    rw [List.find?_isSome]
    exact exists_congr fun m => and_congr_right fun hm =>
      (hasSlug_iff (resolved_isStr htext m hm)).symm
  rw [hlisted, find?_resolved htext, find?_eq_or, Option.isSome_or, Option.isSome_or,
    List.findRev?_eq_find?_reverse, Bool.or_eq_true, Bool.or_eq_true, List.find?_isSome,
    List.find?_isSome]
  simp only [List.mem_reverse]

/-- Merging what is listed changes nothing. -/
theorem resolved_resolved (htext : ∀ n ∈ custom, n.slug.isStr = true) :
    resolved (resolved custom) = resolved custom := by
  have hlisted := resolved_isStr htext
  have hagain := resolved_isStr hlisted
  have hnodup := resolved_slugs_nodup htext
  refine eq_of_map_slug_eq ?_ (resolved_slugs_nodup hlisted) fun m hm => ?_
  · -- of the slugs listed, the built-in ones are there and the others are not repeated
    obtain ⟨others, hothers, hnew⟩ : ∃ others,
        slugNames (resolved custom) = builtinSlugs ++ others ∧ ∀ s ∈ others, s ∉ builtinSlugs := by
      refine ⟨_, slugNames_resolved htext, fun s hs => ?_⟩
      simpa using (List.mem_filter.mp (List.mem_eraseDups.mp hs)).2
    have hkept : (builtinSlugs ++ others).filter (· ∉ builtinSlugs) = others := by
      rw [List.filter_append, List.filter_eq_nil_iff.mpr (by simp), List.nil_append,
        List.filter_eq_self.mpr (by simpa using hnew)]
    have honce : others.Nodup :=
      (hothers ▸ slugNames_nodup hlisted hnodup : (builtinSlugs ++ others).Nodup).of_append_right
    rw [map_slug_eq hagain, map_slug_eq hlisted, slugNames_resolved hlisted, hothers, hkept,
      eraseDups_of_nodup honce]
  · -- the list names every built-in slug, so no built-in mode comes in
    rcases (mem_resolved_iff_last hlisted).mp hm with ⟨before, after, heq, -⟩ | ⟨hnone, hbuiltin⟩
    · rw [heq]
      exact List.mem_append_right _ (List.mem_cons_self ..)
    · have hnamed : (find? m.slug custom).isSome = true := by
        have hfound : builtin? m.slug = some m :=
          find?_slug_of_mem builtins_isStr builtins_slugs_nodup hbuiltin
        rw [find?_eq_or, hfound, Option.isSome_or]
        exact Bool.or_true _
      obtain ⟨n, hn, hslug⟩ := (exists_listed_iff htext m.slug).mpr hnamed
      exact absurd hslug (hnone n hn)

/-- **Merging custom modes.** Every slug is listed once. The built-in slugs come first, and then the
others in the order in which they first occur among the custom modes. Under a slug stands the last
custom mode that has it, or else the built-in one. Merging what is listed changes nothing, and the
slugs listed are those that name a mode. -/
theorem resolved_is_merge (htext : ∀ n ∈ custom, n.slug.isStr = true) :
    ((resolved custom).map (·.slug)).Nodup ∧
    (resolved custom).map (·.slug) = builtins.map (·.slug) ++
      ((slugNames custom).filter (· ∉ builtinSlugs)).eraseDups.map .str ∧
    (∀ m, m ∈ resolved custom ↔
      LastOfSlug custom m ∨ (∀ n ∈ custom, n.slug ≠ m.slug) ∧ m ∈ builtins) ∧
    resolved (resolved custom) = resolved custom ∧
    ∀ slug, (∃ m ∈ resolved custom, m.slug = slug) ↔ (find? slug custom).isSome = true := by
  refine ⟨resolved_slugs_nodup htext, ?_, fun m => mem_resolved_iff_last htext,
    resolved_resolved htext, exists_listed_iff htext⟩
  rw [map_slug_eq (resolved_isStr htext), slugNames_resolved htext, List.map_append,
    map_slug_builtins]

/-- A mode that takes the place of the built-in one that asks. -/
def terseAsk : Mode := { ask with name := .str "Terse" }

/-- Custom modes of which two have one slug, around one that hides a built-in mode. -/
def repeatedDocs : List Mode := [Profile.editingDocs, terseAsk, Profile.readingDocs]

/-- They are listed as one mode after the built-in ones, which is the later one. -/
theorem repeatedDocs_merged :
    (∀ n ∈ repeatedDocs, n.slug.isStr = true) ∧
    (resolved repeatedDocs).map (·.slug) = builtins.map (·.slug) ++ [.str "docs"] ∧
    Profile.readingDocs ∈ resolved repeatedDocs ∧ terseAsk ∈ resolved repeatedDocs ∧
    resolved (resolved repeatedDocs) = resolved repeatedDocs := by
  have htext : ∀ n ∈ repeatedDocs, n.slug.isStr = true := by
    simp [repeatedDocs, terseAsk, ask, Profile.editingDocs, Profile.readingDocs, Json.isStr]
  have hnew : ((slugNames repeatedDocs).filter (· ∉ builtinSlugs)).eraseDups = ["docs"] := by decide
  obtain ⟨-, hslugs, hmem, hagain, -⟩ := resolved_is_merge htext
  rw [hnew] at hslugs
  refine ⟨htext, hslugs, (hmem _).mpr (Or.inl ⟨[_, _], [], rfl, by simp⟩),
    (hmem _).mpr (Or.inl ⟨[_], _, rfl, ?_⟩), hagain⟩
  simp [terseAsk, ask, Profile.readingDocs]

end Mode

end ModePolicy
