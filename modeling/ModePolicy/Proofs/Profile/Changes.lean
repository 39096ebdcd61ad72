import ModePolicy.Proofs.Mode.Merging
import ModePolicy.Proofs.Settings.Import

/-!
# Profiles as ordered maps

A profile starts from imported settings and is changed by registering and unregistering modes. After
any such history it behaves as a map from slugs to modes that keeps an order:

> `imported_profile_is_ordered_map`: the custom modes are valid and of distinct slugs; a slug stands
> for the mode registered last under it, else for the imported one, else for the built-in one
> (`StandsFor`); the list of all modes has each slug once, in order, with the mode it stands for.

What one change does to the custom modes is said once, by `Mode.place_cases` and `without_cases`: a
mode takes the place of another, or goes to the end, or one mode is taken out. The invariant
(`Profile.Sound`) and the meaning of a slug (`find?_run`) are inductions over the history with one
such step. An import establishes the invariant since the validator has refused everything else.
-/

namespace ModePolicy

/-! ## Single changes of a list of modes -/

namespace Mode

/-- A mode takes the place of the first one of its slug, or goes to the end if there is none. -/
theorem place_cases (new : Mode) {modes : List Mode} (htext : ∀ n ∈ modes, n.slug.isStr = true) :
    (∃ before old after, modes = before ++ old :: after ∧ old.slug = new.slug ∧
      place new modes = before ++ new :: after) ∨
    ((∀ n ∈ modes, n.slug ≠ new.slug) ∧ place new modes = modes ++ [new]) := by
  induction modes with
  | nil => exact Or.inr ⟨by simp, rfl⟩
  | cons m rest ih =>
    obtain ⟨hm, hrest⟩ := List.forall_mem_cons.mp htext
    unfold place
    by_cases hsame : m.slug = new.slug
    · rw [if_pos ((hasSlug_iff hm).mpr hsame)]
      exact Or.inl ⟨[], m, rest, rfl, hsame, rfl⟩
    · rw [if_neg (by simp [hasSlug_eq_false hm hsame])]
      rcases ih hrest with ⟨before, old, after, rfl, hold, hplace⟩ | ⟨hnone, hplace⟩
      · exact Or.inl ⟨m :: before, old, after, rfl, hold, by rw [hplace]; rfl⟩
      · exact Or.inr ⟨List.forall_mem_cons.mpr ⟨hsame, hnone⟩, by rw [hplace]; rfl⟩

end Mode

namespace Profile

variable {modes : List Mode} {slug : Json}

/-- Of modes with distinct slugs, one is taken out or none is there to be taken. -/
theorem without_cases (htext : ∀ n ∈ modes, n.slug.isStr = true)
    (hnodup : (modes.map (·.slug)).Nodup) (slug : Json) :
    (∃ before old after, modes = before ++ old :: after ∧ old.slug = slug ∧
      without slug modes = before ++ after) ∨
    ((∀ n ∈ modes, n.slug ≠ slug) ∧ without slug modes = modes) := by
  have hkeep : ∀ kept : List Mode, (∀ n ∈ kept, n ∈ modes) → (∀ n ∈ kept, n.slug ≠ slug) →
      without slug kept = kept := by
    intro kept hsub hne
    refine List.filter_eq_self.mpr fun n hn => ?_
    simp [Mode.hasSlug_eq_false (htext n (hsub n hn)) (hne n hn)]
  by_cases hex : ∃ old ∈ modes, old.slug = slug
  · obtain ⟨old, hold, hslug⟩ := hex
    obtain ⟨before, after, rfl⟩ := List.mem_iff_append.mp hold
    refine Or.inl ⟨before, old, after, rfl, hslug, ?_⟩
    rw [List.map_append, List.map_cons, List.nodup_append, List.nodup_cons] at hnodup
    obtain ⟨-, ⟨hafter, -⟩, hbefore⟩ := hnodup
    have hbefore : without slug before = before := by
      refine hkeep before (by simp_all) fun n hn h => ?_
      exact hbefore n.slug (List.mem_map_of_mem hn) old.slug (List.mem_cons_self ..)
        (h.trans hslug.symm)
    have hafter : without slug after = after := by
      refine hkeep after (by simp_all) fun n hn h => ?_
      exact hafter (hslug.trans h.symm ▸ List.mem_map_of_mem hn)
    have hgone : old.hasSlug slug = true := (Mode.hasSlug_iff (htext old hold)).mpr hslug
    calc without slug (before ++ old :: after)
        = without slug before ++ without slug after := by simp [without, hgone]
      _ = before ++ after := by rw [hbefore, hafter]
  · have hne : ∀ n ∈ modes, n.slug ≠ slug := fun n hn h => hex ⟨n, hn, h⟩
    exact Or.inr ⟨hne, hkeep modes (fun _ hn => hn) hne⟩

theorem find?_without_self (slug : Json) (modes : List Mode) :
    (without slug modes).find? (·.hasSlug slug) = none := by
  refine List.find?_eq_none.mpr fun n hn => ?_
  have hkept := (List.mem_filter.mp hn).2
  simpa using hkept

/-- Taking modes out changes nothing for other slugs. -/
theorem find?_without_of_ne {other : Json}
    (hother : ∀ n ∈ modes, n.hasSlug other = true → n.hasSlug slug = false) :
    (without slug modes).find? (·.hasSlug other) = modes.find? (·.hasSlug other) := by
  unfold without
  rw [List.find?_filter]
  refine List.find?_congr fun n hn => ?_
  cases hs : n.hasSlug other with
  | false => simp
  | true => simp [hother n hn hs]

/-! ## Changes of a profile -/

/-- A change of the modes of a profile. -/
inductive Change where
  | register (m : Mode)
  | unregister (slug : Json)

/-- The profile after a change. A change that fails leaves the profile as it is. -/
def apply (p : Profile) : Change → Profile
  | .register m =>
    match (p.register m).result with
    | .ok q => q
    | .error _ => p
  | .unregister slug =>
    match (p.unregister slug).result with
    | .ok (q, _) => q
    | .error _ => p

/-- The profile after a history of changes. -/
def run (p : Profile) (history : List Change) : Profile := history.foldl apply p

@[simp] theorem run_nil (p : Profile) : p.run [] = p := rfl

@[simp] theorem run_snoc (p : Profile) (history : List Change) (c : Change) :
    p.run (history ++ [c]) = (p.run history).apply c := by
  unfold run
  rw [List.foldl_append]
  rfl

variable {p : Profile}

/-- A mode is registered exactly if it is valid, and then it is put in its place. -/
theorem register_succeeds {m : Mode} {q : Profile} :
    (p.register m).result = .ok q ↔
      m.Valid ∧ q = { p with customModes := m.place p.customModes } := by
  rw [← Mode.flaws_toJson]
  unfold register
  cases hflaws : Mode.flaws m.toJson with
  | error failure => simp
  | ok found =>
    cases found with
    | nil => simpa using eq_comm
    | cons flaw found => simp

/-- Unregistering always gives an answer: whether there were modes of the slug, which are gone. -/
theorem result_unregister (p : Profile) (slug : Json) :
    (p.unregister slug).result =
      .ok ({ p with customModes := without slug p.customModes },
        Mode.isCustom slug p.customModes) := by
  unfold unregister
  by_cases hlength : (without slug p.customModes).length = p.customModes.length
  · have hnone : ∀ m ∈ p.customModes, m.hasSlug slug = false := by
      simpa [without, List.length_filter_eq_length_iff] using hlength
    have hsame : without slug p.customModes = p.customModes :=
      List.filter_eq_self.mpr fun m hm => by simp [hnone m hm]
    have hcustom : Mode.isCustom slug p.customModes = false := by
      simpa [Mode.isCustom] using hnone
    simp [hsame, hcustom]
  · have hcustom : Mode.isCustom slug p.customModes = true := by
      by_contra hnone
      refine hlength (List.length_filter_eq_length_iff.mpr fun m hm => ?_)
      have hm' : ∀ n ∈ p.customModes, n.hasSlug slug = false := by simpa [Mode.isCustom] using hnone
      simp [hm' m hm]
    simp [hlength, hcustom]

theorem apply_register_of_valid {m : Mode} (hm : m.Valid) :
    p.apply (.register m) = { p with customModes := m.place p.customModes } := by
  have hq := (register_succeeds (p := p)).mpr ⟨hm, rfl⟩
  simp [apply, hq]

theorem apply_register_of_not_valid {m : Mode} (hm : ¬ m.Valid) : p.apply (.register m) = p := by
  unfold apply
  cases hq : (p.register m).result with
  | error failure => simp [hq]
  | ok q => exact absurd (register_succeeds.mp hq).1 hm

theorem apply_unregister (p : Profile) (slug : Json) :
    p.apply (.unregister slug) = { p with customModes := without slug p.customModes } := by
  simp [apply, result_unregister]

/-! ## What every change keeps -/

/-- The custom modes are valid and of distinct slugs. -/
structure Sound (p : Profile) : Prop where
  valid : ∀ m ∈ p.customModes, m.Valid
  distinct : (p.customModes.map (·.slug)).Nodup

theorem Sound.isStr (h : p.Sound) : ∀ m ∈ p.customModes, m.slug.isStr = true :=
  fun m hm => (h.valid m hm).slug_isStr

/-- The profile of imported settings is sound. -/
theorem sound_ofSettings {text : String} {s : Settings}
    (h : (Settings.ofText text).result = .ok s) :
    (ofSettings s).Sound := by
  obtain ⟨hvalid, hdistinct⟩ := Settings.customModes_of_ofText h
  exact ⟨hvalid, hdistinct⟩

theorem Sound.apply (h : p.Sound) (c : Change) : (p.apply c).Sound := by
  cases c with
  | register m =>
    by_cases hm : m.Valid
    · rw [apply_register_of_valid hm]
      refine ⟨fun n hn => ?_, Mode.place_slugs_nodup h.isStr h.distinct⟩
      rcases Mode.mem_place hn with rfl | hn
      · exact hm
      · exact h.valid n hn
    · rw [apply_register_of_not_valid hm]
      exact h
  | unregister slug =>
    rw [apply_unregister]
    exact ⟨fun n hn => h.valid n (List.mem_of_mem_filter hn),
      h.distinct.sublist (List.filter_sublist.map _)⟩

theorem Sound.run (h : p.Sound) (history : List Change) : (p.run history).Sound := by
  induction history using List.reverseRecOn with
  | nil => exact h
  | append_singleton history c ih =>
    rw [run_snoc]
    exact ih.apply c

/-! ## What a slug stands for -/

/-- The change decides what a slug stands for: a mode that can be registered has it, or it is
unregistered. -/
def Change.Touches (slug : Json) : Change → Prop
  | .register m => Mode.flaws m.toJson = .ok [] ∧ m.slug = slug
  | .unregister other => other = slug

/-- The mode is the last one that was registered under a slug, and has not been unregistered
since. -/
def LastRegistered (history : List Change) (slug : Json) (m : Mode) : Prop :=
  ∃ before after, history = before ++ .register m :: after ∧ Mode.flaws m.toJson = .ok [] ∧
    m.slug = slug ∧ ∀ c ∈ after, ¬ c.Touches slug

theorem lastRegistered_snoc {history : List Change} {c : Change} {slug : Json} {m : Mode} :
    LastRegistered (history ++ [c]) slug m ↔
      (c = .register m ∧ c.Touches slug) ∨ (¬ c.Touches slug ∧ LastRegistered history slug m) := by
  constructor
  · intro h
    obtain ⟨before, after, heq, hm, hslug, hafter⟩ := h
    rcases List.eq_nil_or_concat' after with rfl | ⟨after, last, rfl⟩
    · -- the last change is the registration
      have hlast : c = .register m := by simpa using (List.append_inj' heq rfl).2
      subst hlast
      exact Or.inl ⟨rfl, hm, hslug⟩
    · -- or it comes after it
      rw [← List.cons_append, ← List.append_assoc] at heq
      obtain ⟨hhistory, hlast⟩ := List.append_inj' heq rfl
      obtain rfl : c = last := by simpa using hlast
      refine Or.inr ⟨hafter c (by simp), before, after, hhistory, hm, hslug, fun d hd => ?_⟩
      exact hafter d (List.mem_append_left _ hd)
  · intro h
    rcases h with ⟨rfl, hm, hslug⟩ | ⟨hc, before, after, rfl, hm, hslug, hafter⟩
    · exact ⟨history, [], by simp, hm, hslug, by simp⟩
    · refine ⟨before, after ++ [c], by simp, hm, hslug, fun d hd => ?_⟩
      rcases List.mem_append.mp hd with hd | hd
      · exact hafter d hd
      · rw [List.mem_singleton.mp hd]
        exact hc

/-- A search in the custom modes after one change. -/
theorem find?_apply (htext : ∀ n ∈ p.customModes, n.slug.isStr = true) (c : Change) (slug : Json) :
    (∀ m, c = .register m → c.Touches slug →
      (p.apply c).customModes.find? (·.hasSlug slug) = some m) ∧
    (c = .unregister slug → (p.apply c).customModes.find? (·.hasSlug slug) = none) ∧
    (¬ c.Touches slug →
      (p.apply c).customModes.find? (·.hasSlug slug) = p.customModes.find? (·.hasSlug slug)) := by
  cases c with
  | register m =>
    refine ⟨fun n hn htouch => ?_, fun hother => Change.noConfusion hother, fun htouch => ?_⟩
    · obtain rfl : m = n := Change.register.inj hn
      obtain ⟨hflaws, hslug⟩ := htouch
      have hm := Mode.flaws_toJson.mp hflaws
      have hown : m.hasSlug slug = true := (Mode.hasSlug_iff hm.slug_isStr).mpr hslug
      rw [apply_register_of_valid hm, Mode.find?_place hm.slug_isStr, if_pos hown]
    · by_cases hm : m.Valid
      · have hother : m.hasSlug slug = false := Mode.hasSlug_eq_false hm.slug_isStr fun hslug =>
          htouch ⟨Mode.flaws_toJson.mpr hm, hslug⟩
        rw [apply_register_of_valid hm, Mode.find?_place hm.slug_isStr, hother]
        rfl
      · rw [apply_register_of_not_valid hm]
  | unregister other =>
    rw [apply_unregister]
    refine ⟨fun m hm => Change.noConfusion hm, fun hsame => ?_, fun htouch => ?_⟩
    · obtain rfl : other = slug := Change.unregister.inj hsame
      exact find?_without_self other p.customModes
    · refine find?_without_of_ne fun n hn hs => Mode.hasSlug_eq_false (htext n hn) fun h => ?_
      exact htouch (h.symm.trans ((Mode.hasSlug_iff (htext n hn)).mp hs))

/-- A search in the custom modes after a history gives the mode registered last; if there is none it
gives nothing once the slug has been unregistered, and before that what it gave at the beginning. -/
theorem find?_run (h : p.Sound) (history : List Change) (slug : Json) :
    (∀ m, LastRegistered history slug m →
      (p.run history).customModes.find? (·.hasSlug slug) = some m) ∧
    ((∀ m, ¬ LastRegistered history slug m) →
      (.unregister slug ∈ history →
        (p.run history).customModes.find? (·.hasSlug slug) = none) ∧
      (.unregister slug ∉ history →
        (p.run history).customModes.find? (·.hasSlug slug) =
          p.customModes.find? (·.hasSlug slug))) := by
  induction history using List.reverseRecOn with
  | nil => exact ⟨fun m ⟨before, after, heq, _⟩ => by simp at heq, fun _ => ⟨by simp, fun _ => rfl⟩⟩
  | append_singleton history c ih =>
    obtain ⟨hregister, hunregister, hother⟩ := find?_apply (h.run history).isStr c slug
    obtain ⟨ihlast, ihnone⟩ := ih
    rw [run_snoc]
    refine ⟨fun m hm => ?_, fun hnone => ?_⟩
    · rcases lastRegistered_snoc.mp hm with ⟨hc, htouch⟩ | ⟨hc, hm⟩
      · exact hregister m hc htouch
      · rw [hother hc]
        exact ihlast m hm
    · by_cases hc : c.Touches slug
      · -- the change can only be the unregistration
        have hgone : c = .unregister slug := by
          cases c with
          | register m => exact absurd (lastRegistered_snoc.mpr (Or.inl ⟨rfl, hc⟩)) (hnone m)
          | unregister other => exact congrArg Change.unregister hc
        exact ⟨fun _ => hunregister hgone, fun hmem => absurd (by simp [hgone]) hmem⟩
      · have hbefore := ihnone fun m hm => hnone m (lastRegistered_snoc.mpr (Or.inr ⟨hc, hm⟩))
        have hmem : .unregister slug ∈ history ++ [c] ↔ .unregister slug ∈ history := by
          rw [List.mem_append, List.mem_singleton]
          exact or_iff_left fun heq => hc (heq ▸ rfl)
        rw [hmem, hother hc]
        exact hbefore

/-- What a slug stands for after a history that began with imported modes: the mode registered last
under it and not unregistered since; else the imported one, if the slug was never unregistered; else
the built-in one. -/
inductive StandsFor (imported : List Mode) (history : List Change) (slug : Json) (m : Mode) : Prop
  | registered (h : LastRegistered history slug m)
  | imported (hnone : ∀ n, ¬ LastRegistered history slug n) (hkept : .unregister slug ∉ history)
      (hm : m ∈ imported) (hslug : m.slug = slug)
  | builtin (hnone : ∀ n, ¬ LastRegistered history slug n)
      (hfree : .unregister slug ∈ history ∨ ∀ n ∈ imported, n.slug ≠ slug)
      (hm : Mode.builtin? slug = some m)

/-- Where nothing was registered last, an imported mode of the slug counts until it is unregistered,
and the built-in one counts after that or if there is none. -/
theorem standsFor_unregistered {imported : List Mode} {history : List Change} {slug : Json}
    {m : Mode} (hnone : ∀ n, ¬ LastRegistered history slug n) :
    StandsFor imported history slug m ↔
      (.unregister slug ∉ history ∧ m ∈ imported ∧ m.slug = slug) ∨
      ((.unregister slug ∈ history ∨ ∀ n ∈ imported, n.slug ≠ slug) ∧
        Mode.builtin? slug = some m) := by
  constructor
  · intro h
    cases h with
    | registered h => exact absurd h (hnone m)
    | imported _ hkept hm hslug => exact Or.inl ⟨hkept, hm, hslug⟩
    | builtin _ hfree hm => exact Or.inr ⟨hfree, hm⟩
  · intro h
    rcases h with ⟨hkept, hm, hslug⟩ | ⟨hfree, hm⟩
    · exact .imported hnone hkept hm hslug
    · exact .builtin hnone hfree hm

/-- A search in modes of distinct slugs, falling back to the built-in ones. -/
theorem find?_or_builtin (h : p.Sound) {slug : Json} {m : Mode} :
    (p.customModes.find? (·.hasSlug slug)).or (Mode.builtin? slug) = some m ↔
      (m ∈ p.customModes ∧ m.slug = slug) ∨
      ((∀ n ∈ p.customModes, n.slug ≠ slug) ∧ Mode.builtin? slug = some m) := by
  cases hfind : p.customModes.find? (·.hasSlug slug) with
  | some n =>
    have hn := List.mem_of_find?_eq_some hfind
    have hslug := Mode.slug_eq_of_find? h.isStr hfind
    rw [Option.some_or]
    constructor
    · intro hnm
      obtain rfl : n = m := Option.some.inj hnm
      exact Or.inl ⟨hn, hslug⟩
    · intro hm
      rcases hm with ⟨hm, hmslug⟩ | ⟨hnone, -⟩
      · have hsame := Mode.find?_slug_of_mem h.isStr h.distinct hm
        rw [hmslug] at hsame
        exact hfind.symm.trans hsame
      · exact absurd hslug (hnone n hn)
  | none =>
    have hnone : ∀ n ∈ p.customModes, n.slug ≠ slug := fun n hn hslug =>
      absurd ((Mode.hasSlug_iff (h.isStr n hn)).mpr hslug) (List.find?_eq_none.mp hfind n hn)
    rw [Option.none_or]
    constructor
    · exact fun hm => Or.inr ⟨hnone, hm⟩
    · intro hm
      rcases hm with ⟨hm, hmslug⟩ | ⟨-, hm⟩
      · exact absurd hmslug (hnone m hm)
      · exact hm

/-- **A slug stands for the mode registered last, else for the imported one, else for the built-in
one.** -/
theorem find_run (h : p.Sound) {history : List Change} {slug : Json} {m : Mode} :
    (p.run history).find slug = .ok m ↔ StandsFor p.customModes history slug m := by
  obtain ⟨hlast, hrest⟩ := find?_run h history slug
  unfold find
  rw [Mode.find_eq_ok, Mode.find?_eq_or]
  by_cases hnone : ∀ n, ¬ LastRegistered history slug n
  · obtain ⟨hgone, hkept⟩ := hrest hnone
    rw [standsFor_unregistered hnone]
    by_cases hmem : .unregister slug ∈ history
    · simp [hgone hmem, hmem]
    · rw [hkept hmem, find?_or_builtin h]
      simp [hmem]
  · obtain ⟨n, hn⟩ := not_forall_not.mp hnone
    rw [hlast n hn, Option.some_or]
    constructor
    · intro hnm
      obtain rfl : n = m := Option.some.inj hnm
      exact .registered hn
    · intro hm
      cases hm with
      | registered hm => rw [← hlast n hn, hlast m hm]
      | imported hnone' => exact absurd hn (hnone' n)
      | builtin hnone' => exact absurd hn (hnone' n)

/-! ## The ordered map -/

/-- A profile as an ordered map, after a history that began with imported modes. -/
structure OrderedMap (imported : List Mode) (history : List Change) (q : Profile) : Prop where
  accepted : ∀ m ∈ q.customModes, Mode.flaws m.toJson = .ok []
  distinct : (q.customModes.map (·.slug)).Nodup
  find : ∀ slug m, q.find slug = .ok m ↔ StandsFor imported history slug m
  missing : ∀ slug e, q.find slug = .error e → e = .modeNotFound slug
  listed_once : (q.modes.map (·.slug)).Nodup
  listed : ∀ slug m, (m ∈ q.modes ∧ m.slug = slug) ↔ q.find slug = .ok m
  /-- The built-in slugs come first and keep their places; the others follow in custom order. -/
  listed_order : q.modes.map (·.slug) = Mode.builtins.map (·.slug) ++
    (q.customModes.filter fun m => (Mode.builtin? m.slug).isNone).map (·.slug)
  registers : ∀ m, (∃ q', (q.register m).result = .ok q') ↔ Mode.flaws m.toJson = .ok []
  /-- A mode takes the place of the one of its slug; a new one goes to the end. -/
  registered : ∀ m q', (q.register m).result = .ok q' → q.apply (.register m) = q' ∧
    ((∃ before old after, q.customModes = before ++ old :: after ∧ old.slug = m.slug ∧
        q'.customModes = before ++ m :: after) ∨
      ((∀ n ∈ q.customModes, n.slug ≠ m.slug) ∧ q'.customModes = q.customModes ++ [m]))
  refused : ∀ m e, (q.register m).result = .error e →
    (q.apply (.register m)).customModes = q.customModes
  /-- Unregistering takes the one mode of the slug out, and tells whether there was one. -/
  unregistered : ∀ slug, ∃ q' found, (q.unregister slug).result = .ok (q', found) ∧
    q.apply (.unregister slug) = q' ∧ (found = true ↔ ∃ n ∈ q.customModes, n.slug = slug) ∧
    ((∃ before old after, q.customModes = before ++ old :: after ∧ old.slug = slug ∧
        q'.customModes = before ++ after) ∨
      ((∀ n ∈ q.customModes, n.slug ≠ slug) ∧ q'.customModes = q.customModes))

/-- Of modes with distinct slugs, those are listed that are found. -/
theorem Sound.listed_iff (h : p.Sound) {slug : Json} {m : Mode} :
    (m ∈ p.modes ∧ m.slug = slug) ↔ p.find slug = .ok m :=
  (Mode.listed_iff_found h.isStr (Mode.unshadowed_of_nodup h.isStr h.distinct)).trans
    Mode.find_eq_ok.symm

/-- A registered mode takes the place of the one of its slug, or goes to the end. -/
theorem Sound.registered (h : p.Sound) {m : Mode} {q : Profile}
    (hq : (p.register m).result = .ok q) :
    p.apply (.register m) = q ∧
    ((∃ before old after, p.customModes = before ++ old :: after ∧ old.slug = m.slug ∧
        q.customModes = before ++ m :: after) ∨
      ((∀ n ∈ p.customModes, n.slug ≠ m.slug) ∧ q.customModes = p.customModes ++ [m])) := by
  obtain ⟨hm, rfl⟩ := register_succeeds.mp hq
  exact ⟨apply_register_of_valid hm, Mode.place_cases m h.isStr⟩

/-- Unregistering takes the one mode of the slug out, and tells whether there was one. -/
theorem Sound.unregistered (h : p.Sound) (slug : Json) :
    ∃ q found, (p.unregister slug).result = .ok (q, found) ∧ p.apply (.unregister slug) = q ∧
      (found = true ↔ ∃ n ∈ p.customModes, n.slug = slug) ∧
      ((∃ before old after, p.customModes = before ++ old :: after ∧ old.slug = slug ∧
          q.customModes = before ++ after) ∨
        ((∀ n ∈ p.customModes, n.slug ≠ slug) ∧ q.customModes = p.customModes)) := by
  refine ⟨_, _, result_unregister p slug, apply_unregister p slug, ?_,
    without_cases h.isStr h.distinct slug⟩
  rw [Mode.isCustom_iff h.isStr, List.mem_map]

/-- **An imported profile is an ordered map**, whatever modes are registered and unregistered. -/
theorem imported_profile_is_ordered_map {text : String} {s : Settings}
    (h : (Settings.ofText text).result = .ok s) (history : List Change) :
    OrderedMap s.customModes history ((ofSettings s).run history) := by
  have hstart := sound_ofSettings h
  have hsound := hstart.run history
  refine
    { accepted := fun m hm => Mode.flaws_toJson.mpr (hsound.valid m hm)
      distinct := hsound.distinct
      find := fun slug m => find_run hstart
      missing := fun slug e he => ?_
      listed_once := Mode.resolved_slugs_nodup hsound.isStr
      listed := fun slug m => hsound.listed_iff
      listed_order := Mode.map_slug_resolved hsound.isStr hsound.distinct
      registers := fun m => ?_
      registered := fun m q' hq' => hsound.registered hq'
      refused := fun m e he => ?_
      unregistered := hsound.unregistered }
  · unfold find Mode.find at he
    split at he
    · exact absurd he (by simp)
    · exact (Except.error.inj he).symm
  · rw [Mode.flaws_toJson]
    constructor
    · intro hq
      obtain ⟨q', hq'⟩ := hq
      exact (register_succeeds.mp hq').1
    · exact fun hm => ⟨_, register_succeeds.mpr ⟨hm, rfl⟩⟩
  · simp [apply, he]

/-- A mode that takes the place of a built-in one. -/
def briefAsk : Mode :=
  { slug := .str "ask", name := .str "Ask", role := .str "You answer briefly.",
    groups := [.simple .read] }

/-- The imported mode is unregistered after another one has been registered. -/
def briefHistory : List Change := [.register briefAsk, .unregister (.str "docs")]

/-- After that history the one slug stands for the registered mode, and the other for none. -/
theorem briefHistory_found :
    (Settings.ofText (Settings.editingSettings "\\.md$").saved).result =
      .ok (Settings.editingSettings "\\.md$") ∧
    ((ofSettings (Settings.editingSettings "\\.md$")).run briefHistory).find (.str "ask") =
      .ok briefAsk ∧
    ∀ m, ((ofSettings (Settings.editingSettings "\\.md$")).run briefHistory).find (.str "docs") ≠
      .ok m := by
  have hcompile : Pattern.compile "\\.md$" =
      .ok ⟨.seq (.code 46) (.seq (.code 109) (.seq (.code 100) (.anchor .lineEnd))), {}, 3⟩ := rfl
  have himport := Settings.ofText_editingSettings hcompile
  have hmap := imported_profile_is_ordered_map himport briefHistory
  have hask : briefAsk.Valid :=
    ⟨rfl, rfl, rfl, rfl, by simp [briefAsk, GroupEntry.Valid, GroupEntry.options?],
      by simp [briefAsk]⟩
  refine ⟨himport, (hmap.find _ _).mpr (.registered ?_), fun m hm => ?_⟩
  · exact ⟨[], [.unregister (.str "docs")], rfl, Mode.flaws_toJson.mpr hask, rfl,
      by simp [Change.Touches]⟩
  · cases (hmap.find _ _).mp hm with
    | registered h =>
      obtain ⟨before, after, heq, -, hslug, -⟩ := h
      have hmem : Change.register m ∈ briefHistory := by simp [heq]
      obtain rfl : m = briefAsk := by simpa [briefHistory] using hmem
      simp [briefAsk] at hslug
    | imported _ hkept => exact hkept (by simp [briefHistory])
    | builtin _ _ hm =>
      have hslug := Mode.slug_eq_of_find? Mode.builtins_isStr hm
      have hlisted : Json.str "docs" ∈ Mode.builtinSlugs.map .str := by
        rw [← Mode.map_slug_builtins, ← hslug]
        exact List.mem_map_of_mem (List.mem_of_find?_eq_some hm)
      simp [Mode.builtinSlugs] at hlisted

end Profile

end ModePolicy
