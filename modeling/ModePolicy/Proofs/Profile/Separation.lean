import Mathlib.Logic.Relation
import ModePolicy.Proofs.Mode.Overrides
import ModePolicy.Proofs.Permission.GroupOrder
import ModePolicy.Proofs.Profile.Changes

/-!
# Modes of other slugs

Everything that is asked about a slug is answered from the first custom mode that has it, and from the
built-in modes if there is none. So two lists of custom modes that agree in that one mode, or in having
none, answer alike, whatever else they hold (`Mode.answerAlike_of_first`). A profile is changed step by
step; a step that concerns other slugs (`Profile.Elsewhere`) keeps that mode and all else that answers
are made from (`Profile.Elsewhere.keeps`), and so does a run of such steps (`Profile.keeps_of_run`):

> `other_slugs_do_not_interfere`: modes of other slugs change no lookup, no mode that a task works
> under and no decision; and modes of distinct slugs may be registered in any order.

A decision looks up the slug that it is asked for, except that the empty one stands for the default
slug. There a mode of the default slug decides (`empty_slug_decided_elsewhere`), and modes of other
slugs than that change nothing.
-/

namespace ModePolicy

/-! ## Lists that agree in one mode -/

namespace Mode

/-- The lists answer all questions about a slug alike: which mode it names, whether a custom mode has
it, what mode a task works under there, and every decision. Failures and what is reported on the way
count as well. -/
structure AnswerAlike (slug : Json) (custom custom' : List Mode) : Prop where
  find? : find? slug custom = find? slug custom'
  find : find slug custom = find slug custom'
  isCustom : isCustom slug custom = isCustom slug custom'
  effective (prompts : PromptTable) (context : Option ModeContext) (aggregate : Aggregator) :
    effective slug custom prompts context aggregate =
      effective slug custom' prompts context aggregate
  check (use : ToolUse) (huse : use.slug = slug) : use.check custom = use.check custom'

/-- Lists with the same first mode of a slug, or with none, answer alike. -/
theorem answerAlike_of_first {slug : Json} {custom custom' : List Mode}
    (h : custom.find? (·.hasSlug slug) = custom'.find? (·.hasSlug slug)) :
    AnswerAlike slug custom custom' := by
  have hfind : find? slug custom = find? slug custom' := by
    rw [find?_eq_or, find?_eq_or, h]
  refine ⟨hfind, ?_, ?_, fun prompts context aggregate => ?_, fun use huse => ?_⟩
  · unfold find
    rw [hfind]
  · rw [isCustom_eq_isSome, isCustom_eq_isSome, h]
  · unfold effective findOrFallback
    rw [hfind]
  · exact ToolUse.check_congr (huse ▸ hfind)

/-- Putting modes of distinct slugs in their places leaves the same under every slug, in whatever
order. -/
theorem find?_foldl_place_perm {xs ys : List Mode} (hperm : xs.Perm ys)
    (htext : ∀ n ∈ ys, n.slug.isStr = true) (hdistinct : (ys.map (·.slug)).Nodup)
    (base : List Mode) (slug : Json) :
    (xs.foldl (fun modes new => place new modes) base).find? (·.hasSlug slug) =
      (ys.foldl (fun modes new => place new modes) base).find? (·.hasSlug slug) := by
  have htext' : ∀ n ∈ xs, n.slug.isStr = true := fun n hn => htext n (hperm.mem_iff.mp hn)
  have hdistinct' : (xs.map (·.slug)).Nodup := (hperm.map _).nodup_iff.mpr hdistinct
  have hfirst : xs.find? (·.hasSlug slug) = ys.find? (·.hasSlug slug) := by
    refine find?_eq_of_perm hperm fun m hm n hn hmslug hnslug => ?_
    have hsame : m.slug = n.slug :=
      ((hasSlug_iff (htext' m hm)).mp hmslug).trans ((hasSlug_iff (htext' n hn)).mp hnslug).symm
    exact List.inj_on_of_nodup_map hdistinct' hm hn hsame
  -- the last mode of a slug is the only one, so the order does not tell which one it is
  rw [find?_foldl_place xs htext', find?_foldl_place ys htext,
    ← unshadowed_of_nodup htext' hdistinct' slug, ← unshadowed_of_nodup htext hdistinct slug, hfirst]

end Mode

namespace Profile

variable {p q r : Profile} {s : String}

/-! ## Steps that concern other slugs -/

/-- A step that concerns modes of other slugs than the given one: such a mode is registered, if it is
valid; such modes are unregistered; or the modes are put into another order, in which those of the
given slug keep theirs. -/
inductive Elsewhere (s : String) (p : Profile) : Profile → Prop
  | register (m : Mode) (hother : m.slug ≠ .str s) : Elsewhere s p (p.apply (.register m))
  | unregister (slug : Json) (hother : slug ≠ .str s) : Elsewhere s p (p.apply (.unregister slug))
  | reorder (modes : List Mode) (hperm : modes.Perm p.customModes)
      (hkept : modes.filter (·.hasSlug (.str s)) = p.customModes.filter (·.hasSlug (.str s))) :
      Elsewhere s p { p with customModes := modes }

/-- The second profile keeps what answers about a slug are made from. -/
structure Keeps (s : String) (p q : Profile) : Prop where
  first : q.customModes.find? (·.hasSlug (.str s)) = p.customModes.find? (·.hasSlug (.str s))
  prompts : q.prompts = p.prompts
  experiments : q.experiments = p.experiments
  defaultSlug : q.defaultSlug = p.defaultSlug

theorem Keeps.refl (s : String) (p : Profile) : p.Keeps s p := ⟨rfl, rfl, rfl, rfl⟩

theorem Keeps.trans (h : p.Keeps s q) (h' : q.Keeps s r) : p.Keeps s r :=
  ⟨h'.first.trans h.first, h'.prompts.trans h.prompts, h'.experiments.trans h.experiments,
    h'.defaultSlug.trans h.defaultSlug⟩

/-- A step elsewhere keeps what answers are made from. -/
theorem Elsewhere.keeps (h : Elsewhere s p q) : p.Keeps s q := by
  cases h with
  | register m hother =>
    by_cases hm : m.Valid
    · have hmiss : m.hasSlug (.str s) = false := Mode.hasSlug_eq_false hm.slug_isStr hother
      rw [apply_register_of_valid hm]
      refine ⟨?_, rfl, rfl, rfl⟩
      rw [Mode.find?_place hm.slug_isStr, hmiss]
      rfl
    · rw [apply_register_of_not_valid hm]
      exact .refl s p
  | unregister slug hother =>
    rw [apply_unregister]
    refine ⟨find?_without_of_ne fun n _ hn => ?_, rfl, rfl, rfl⟩
    -- a mode of the given slug has a text for its slug, and not the one that is unregistered
    have hslug : n.slug = .str s := (Mode.hasSlug_iff_of_text rfl).mp hn
    exact Mode.hasSlug_eq_false (hslug ▸ rfl) fun h => hother (h.symm.trans hslug)
  | reorder modes _ hkept =>
    refine ⟨?_, rfl, rfl, rfl⟩
    rw [← List.head?_filter, ← List.head?_filter, hkept]

/-- A run of steps elsewhere keeps what answers are made from. -/
theorem keeps_of_run (h : Relation.ReflTransGen (Elsewhere s) p q) : p.Keeps s q := by
  induction h with
  | refl => exact .refl s p
  | tail _ hstep ih => exact ih.trans hstep.keeps

/-! ## Answers that are kept -/

/-- The profiles answer all questions about a slug alike. In a decision the empty slug stands for the
default one, so it is left out there. -/
structure AnswerAlike (s : String) (p q : Profile) : Prop where
  find : q.find (.str s) = p.find (.str s)
  hasMode : q.hasMode (.str s) = p.hasMode (.str s)
  isCustom : q.isCustom (.str s) = p.isCustom (.str s)
  effective (context : Option ModeContext) (aggregate : Aggregator) :
    q.effective (.str s) context aggregate = p.effective (.str s) context aggregate
  check (hs : s ≠ "") (tool : Json) (call : CallData) (requirements : Requirements) :
    q.check tool (.str s) call requirements = p.check tool (.str s) call requirements

/-- A decision stays the same if the slug that it looks up is the one whose mode is kept. -/
theorem Keeps.check_eq (h : p.Keeps s q) {slug : Json} (hslug : slug.orElse p.defaultSlug = .str s)
    (tool : Json) (call : CallData) (requirements : Requirements) :
    q.check tool slug call requirements = p.check tool slug call requirements := by
  have huse : q.toolUse tool slug call requirements = p.toolUse tool slug call requirements := by
    unfold toolUse
    rw [h.defaultSlug, h.experiments]
  unfold check
  rw [huse]
  exact (Mode.answerAlike_of_first h.first).check _ hslug

/-- A profile that keeps what answers are made from answers alike. -/
theorem Keeps.answerAlike (h : p.Keeps s q) : p.AnswerAlike s q := by
  have halike := Mode.answerAlike_of_first h.first
  refine ⟨halike.find, ?_, halike.isCustom, fun context aggregate => ?_, fun hs => h.check_eq ?_⟩
  · exact congrArg Option.isSome halike.find?
  · unfold effective
    rw [h.prompts]
    exact halike.effective _ context aggregate
  · simp [Json.orElse, Json.truthy, hs]

/-! ## Registering in any order -/

/-- Valid modes are put in their places one after another. -/
theorem run_register {modes : List Mode} (hvalid : ∀ m ∈ modes, m.Valid) :
    p.run (modes.map .register) =
      { p with customModes :=
          modes.foldl (fun placed new => new.place placed) p.customModes } := by
  induction modes generalizing p with
  | nil => rfl
  | cons m rest ih =>
    obtain ⟨hm, hrest⟩ := List.forall_mem_cons.mp hvalid
    have hstep : p.run ((m :: rest).map .register) =
        (p.apply (.register m)).run (rest.map .register) := rfl
    rw [hstep, ih hrest, apply_register_of_valid hm]
    rfl

/-- Valid modes of distinct slugs may be registered in any order. -/
theorem check_run_register_perm {modes modes' : List Mode} (hperm : modes'.Perm modes)
    (hvalid : ∀ m ∈ modes, m.Valid) (hdistinct : (modes.map (·.slug)).Nodup) (tool slug : Json)
    (call : CallData) (requirements : Requirements) :
    (p.run (modes'.map .register)).check tool slug call requirements =
      (p.run (modes.map .register)).check tool slug call requirements := by
  rw [run_register hvalid, run_register fun m hm => hvalid m (hperm.mem_iff.mp hm)]
  have hfirst := Mode.find?_foldl_place_perm hperm (fun m hm => (hvalid m hm).slug_isStr) hdistinct
    p.customModes (slug.orElse p.defaultSlug)
  exact (Mode.answerAlike_of_first hfirst).check
    (p.toolUse tool slug call requirements) rfl

/-! ## No interference -/

/-- **Modes of other slugs do not interfere.** Lists of custom modes that agree in the first mode of a
slug answer every question about it alike. A profile answers alike before and after any run of steps
that concern other slugs; a decision for no slug or the empty one is kept by steps that concern
other slugs than the default one. And valid modes of distinct slugs give the same decisions in
whatever order they are registered. -/
theorem other_slugs_do_not_interfere (p : Profile) :
    (∀ (slug : Json) (custom custom' : List Mode),
      custom.find? (·.hasSlug slug) = custom'.find? (·.hasSlug slug) →
        Mode.AnswerAlike slug custom custom') ∧
    (∀ (s : String) (q : Profile), Relation.ReflTransGen (Elsewhere s) p q → p.AnswerAlike s q) ∧
    (∀ (s : String) (q : Profile), p.defaultSlug = .str s →
      Relation.ReflTransGen (Elsewhere s) p q →
      ∀ slug ∈ [.null, .str ""], ∀ (tool : Json) (call : CallData) (requirements : Requirements),
        q.check tool slug call requirements = p.check tool slug call requirements) ∧
    ∀ modes modes' : List Mode, (∀ m ∈ modes, Mode.flaws m.toJson = .ok []) →
      (modes.map (·.slug)).Nodup → modes'.Perm modes →
      ∀ (tool slug : Json) (call : CallData) (requirements : Requirements),
        (p.run (modes'.map .register)).check tool slug call requirements =
          (p.run (modes.map .register)).check tool slug call requirements := by
  refine ⟨fun slug custom custom' => Mode.answerAlike_of_first,
    fun s q hrun => (keeps_of_run hrun).answerAlike, fun s q hdefault hrun slug hslug => ?_,
    fun modes modes' haccepted hdistinct hperm => ?_⟩
  · refine (keeps_of_run hrun).check_eq ?_
    rcases List.mem_pair.mp hslug with rfl | rfl <;> exact hdefault
  · exact check_run_register_perm hperm (fun m hm => Mode.flaws_toJson.mp (haccepted m hm)) hdistinct

/-- Two valid modes of distinct slugs, of which one takes the place of the built-in mode that codes.
The other one changes no decision there, and they may be registered in either order. -/
theorem readingCode_editingDocs_apart :
    (editingDocs.slug ≠ .str "code" ∧ ∀ (tool : Json) (call : CallData) (requirements : Requirements),
      (({} : Profile).apply (.register editingDocs)).check tool (.str "code") call requirements =
        ({} : Profile).check tool (.str "code") call requirements) ∧
    (∀ m ∈ [Mode.readingCode, editingDocs], Mode.flaws m.toJson = .ok []) ∧
    ([Mode.readingCode, editingDocs].map (·.slug)).Nodup ∧
    ∀ (tool slug : Json) (call : CallData) (requirements : Requirements),
      (({} : Profile).run ([editingDocs, Mode.readingCode].map .register)).check tool slug call
          requirements =
        (({} : Profile).run ([Mode.readingCode, editingDocs].map .register)).check tool slug call
          requirements := by
  have hother : editingDocs.slug ≠ .str "code" := by simp [editingDocs]
  have hdocs : editingDocs.Valid :=
    Mode.valid_of_simple [.edit] rfl (List.nodup_singleton _) rfl rfl rfl rfl
  have hcode : Mode.readingCode.Valid :=
    Mode.valid_of_simple [.read] rfl (List.nodup_singleton _) rfl rfl rfl rfl
  have haccepted : ∀ m ∈ [Mode.readingCode, editingDocs], Mode.flaws m.toJson = .ok [] := by
    simp [Mode.flaws_toJson, hcode, hdocs]
  have hdistinct : ([Mode.readingCode, editingDocs].map (·.slug)).Nodup := by
    simp [Mode.readingCode, editingDocs]
  obtain ⟨-, hkept, -, horder⟩ := other_slugs_do_not_interfere {}
  have hsame := (hkept "code" _ (.single (.register editingDocs hother))).check (by decide)
  exact ⟨⟨hother, hsame⟩, haccepted, hdistinct,
    horder _ _ haccepted hdistinct (List.Perm.swap ..)⟩

/-- A mode of another slug than the empty one changes the decision that is asked for the empty slug:
the built-in mode that codes lets a file be written, and the one in its place does not. -/
theorem empty_slug_decided_elsewhere :
    Elsewhere "" {} (({} : Profile).apply (.register Mode.readingCode)) ∧
    (({} : Profile).check (.str "write_to_file") (.str "") (.raw .null) .unrestricted).result =
      .ok (.allowed (some .edit)) ∧
    ((({} : Profile).apply (.register Mode.readingCode)).check (.str "write_to_file") (.str "")
      (.raw .null) .unrestricted).result = .ok (.denied .notInMode) :=
  ⟨.register Mode.readingCode (by simp [Mode.readingCode]), rfl, rfl⟩

end Profile

end ModePolicy
