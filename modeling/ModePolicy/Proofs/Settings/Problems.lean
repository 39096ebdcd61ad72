import ModePolicy.Proofs.Settings.Loading

/-!
# What a rejected list of custom modes is told

The reader of custom modes goes through the whole list and reports every flaw of every item. It also
reports a slug that was seen before, but it sees only the slugs of the modes that it makes: an item
with a flaw leaves no slug behind, and is not asked whether its own slug is a repetition.

> `ModeListFlaw.listed_unless_passedOver`: the reports are the problems of the list
> (`ModeListFlaw.Problem`) but for the repetitions that are passed over
> (`ModeListFlaw.PassedOver`). They are complete exactly if no item that shares its slug with another
> one has a flaw.

One item adds its own reports and its slug (`ModeListFlaw.ReadOne`, `readItems_cons`), and the two
kinds of reports of a run follow by induction (`flawed_mem_readItems`, `duplicate_mem_readItems`).
-/

namespace ModePolicy.ModeListFlaw

/-- These data have this flaw. -/
def HasFlaw (flaw : ModeFlaw) (item : Json) : Prop :=
  ∃ flaws, Mode.flaws item = .ok flaws ∧ flaw ∈ flaws

/-- These data are those of a mode. -/
def Flawless (item : Json) : Prop := Mode.flaws item = .ok []

/-- This text stands as the slug in the data. -/
def HasSlug (slug : String) (item : Json) : Prop := SettingsFlaw.slugText? item = some slug

/-- These data are those of a mode of this slug. -/
def IsMode (slug : String) (item : Json) : Prop := Flawless item ∧ HasSlug slug item

/-- The item at this place of a list has a property. -/
def HoldsAt (P : Json → Prop) (items : List Json) (i : Nat) : Prop := ∃ item ∈ items[i]?, P item

/-- Something wrong with a list: a flaw of an item, or a slug that stands in an item before. -/
inductive Problem (items : List Json) : ModeListFlaw → Prop where
  | flawed {i : Nat} {flaw : ModeFlaw} (found : HoldsAt (HasFlaw flaw) items i) :
      Problem items (.flawed i flaw)
  | repeated {i j : Nat} {slug : String} (first : HoldsAt (HasSlug slug) items j) (before : j < i)
      (again : HoldsAt (HasSlug slug) items i) : Problem items (.duplicateSlug i (.str slug))

/-- The repetitions that the reader does not see: those of an item that has a flaw, and those of
slugs that stand only in items with a flaw before. -/
inductive PassedOver (items : List Json) : ModeListFlaw → Prop where
  | flawedItself {i : Nat} {slug : Json} (h : ¬ HoldsAt Flawless items i) :
      PassedOver items (.duplicateSlug i slug)
  | flawedBefore {i : Nat} {slug : String}
      (h : ∀ j < i, HoldsAt (HasSlug slug) items j → ¬ HoldsAt Flawless items j) :
      PassedOver items (.duplicateSlug i (.str slug))

section Places

variable {P Q : Json → Prop} {item : Json} {rest items : List Json} {i : Nat}

@[simp] theorem not_holdsAt_nil : ¬ HoldsAt P [] i := by simp [HoldsAt]

@[simp] theorem holdsAt_zero : HoldsAt P (item :: rest) 0 ↔ P item := by simp [HoldsAt]

@[simp] theorem holdsAt_succ : HoldsAt P (item :: rest) (i + 1) ↔ HoldsAt P rest i := Iff.rfl

/-- What holds before a later place holds of the first item or between them. -/
theorem holdsBefore_succ :
    (∃ j < i + 1, HoldsAt P (item :: rest) j) ↔ P item ∨ ∃ j < i, HoldsAt P rest j := by
  constructor
  · intro h
    obtain ⟨j, hj, h⟩ := h
    cases j with
    | zero => exact Or.inl (holdsAt_zero.mp h)
    | succ j => exact Or.inr ⟨j, Nat.lt_of_succ_lt_succ hj, h⟩
  · rintro (h | ⟨j, hj, h⟩)
    · exact ⟨0, Nat.succ_pos i, holdsAt_zero.mpr h⟩
    · exact ⟨j + 1, Nat.succ_lt_succ hj, h⟩

theorem holdsAt_and :
    HoldsAt (fun item => P item ∧ Q item) items i ↔ HoldsAt P items i ∧ HoldsAt Q items i := by
  cases h : items[i]? <;> simp [HoldsAt, h]

end Places

/-! ## One item -/

/-- What is reported of one item, and which slugs are seen after it. -/
structure ReadOne (index : Nat) (seen : List String) (item : Json) (found : List ModeListFlaw)
    (after : List String) : Prop where
  flawed : ∀ n flaw, .flawed n flaw ∈ found ↔ n = index ∧ HasFlaw flaw item
  repeated : ∀ n slug, .duplicateSlug n slug ∈ found ↔
    n = index ∧ ∃ s, slug = .str s ∧ IsMode s item ∧ s ∈ seen
  seen : ∀ s, s ∈ after ↔ s ∈ seen ∨ IsMode s item

section OneItem

variable {index : Nat} {seen : List String} {item : Json}

/-- An item with flaws leaves its flaws, and no slug. -/
theorem ReadOne.of_flaws {flaw : ModeFlaw} {flaws : List ModeFlaw}
    (h : Mode.flaws item = .ok (flaw :: flaws)) :
    ReadOne index seen item ((flaw :: flaws).map (.flawed index)) seen := by
  have hmode : ∀ s, ¬ IsMode s item := fun s hs => by simp [IsMode, Flawless, h] at hs
  refine ⟨fun n f => ?_, fun n slug => by simp [hmode], fun s => by simp [hmode]⟩
  rw [List.mem_map]
  constructor
  · intro hmem
    obtain ⟨g, hg, heq⟩ := hmem
    cases heq
    exact ⟨rfl, _, h, hg⟩
  · intro hmem
    obtain ⟨rfl, others, hothers, hf⟩ := hmem
    rw [h] at hothers
    cases hothers
    exact ⟨f, hf, rfl⟩

/-- A mode has no flaw to report; its slug is a repetition exactly if it was seen. -/
theorem ReadOne.of_reads {m : Mode} {s : String} {found : List ModeListFlaw} {after : List String}
    (h : Mode.Reads item m) (hs : HasSlug s item)
    (hfound : found = if s ∈ seen then [.duplicateSlug index (.str s)] else [])
    (hafter : ∀ t, t ∈ after ↔ t ∈ seen ∨ t = s) : ReadOne index seen item found after := by
  have hmode : ∀ t, IsMode t item ↔ t = s := fun t => by
    rw [IsMode, Flawless, h.flawless, HasSlug, show SettingsFlaw.slugText? item = some s from hs,
      Option.some.injEq, and_iff_right rfl, eq_comm]
  have hnone : ∀ f, ¬ HasFlaw f item := fun f hf => by simp [HasFlaw, h.flawless] at hf
  refine ⟨fun n f => ?_, fun n slug => ?_, fun t => ?_⟩
  · rw [hfound]
    split <;> simp [hnone]
  · rw [hfound]
    split
    next hseen => simp [hmode, hseen]
    next hnew => simp [hmode, hnew]
  · rw [hafter, hmode]

end OneItem

/-! ## A whole list -/

section Run

variable {modes : List Mode} {flaws : List ModeListFlaw}

/-- A list is read item by item: the first one, and the others with the slugs seen after it. -/
theorem readItems_cons {index : Nat} {seen : List String} {item : Json} {rest : List Json}
    (h : readItems index (seen.map .str) (item :: rest) = .ok (modes, flaws)) :
    ∃ found later after others, ReadOne index seen item found after ∧
      readItems (index + 1) (after.map .str) rest = .ok (others, later) ∧ flaws = found ++ later := by
  unfold readItems at h
  obtain ⟨outcome, houtcome, h⟩ := bind_succeeds.mp h
  obtain ⟨own, hown, -⟩ := bind_succeeds.mp houtcome
  cases own with
  | cons flaw own =>
    -- no mode is made, so what was seen stays as it is
    rw [readItem_of_flaws hown] at houtcome
    cases houtcome
    obtain ⟨⟨others, later⟩, hlater, h⟩ := bind_succeeds.mp h
    cases h
    exact ⟨_, later, seen, _, .of_flaws hown, hlater, rfl⟩
  | nil =>
    obtain ⟨m, hm⟩ := Mode.exists_reads hown
    obtain ⟨s, hs, hslug⟩ := hm.slugText
    -- a mode whose slug was seen leaves a report, and any other one its slug
    rw [readItem_of_reads hm hs] at houtcome
    split at houtcome
    next hseen =>
      cases houtcome
      obtain ⟨⟨others, later⟩, hlater, h⟩ := bind_succeeds.mp h
      cases h
      refine ⟨_, later, seen, _, .of_reads hm hslug (if_pos hseen).symm fun t => ?_, hlater, rfl⟩
      exact ⟨Or.inl, fun ht => ht.elim id fun heq => heq ▸ hseen⟩
    next hnew =>
      cases houtcome
      obtain ⟨⟨others, later⟩, hlater, h⟩ := bind_succeeds.mp h
      cases h
      rw [hs] at hlater
      refine ⟨[], flaws, s :: seen, others, .of_reads hm hslug (if_neg hnew).symm fun t => ?_,
        hlater, rfl⟩
      rw [List.mem_cons, or_comm]

/-- **Every flaw of every item is reported**, with the index of the item. -/
theorem flawed_mem_readItems (items : List Json) : ∀ {index : Nat} {seen : List String}
    {modes : List Mode} {flaws : List ModeListFlaw},
    readItems index (seen.map .str) items = .ok (modes, flaws) → ∀ n flaw,
    .flawed n flaw ∈ flaws ↔ ∃ i, n = index + i ∧ HoldsAt (HasFlaw flaw) items i := by
  induction items with
  | nil =>
    intro index seen modes flaws h n flaw
    cases h
    simp
  | cons item rest ih =>
    intro index seen modes flaws h n flaw
    obtain ⟨found, later, after, others, hone, hlater, rfl⟩ := readItems_cons h
    conv_rhs => rw [ModeFlaw.exists_place]
    rw [List.mem_append, hone.flawed, ih hlater, holdsAt_zero]
    simp only [holdsAt_succ]

/-- **A repetition is reported of a mode** whose slug was seen, or is that of a mode before it. -/
theorem duplicate_mem_readItems (items : List Json) : ∀ {index : Nat} {seen : List String}
    {modes : List Mode} {flaws : List ModeListFlaw},
    readItems index (seen.map .str) items = .ok (modes, flaws) → ∀ n slug,
    .duplicateSlug n slug ∈ flaws ↔ ∃ i, n = index + i ∧ ∃ s, slug = .str s ∧
      HoldsAt (IsMode s) items i ∧ (s ∈ seen ∨ ∃ j < i, HoldsAt (IsMode s) items j) := by
  induction items with
  | nil =>
    intro index seen modes flaws h n slug
    cases h
    simp
  | cons item rest ih =>
    intro index seen modes flaws h n slug
    obtain ⟨found, later, after, others, hone, hlater, rfl⟩ := readItems_cons h
    conv_rhs => rw [ModeFlaw.exists_place]
    rw [List.mem_append, hone.repeated, ih hlater]
    -- what is seen after the item was seen before it or is its own slug
    simp only [hone.seen, holdsBefore_succ, holdsAt_succ, holdsAt_zero, or_assoc, Nat.not_lt_zero,
      false_and, exists_false, or_false]

end Run

/-! ## The rejection -/

section Rejection

variable {items : List Json} {flaws : List ModeListFlaw}

/-- The reports of a list that is read from the start. -/
structure Lists (items : List Json) (flaws : List ModeListFlaw) : Prop where
  flawed : ∀ i flaw, .flawed i flaw ∈ flaws ↔ HoldsAt (HasFlaw flaw) items i
  repeated : ∀ i slug, .duplicateSlug i slug ∈ flaws ↔ ∃ s, slug = .str s ∧
    HoldsAt (IsMode s) items i ∧ ∃ j < i, HoldsAt (IsMode s) items j

theorem lists_of_readItems {modes : List Mode} (h : readItems 0 [] items = .ok (modes, flaws)) :
    Lists items flaws := by
  have hread : readItems 0 (List.map .str []) items = .ok (modes, flaws) := h
  refine ⟨fun i flaw => ?_, fun i slug => ?_⟩
  · rw [flawed_mem_readItems items hread]
    simp
  · rw [duplicate_mem_readItems items hread]
    simp

/-- The reports are the problems that are not passed over. -/
theorem Lists.mem_iff (h : Lists items flaws) {p : ModeListFlaw} :
    p ∈ flaws ↔ Problem items p ∧ ¬ PassedOver items p := by
  cases p with
  | flawed i flaw =>
    rw [h.flawed]
    constructor
    · exact fun hflaw => ⟨.flawed hflaw, fun hover => nomatch hover⟩
    · rintro ⟨hproblem, -⟩
      cases hproblem with
      | flawed hflaw => exact hflaw
  | duplicateSlug i slug =>
    rw [h.repeated]
    constructor
    · rintro ⟨s, rfl, hagain, j, hj, hfirst⟩
      obtain ⟨hflawless, hslug⟩ := holdsAt_and.mp hagain
      obtain ⟨hflawlessFirst, hslugFirst⟩ := holdsAt_and.mp hfirst
      refine ⟨.repeated hslugFirst hj hslug, fun hover => ?_⟩
      cases hover with
      | flawedItself hitself => exact hitself hflawless
      | flawedBefore hbefore => exact hbefore j hj hslugFirst hflawlessFirst
    · rintro ⟨hproblem, hseen⟩
      cases hproblem with
      | @repeated _ _ s hfirst hbefore hagain =>
        have hflawless : HoldsAt Flawless items i :=
          not_not.mp fun hflawed => hseen (.flawedItself hflawed)
        have hearlier : ¬ ∀ j < i, HoldsAt (HasSlug s) items j → ¬ HoldsAt Flawless items j :=
          fun hall => hseen (.flawedBefore hall)
        push Not at hearlier
        obtain ⟨j, hj, hslug, hmode⟩ := hearlier
        exact ⟨s, rfl, holdsAt_and.mpr ⟨hflawless, hagain⟩, j, hj, holdsAt_and.mpr ⟨hmode, hslug⟩⟩

/-- If every repetition is reported, an item before another one of its slug has no flaw. -/
theorem Lists.flawless_before (h : Lists items flaws)
    (hall : ∀ p, Problem items p → p ∈ flaws) {i : Nat} {s : String}
    (hi : HoldsAt (HasSlug s) items i) : ∀ {j : Nat}, i < j → HoldsAt (HasSlug s) items j →
      HoldsAt Flawless items i := by
  intro j
  induction j using Nat.strong_induction_on with
  | _ j ih =>
    intro hij hj
    -- the mode of this slug that the reader has seen before is the item, or on one side of it
    obtain ⟨t, ht, -, k, hk, hmode⟩ := (h.repeated _ _).mp (hall _ (.repeated hi hij hj))
    cases ht
    obtain ⟨hflawless, hslug⟩ := holdsAt_and.mp hmode
    rcases Nat.lt_trichotomy k i with hki | rfl | hik
    · obtain ⟨t, ht, hmode, -⟩ := (h.repeated _ _).mp (hall _ (.repeated hslug hki hi))
      cases ht
      exact (holdsAt_and.mp hmode).1
    · exact hflawless
    · exact ih k hk hik hslug

/-- The reports are complete exactly if no item that shares its slug with another has a flaw. -/
theorem Lists.complete_iff (h : Lists items flaws) :
    (∀ p, Problem items p → p ∈ flaws) ↔
      ∀ i j s, i ≠ j → HoldsAt (HasSlug s) items i → HoldsAt (HasSlug s) items j →
        HoldsAt Flawless items i := by
  constructor
  · intro hall i j s hne hi hj
    rcases Nat.lt_or_gt_of_ne hne with hij | hji
    · exact h.flawless_before hall hi hij hj
    · obtain ⟨t, ht, hmode, -⟩ := (h.repeated _ _).mp (hall _ (.repeated hj hji hi))
      exact (holdsAt_and.mp hmode).1
  · intro hshared p hp
    refine h.mem_iff.mpr ⟨hp, fun hover => ?_⟩
    cases hp with
    | flawed hflaw => exact nomatch hover
    | repeated hfirst hbefore hagain =>
      cases hover with
      | flawedItself hitself =>
        exact hitself (hshared _ _ _ (Nat.ne_of_gt hbefore) hagain hfirst)
      | flawedBefore hearlier =>
        exact hearlier _ hbefore hfirst (hshared _ _ _ (Nat.ne_of_lt hbefore) hfirst hagain)

/-- What stops the reader stops the validator, and it is an expression, not a rejection. -/
theorem stopped_unrejected {failure : Failure} {r : ModeRejection}
    (h : readItems 0 [] items = .error failure) : failure ≠ .badMode r := by
  have hagree : Agrees (readItems 0 [] items) (SettingsFlaw.ofModeItems 0 [] items) :=
    readItems_agrees items (List.Subset.refl [])
  rw [h] at hagree
  generalize hstop : SettingsFlaw.ofModeItems 0 [] items = validated at hagree
  cases hagree
  obtain ⟨place, source, defect, -, -, hfailure⟩ :=
    (SettingsFlaw.ofModeItems_checks items 0 []).stops failure hstop
  rintro rfl
  cases defect <;> simp [Failure.ofDefect] at hfailure

/-- **A rejected list of custom modes is told its problems**, each flaw of each item among them, and
nothing else. Of the repetitions of a slug, those are passed over that stand in an item with a flaw or
only after items with a flaw. So the reports are complete exactly if every item that shares its slug
with another item is that of a mode. -/
theorem listed_unless_passedOver (items : List Json) (r : ModeRejection)
    (h : (Mode.readCustom (.arr items)).result = .error (.badMode r)) :
    ∃ flaws, r = .flawedList flaws ∧ r.details = flaws.map (·.message) ∧
      (∀ p, p ∈ flaws ↔ Problem items p ∧ ¬ PassedOver items p) ∧
      ((∀ p, Problem items p → p ∈ flaws) ↔
        ∀ i j s, i ≠ j → HoldsAt (HasSlug s) items i → HoldsAt (HasSlug s) items j →
          HoldsAt Flawless items i) := by
  rw [Mode.result_readCustom] at h
  cases hread : readItems 0 [] items with
  | error failure =>
    rw [hread] at h
    exact absurd (Except.error.inj h) (stopped_unrejected hread)
  | ok outcome =>
    obtain ⟨modes, flaws⟩ := outcome
    rw [hread] at h
    cases flaws with
    | nil => exact absurd h (by simp)
    | cons flaw flaws =>
      cases h
      have hlists : Lists items (flaw :: flaws) := lists_of_readItems hread
      exact ⟨_, rfl, rfl, fun p => hlists.mem_iff, hlists.complete_iff⟩

/-- A draft of a mode, and the mode. -/
def draftAndMode : List Json :=
  [.obj [("slug", .str "docs")],
    .obj [("slug", .str "docs"), ("name", .str "Docs"), ("roleDefinition", .str "You write docs."),
      ("groups", .arr [.str "read"])]]

/-- The draft has flaws, so it is not reported that its slug stands in the mode again. -/
theorem repetition_of_draft_passedOver :
    ∃ flaws, (Mode.readCustom (.arr draftAndMode)).result =
        .error (.badMode (.flawedList flaws)) ∧
      Problem draftAndMode (.duplicateSlug 1 (.str "docs")) ∧
      .duplicateSlug 1 (.str "docs") ∉ flaws := by
  have hend : (Mode.readCustom (.arr draftAndMode)).result = .error (.badMode (.flawedList
      [.flawed 0 (.missing .name), .flawed 0 (.missing .role), .flawed 0 (.missing .groups)])) := rfl
  obtain ⟨flaws, hflaws, -, hlisted, -⟩ := listed_unless_passedOver draftAndMode _ hend
  cases hflaws
  refine ⟨_, hend, ?_, fun h => ((hlisted _).mp h).2 (.flawedBefore ?_)⟩
  · have hdraft : HoldsAt (HasSlug "docs") draftAndMode 0 := holdsAt_zero.mpr rfl
    have hmode : HoldsAt (HasSlug "docs") draftAndMode 1 := holdsAt_succ.mpr (holdsAt_zero.mpr rfl)
    exact .repeated hdraft Nat.zero_lt_one hmode
  · intro j hj _ hflawless
    obtain rfl : j = 0 := Nat.lt_one_iff.mp hj
    have hdraft : Mode.flaws (.obj [("slug", .str "docs")]) =
        .ok [.missing .name, .missing .role, .missing .groups] := rfl
    exact absurd (hdraft.symm.trans (holdsAt_zero.mp hflawless)) (by simp)

end Rejection

end ModePolicy.ModeListFlaw
