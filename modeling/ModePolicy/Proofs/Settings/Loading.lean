import ModePolicy.Proofs.Settings.Import

/-!
# The reader and the validator of custom modes agree

The reader of custom modes and the validator of settings go through the same list, but they remember
different slugs: the reader those of the modes that it has made, the validator every text that stands
as a slug in the data, also where the data are no mode or repeat one.

> `Settings.loads_iff_validates`: the reader makes modes of a list exactly if settings with that list
> have no flaw, and then it makes one mode of each item. Otherwise both stop for the same reason, or
> whatever the reader lists is listed by the validator.

The slugs that the reader remembers are always among those of the validator. So the validator reports
every repetition that the reader does (`ModeListFlaw.readItems_agrees`). It may report more, but only
after an item that the reader has reported as well.
-/

namespace ModePolicy

/-- What the validator says where the reader reports this flaw. -/
def ModeListFlaw.inSettings : ModeListFlaw → SettingsFlaw
  | .flawed index flaw => .badMode index flaw
  | .duplicateSlug index slug => .duplicateSlug index slug.plain

namespace ModeListFlaw

/-- How the reader and the validator have ended: the same failure has stopped both, or the validator
has listed every flaw that the reader has, in the same order. -/
inductive Agrees :
    Except Failure (List Mode × List ModeListFlaw) → Except Failure (List SettingsFlaw) → Prop where
  | stopped (failure : Failure) : Agrees (.error failure) (.error failure)
  | ended {modes : List Mode} {flaws : List ModeListFlaw} {found : List SettingsFlaw}
      (listed : (flaws.map inSettings).Sublist found) : Agrees (.ok (modes, flaws)) (.ok found)

variable {loaded : Except Failure (List Mode × List ModeListFlaw)}
  {validated : Except Failure (List SettingsFlaw)}

/-- Both may list something more about an item before what they list about the items after it. -/
theorem Agrees.before {first : List ModeListFlaw} {front : List SettingsFlaw}
    (keep : List Mode → List Mode) (hfirst : (first.map inSettings).Sublist front)
    (h : Agrees loaded validated) :
    Agrees (loaded.bind fun later => .ok (keep later.1, first ++ later.2))
      (validated.bind fun later => .ok (front ++ later)) := by
  cases h with
  | stopped failure => exact .stopped failure
  | ended hlater =>
    refine .ended ?_
    rw [List.map_append]
    exact hfirst.append hlater

theorem readItem_of_flaws {index : Nat} {seen : List Json} {item : Json} {flaw : ModeFlaw}
    {flaws : List ModeFlaw} (h : Mode.flaws item = .ok (flaw :: flaws)) :
    readItem index seen item = .ok (.error ((flaw :: flaws).map (.flawed index))) := by
  unfold readItem
  rw [h]
  rfl

/-- The slug of an item that is a mode decides whether the reader keeps it. -/
theorem readItem_of_reads {index : Nat} {seen : List String} {item : Json} {m : Mode} {s : String}
    (h : Mode.Reads item m) (hs : m.slug = .str s) :
    readItem index (seen.map .str) item =
      .ok (if s ∈ seen then .error [.duplicateSlug index (.str s)] else .ok m) := by
  by_cases hseen : s ∈ seen
  · have hany : (seen.map Json.str).any (·.same (.str s)) = true :=
      List.any_eq_true.mpr ⟨.str s, List.mem_map_of_mem hseen, Json.same_str.mpr rfl⟩
    unfold readItem
    rw [h.flawless, ok_chain, h.read, ok_chain, hs, if_pos hany, if_pos hseen]
    rfl
  · rw [if_neg hseen]
    exact readItem_eq_ok.mpr ⟨h, s, hs, hseen⟩

/-- **The reader and the validator agree on a list**, if the slugs that the reader has seen are among
those that the validator has. -/
theorem readItems_agrees (items : List Json) : ∀ {index : Nat} {seen texts : List String},
    seen ⊆ texts →
    Agrees (readItems index (seen.map .str) items) (SettingsFlaw.ofModeItems index texts items) := by
  induction items with
  | nil => exact fun _ => .ended (List.Sublist.refl [])
  | cons item rest ih =>
    intro index seen texts hseen
    have hmore : ∀ found : Option String, seen ⊆ found.toList ++ texts := fun found =>
      List.subset_append_of_subset_right _ hseen
    unfold readItems SettingsFlaw.ofModeItems
    cases hflaws : Mode.flaws item with
    | error failure =>
      have hitem : readItem index (seen.map .str) item = .error failure := by
        unfold readItem
        rw [hflaws]
        rfl
      rw [hitem]
      exact .stopped failure
    | ok flaws =>
      cases flaws with
      | cons flaw flaws =>
        -- no mode: the validator may have to say of its slug, too, that it is repeated
        rw [readItem_of_flaws hflaws]
        refine Agrees.before id ?_ (ih (hmore _))
        rw [List.map_map]
        exact List.sublist_append_left _ _
      | nil =>
        obtain ⟨m, hm⟩ := Mode.exists_reads hflaws
        obtain ⟨s, hs, hslug⟩ := hm.slugText
        rw [readItem_of_reads hm hs, hslug]
        by_cases hrepeated : s ∈ seen
        · rw [if_pos hrepeated]
          refine Agrees.before id ?_ (ih (hmore _))
          have hfound : SettingsFlaw.repeatedSlug index texts (some s) = [.duplicateSlug index s] :=
            if_pos (List.contains_iff_mem.mpr (hseen hrepeated))
          rw [hfound]
          exact List.Sublist.refl _
        · rw [if_neg hrepeated]
          have hnothing : (([] : List ModeListFlaw).map inSettings).Sublist
              (([] : List ModeFlaw).map (.badMode index) ++
                SettingsFlaw.repeatedSlug index texts (some s)) := List.nil_sublist _
          refine Agrees.before (m :: ·) hnothing ?_
          rw [hs]
          exact ih (List.cons_subset_cons s hseen)

end ModeListFlaw

namespace Settings

/-- The data of settings that have nothing but a version and these custom modes. -/
def modesDocument (version : String) (items : List Json) : Json :=
  .obj [("version", .str version), ("customModes", .arr items)]

theorem flaws_modesDocument (version : String) (items : List Json) :
    flaws (modesDocument version items) = SettingsFlaw.ofModeItems 0 [] items := by
  have hfields : flaws (modesDocument version items) =
      (SettingsFlaw.ofModeItems 0 [] items).bind fun found => .ok (found ++ [] ++ []) := rfl
  rw [hfields]
  cases SettingsFlaw.ofModeItems 0 [] items <;> simp

/-- The reader and the validator end together: with the modes of the list, with reports of what is
wrong with it, or where something stops both. -/
theorem readCustom_cases (version : String) (items : List Json) :
    (∃ modes, (Mode.readCustom (.arr items)).result = .ok modes ∧ Mode.ReadsAll [] items modes ∧
      (validate (modesDocument version items)).result = .ok []) ∨
    (∃ flaws found, (Mode.readCustom (.arr items)).result =
        .error (.badMode (.flawedList flaws)) ∧ flaws ≠ [] ∧
      (validate (modesDocument version items)).result = .ok found ∧
      (flaws.map ModeListFlaw.inSettings).Sublist found) ∨
    ∃ failure, (Mode.readCustom (.arr items)).result = .error failure ∧
      (validate (modesDocument version items)).result = .error failure := by
  rw [result_validate, flaws_modesDocument, Mode.result_readCustom]
  have hagree : ModeListFlaw.Agrees (ModeListFlaw.readItems 0 [] items)
      (SettingsFlaw.ofModeItems 0 [] items) :=
    ModeListFlaw.readItems_agrees items (List.Subset.refl [])
  generalize hend : SettingsFlaw.ofModeItems 0 [] items = validated at hagree ⊢
  cases hload : ModeListFlaw.readItems 0 [] items with
  | error failure =>
    rw [hload] at hagree
    cases hagree
    exact Or.inr (Or.inr ⟨failure, rfl, rfl⟩)
  | ok outcome =>
    obtain ⟨modes, flaws⟩ := outcome
    cases flaws with
    | nil =>
      have hread : Mode.ReadsAll [] items modes := (ModeListFlaw.readItems_eq_ok items).mp hload
      have hnone : SettingsFlaw.ofModeItems 0 [] items = .ok [] :=
        (SettingsFlaw.ofModeItems_eq_nil items).mpr ⟨modes, hread⟩
      exact Or.inl ⟨modes, rfl, hread, hend.symm.trans hnone⟩
    | cons flaw flaws =>
      rw [hload] at hagree
      cases hagree with
      | ended hlisted => exact Or.inr (Or.inl ⟨_, _, rfl, List.cons_ne_nil _ _, rfl, hlisted⟩)

/-- **Custom modes are loaded exactly if settings with them have no flaw**, whatever the version. If
they are, there is one mode for each item, in order, which is what the item is read as, and no two
have the same slug. If the validator finds flaws, the modes are rejected, for flaws that it has found
as well. So the reading of settings in which no flaw was found is never rejected. -/
theorem loads_iff_validates (version : String) (items : List Json) :
    ((∃ modes, (Mode.readCustom (.arr items)).result = .ok modes) ↔
      (validate (modesDocument version items)).result = .ok []) ∧
    (∀ modes, (Mode.readCustom (.arr items)).result = .ok modes →
      List.Forall₂ (fun item m => Mode.ofJson item = .ok m) items modes ∧
        (modes.map (·.slug)).Nodup) ∧
    (∀ found, (validate (modesDocument version items)).result = .ok found → found ≠ [] →
      ∃ flaws, (Mode.readCustom (.arr items)).result = .error (.badMode (.flawedList flaws)) ∧
        flaws ≠ [] ∧ (flaws.map ModeListFlaw.inSettings).Sublist found) ∧
    ∀ data, (validate data).result = .ok [] → ∃ s, (ofJson data).result = .ok s := by
  have hcases := readCustom_cases version items
  refine ⟨⟨fun h => ?_, fun h => ?_⟩, fun modes h => ?_, fun found h hsome => ?_, fun data h => ?_⟩
  · obtain ⟨modes, hmodes⟩ := h
    rcases hcases with ⟨_, -, -, hvalid⟩ | ⟨_, _, hend, -⟩ | ⟨_, hend, -⟩
    · exact hvalid
    · exact absurd (hend.symm.trans hmodes) (by simp)
    · exact absurd (hend.symm.trans hmodes) (by simp)
  · rcases hcases with ⟨modes, hmodes, -⟩ | ⟨flaws, found, -, hflaws, hfound, hlisted⟩ | ⟨_, -, hend⟩
    · exact ⟨modes, hmodes⟩
    · -- what the reader has reported would be among the flaws found, and there are none
      rw [Except.ok.inj (hfound.symm.trans h), List.sublist_nil, List.map_eq_nil_iff] at hlisted
      exact absurd hlisted hflaws
    · exact absurd (hend.symm.trans h) (by simp)
  · have hread := Mode.readCustom_eq_ok.mp h
    exact ⟨hread.each.imp fun _ _ hitem => hitem.read, hread.distinct⟩
  · rcases hcases with ⟨_, -, -, hvalid⟩ | ⟨flaws, found', hend, hflaws, hfound, hlisted⟩ | ⟨_, -, hend⟩
    · exact absurd (Except.ok.inj (h.symm.trans hvalid)) hsome
    · rw [Except.ok.inj (h.symm.trans hfound)]
      exact ⟨flaws, hend, hflaws, hlisted⟩
    · exact absurd (hend.symm.trans h) (by simp)
  · rw [result_validate] at h
    obtain ⟨s, hs, -⟩ := ofJson_of_flawless h
    exact ⟨s, hs⟩

/-- One mode is loaded; twice the same mode is rejected. -/
theorem editingMode_loads_once :
    (∃ m, (Mode.readCustom (.arr [(editingMode "\\.md$").toJson])).result = .ok [m] ∧
      Mode.ofJson (editingMode "\\.md$").toJson = .ok m) ∧
    (∃ s, (ofJson (modesDocument "1.0" [(editingMode "\\.md$").toJson])).result = .ok s) ∧
    ∃ flaws, (Mode.readCustom (.arr [(editingMode "\\.md$").toJson,
      (editingMode "\\.md$").toJson])).result = .error (.badMode (.flawedList flaws)) ∧ flaws ≠ [] := by
  obtain ⟨hload, heach, -, hread⟩ := loads_iff_validates "1.0" [(editingMode "\\.md$").toJson]
  obtain ⟨-, -, hreject, -⟩ :=
    loads_iff_validates "1.0" [(editingMode "\\.md$").toJson, (editingMode "\\.md$").toJson]
  have honce : (validate (modesDocument "1.0" [(editingMode "\\.md$").toJson])).result = .ok [] := rfl
  have htwice : (validate (modesDocument "1.0" [(editingMode "\\.md$").toJson,
      (editingMode "\\.md$").toJson])).result = .ok [.duplicateSlug 1 "docs"] := rfl
  refine ⟨?_, hread _ honce, ?_⟩
  · obtain ⟨modes, hmodes⟩ := hload.mpr honce
    obtain ⟨m, rest, hm, hrest, rfl⟩ := List.forall₂_cons_left_iff.mp (heach modes hmodes).1
    rw [List.forall₂_nil_left_iff.mp hrest] at hmodes
    exact ⟨m, hmodes, hm⟩
  · obtain ⟨flaws, hflaws, hsome, -⟩ := hreject _ htwice (List.cons_ne_nil _ _)
    exact ⟨flaws, hflaws, hsome⟩

end Settings

end ModePolicy
