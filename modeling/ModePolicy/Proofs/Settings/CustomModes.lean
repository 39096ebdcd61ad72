import Mathlib.Data.List.Forall2
import ModePolicy.Proofs.Mode.Validity
import ModePolicy.Settings.Reading

/-!
# Lists of custom modes

Two walks go through a list of data of modes. The validator (`SettingsFlaw.ofModeItems`) says what is
wrong with it and never makes a mode; the reader (`ModeListFlaw.readItems`) checks each item again
and makes the modes. Both remember the slugs that they have seen, the one as texts taken from the
data, the other as the slugs of the modes made.

> `ofModeItems_eq_nil` and `readItems_eq_ok`: each of them is content exactly if every item is read
> as a valid mode and the slugs of these modes are distinct.

So either of them succeeds on the lists on which the other does, and the reader then makes one mode
of each item.
-/

namespace ModePolicy

/-- The data of a mode are without flaws and are read as this mode. -/
structure Mode.Reads (data : Json) (m : Mode) : Prop where
  flawless : Mode.flaws data = .ok []
  read : Mode.ofJson data = .ok m

namespace Mode.Reads

variable {data : Json} {m : Mode}

theorem valid (h : Mode.Reads data m) : m.Valid := by
  obtain ⟨n, hread, hvalid⟩ := Mode.ofJson_of_flaws h.flawless
  rw [h.read] at hread
  cases hread
  exact hvalid

/-- What is written of a mode is read as that mode, if it is valid. -/
theorem toJson_iff {n : Mode} : Mode.Reads m.toJson n ↔ n = m ∧ m.Valid := by
  constructor
  · intro h
    obtain ⟨hflawless, hread⟩ := h
    rw [Mode.ofJson_toJson] at hread
    exact ⟨(Except.ok.inj hread).symm, Mode.flaws_toJson.mp hflawless⟩
  · intro h
    obtain ⟨rfl, hvalid⟩ := h
    exact ⟨Mode.flaws_toJson.mpr hvalid, Mode.ofJson_toJson n⟩

/-- The slug in the data is that of the mode, and a text. -/
theorem slugText (h : Mode.Reads data m) :
    ∃ s, m.slug = .str s ∧ SettingsFlaw.slugText? data = some s := by
  obtain ⟨fields, items, n, rfl, -, -, hread, hvalid⟩ := Mode.flaws_eq_nil_iff.mp h.flawless
  obtain ⟨-, items, groups, -, -, rfl⟩ := Mode.ofJson_obj.mp h.read
  have htext := h.valid.slug_isStr
  unfold Mode.ofFields at htext ⊢
  cases hlookup : fields.lookup "slug" with
  | none => simp [hlookup, Json.isStr] at htext
  | some v =>
    rw [hlookup] at htext
    cases v with
    | str s => exact ⟨s, rfl, by simp [SettingsFlaw.slugText?, hlookup, Json.str?]⟩
    | _ => exact absurd htext (by simp [Json.isStr])

end Mode.Reads

/-- Data without flaws are read as some mode. -/
theorem Mode.exists_reads {data : Json} (h : Mode.flaws data = .ok []) :
    ∃ m, Mode.Reads data m := by
  obtain ⟨m, hread, -⟩ := Mode.ofJson_of_flaws h
  exact ⟨m, h, hread⟩

/-- The items of a list are read as modes of distinct slugs, none of which is among those given. -/
structure Mode.ReadsAll (seen : List String) (items : List Json) (modes : List Mode) : Prop where
  each : List.Forall₂ Mode.Reads items modes
  distinct : (modes.map (·.slug)).Nodup
  fresh : ∀ m ∈ modes, ∀ s ∈ seen, m.slug ≠ .str s

/-- The modes read are valid. -/
theorem Mode.ReadsAll.valid {seen : List String} {items : List Json} {modes : List Mode}
    (h : Mode.ReadsAll seen items modes) : ∀ m ∈ modes, m.Valid := by
  have heach := h.each
  clear h
  induction heach with
  | nil => simp
  | cons hread _ ih => exact List.forall_mem_cons.mpr ⟨hread.valid, ih⟩

theorem Mode.readsAll_nil (seen : List String) : Mode.ReadsAll seen [] [] :=
  ⟨.nil, List.nodup_nil, by simp⟩

/-- A list is read item by item, each with the slugs of the items before it among those seen. -/
theorem Mode.readsAll_cons {seen : List String} {item : Json} {rest : List Json} {m : Mode}
    {modes : List Mode} {s : String} (hs : m.slug = .str s) :
    Mode.ReadsAll seen (item :: rest) (m :: modes) ↔
      Mode.Reads item m ∧ s ∉ seen ∧ Mode.ReadsAll (s :: seen) rest modes := by
  constructor
  · intro h
    obtain ⟨heach, hdistinct, hfresh⟩ := h
    obtain ⟨hitem, hrest⟩ := List.forall₂_cons.mp heach
    obtain ⟨hother, hdistinct⟩ := List.nodup_cons.mp hdistinct
    obtain ⟨hnew, hfresh⟩ := List.forall_mem_cons.mp hfresh
    refine ⟨hitem, fun hmem => hnew s hmem hs, hrest, hdistinct, fun n hn t ht => ?_⟩
    rcases List.mem_cons.mp ht with rfl | ht
    · exact fun hslug => hother (List.mem_map.mpr ⟨n, hn, hslug.trans hs.symm⟩)
    · exact hfresh n hn t ht
  · intro h
    obtain ⟨hitem, hnew, hrest, hdistinct, hfresh⟩ := h
    refine ⟨List.forall₂_cons.mpr ⟨hitem, hrest⟩, List.nodup_cons.mpr ⟨?_, hdistinct⟩, ?_⟩
    · intro hmem
      obtain ⟨n, hn, hslug⟩ := List.mem_map.mp hmem
      exact hfresh n hn s (List.mem_cons_self ..) (hslug.trans hs)
    · refine List.forall_mem_cons.mpr ⟨fun t ht hslug => ?_, fun n hn t ht => ?_⟩
      · exact hnew (Json.str.inj (hs.symm.trans hslug) ▸ ht)
      · exact hfresh n hn t (List.mem_cons_of_mem _ ht)

/-- What is written of modes is read as these modes, if they are valid and of distinct slugs. -/
theorem Mode.readsAll_toJson {modes others : List Mode} :
    Mode.ReadsAll [] (modes.map (·.toJson)) others ↔
      others = modes ∧ (∀ m ∈ modes, m.Valid) ∧ (modes.map (·.slug)).Nodup := by
  have heach : List.Forall₂ Mode.Reads (modes.map (·.toJson)) others ↔
      others = modes ∧ ∀ m ∈ modes, m.Valid := by
    induction modes generalizing others with
    | nil => simp
    | cons m modes ih =>
      cases others with
      | nil => simp
      | cons n others =>
        rw [List.map_cons, List.forall₂_cons, ih, Mode.Reads.toJson_iff, List.cons.injEq,
          List.forall_mem_cons]
        tauto
  constructor
  · intro h
    obtain ⟨h, hdistinct, -⟩ := h
    obtain ⟨rfl, hvalid⟩ := heach.mp h
    exact ⟨rfl, hvalid, hdistinct⟩
  · intro h
    obtain ⟨rfl, hvalid, hdistinct⟩ := h
    exact ⟨heach.mpr ⟨rfl, hvalid⟩, hdistinct, by simp⟩

/-! ## The validator -/

theorem SettingsFlaw.repeatedSlug_eq_nil {index : Nat} {seen : List String} {s : String} :
    SettingsFlaw.repeatedSlug index seen (some s) = [] ↔ s ∉ seen := by
  simp [SettingsFlaw.repeatedSlug]

/-- **The validator finds nothing wrong exactly if the list can be read.** -/
theorem SettingsFlaw.ofModeItems_eq_nil (items : List Json) : ∀ {index : Nat} {seen : List String},
    SettingsFlaw.ofModeItems index seen items = .ok [] ↔ ∃ modes, Mode.ReadsAll seen items modes := by
  induction items with
  | nil => exact fun {_ seen} => ⟨fun _ => ⟨[], Mode.readsAll_nil seen⟩, fun _ => rfl⟩
  | cons item rest ih =>
    intro index seen
    unfold SettingsFlaw.ofModeItems
    constructor
    · intro h
      obtain ⟨flaws, hflaws, h⟩ := bind_succeeds.mp h
      obtain ⟨later, hlater, h⟩ := bind_succeeds.mp h
      obtain ⟨hfront, rfl⟩ := List.append_eq_nil_iff.mp (Except.ok.inj h)
      obtain ⟨hmap, hrepeated⟩ := List.append_eq_nil_iff.mp hfront
      rw [List.map_eq_nil_iff.mp hmap] at hflaws
      obtain ⟨m, hm⟩ := Mode.exists_reads hflaws
      obtain ⟨s, hs, hslug⟩ := hm.slugText
      rw [hslug] at hrepeated hlater
      obtain ⟨modes, hmodes⟩ := ih.mp hlater
      exact ⟨m :: modes, (Mode.readsAll_cons hs).mpr
        ⟨hm, SettingsFlaw.repeatedSlug_eq_nil.mp hrepeated, hmodes⟩⟩
    · intro h
      obtain ⟨modes, h⟩ := h
      cases modes with
      | nil => exact absurd h.each (by simp)
      | cons m modes =>
        obtain ⟨hm, -⟩ := List.forall₂_cons.mp h.each
        obtain ⟨s, hs, hslug⟩ := hm.slugText
        obtain ⟨-, hnew, hrest⟩ := (Mode.readsAll_cons hs).mp h
        refine bind_succeeds.mpr ⟨[], hm.flawless, ?_⟩
        rw [hslug]
        refine bind_succeeds.mpr ⟨[], ih.mpr ⟨modes, hrest⟩, ?_⟩
        rw [SettingsFlaw.repeatedSlug_eq_nil.mpr hnew]
        rfl

/-! ## The reader -/

namespace ModeListFlaw

/-- An item gives a mode exactly if it is read as that mode and its slug is new. -/
theorem readItem_eq_ok {index : Nat} {seen : List String} {item : Json} {m : Mode} :
    readItem index (seen.map .str) item = .ok (.ok m) ↔
      Mode.Reads item m ∧ ∃ s, m.slug = .str s ∧ s ∉ seen := by
  unfold readItem
  constructor
  · intro h
    obtain ⟨flaws, hflaws, h⟩ := bind_succeeds.mp h
    cases flaws with
    | cons flaw flaws => exact absurd h (by simp)
    | nil =>
      obtain ⟨n, hn, h⟩ := bind_succeeds.mp h
      obtain ⟨s, hs, -⟩ := Mode.Reads.slugText ⟨hflaws, hn⟩
      by_cases hseen : (seen.map Json.str).any (·.same n.slug) = true
      · rw [if_pos hseen] at h
        exact absurd h (by simp)
      · rw [if_neg hseen] at h
        cases h
        refine ⟨⟨hflaws, hn⟩, s, hs, fun hmem => hseen ?_⟩
        rw [hs]
        exact List.any_eq_true.mpr ⟨.str s, List.mem_map_of_mem hmem, Json.same_str.mpr rfl⟩
  · intro h
    obtain ⟨hread, s, hs, hnew⟩ := h
    refine bind_succeeds.mpr ⟨[], hread.flawless, bind_succeeds.mpr ⟨m, hread.read, ?_⟩⟩
    have hseen : ¬ (seen.map Json.str).any (·.same m.slug) = true := by
      rw [hs, List.any_eq_true]
      intro h
      obtain ⟨v, hv, hsame⟩ := h
      obtain ⟨t, ht, rfl⟩ := List.mem_map.mp hv
      exact hnew (Json.str.inj (Json.same_str.mp hsame) ▸ ht)
    rw [if_neg hseen]
    rfl

/-- An item that gives no mode gives a reason. -/
theorem readItem_error {index : Nat} {seen : List Json} {item : Json} {found : List ModeListFlaw}
    (h : readItem index seen item = .ok (.error found)) : found ≠ [] := by
  unfold readItem at h
  obtain ⟨flaws, -, h⟩ := bind_succeeds.mp h
  cases flaws with
  | cons flaw flaws =>
    cases h
    simp
  | nil =>
    obtain ⟨n, -, h⟩ := bind_succeeds.mp h
    split at h
    · cases h
      simp
    · exact absurd h (by simp)

/-- **The reader makes modes of all items exactly if the list can be read**, and they are these. -/
theorem readItems_eq_ok (items : List Json) : ∀ {index : Nat} {seen : List String} {modes : List Mode},
    readItems index (seen.map .str) items = .ok (modes, []) ↔ Mode.ReadsAll seen items modes := by
  induction items with
  | nil =>
    intro index seen modes
    constructor
    · intro h
      cases h
      exact Mode.readsAll_nil seen
    · intro h
      rw [List.forall₂_nil_left_iff.mp h.each]
      rfl
  | cons item rest ih =>
    intro index seen modes
    unfold readItems
    constructor
    · intro h
      obtain ⟨outcome, houtcome, h⟩ := bind_succeeds.mp h
      cases outcome with
      | error found =>
        -- an item that gives no mode leaves a flaw, and there is none
        obtain ⟨⟨later, flaws⟩, -, h⟩ := bind_succeeds.mp h
        have hfound := (Prod.mk.inj (Except.ok.inj h)).2
        exact absurd (List.append_eq_nil_iff.mp hfound).1 (readItem_error houtcome)
      | ok m =>
        obtain ⟨⟨later, flaws⟩, hlater, h⟩ := bind_succeeds.mp h
        obtain ⟨rfl, rfl⟩ := Prod.mk.inj (Except.ok.inj h)
        obtain ⟨hread, s, hs, hnew⟩ := readItem_eq_ok.mp houtcome
        rw [hs] at hlater
        exact (Mode.readsAll_cons hs).mpr ⟨hread, hnew, ih.mp hlater⟩
    · intro h
      cases modes with
      | nil => exact absurd h.each (by simp)
      | cons m modes =>
        obtain ⟨hread, -⟩ := List.forall₂_cons.mp h.each
        obtain ⟨s, hs, -⟩ := hread.slugText
        obtain ⟨-, hnew, hrest⟩ := (Mode.readsAll_cons hs).mp h
        refine bind_succeeds.mpr ⟨.ok m, readItem_eq_ok.mpr ⟨hread, s, hs, hnew⟩, ?_⟩
        refine bind_succeeds.mpr ⟨(modes, []), ?_, rfl⟩
        rw [hs]
        exact ih.mpr hrest

end ModeListFlaw

/-- How the reader of a list ends: with modes, with a rejection, or where it is stopped. -/
theorem Mode.result_readCustom (items : List Json) :
    (Mode.readCustom (.arr items)).result =
      (ModeListFlaw.readItems 0 [] items).bind fun outcome =>
        if outcome.2.isEmpty then .ok outcome.1 else .error (.badMode (.flawedList outcome.2)) := by
  unfold Mode.readCustom
  cases hitems : ModeListFlaw.readItems 0 [] items with
  | error failure => simp [Json.elements, hitems]
  | ok outcome =>
    obtain ⟨modes, flaws⟩ := outcome
    cases flaws <;> simp [Json.elements, hitems]

/-- A list of data is loaded exactly if it can be read, as the modes that it is read as. -/
theorem Mode.readCustom_eq_ok {items : List Json} {modes : List Mode} :
    (Mode.readCustom (.arr items)).result = .ok modes ↔ Mode.ReadsAll [] items modes := by
  have hread : ModeListFlaw.readItems 0 [] items = .ok (modes, []) ↔ Mode.ReadsAll [] items modes :=
    @ModeListFlaw.readItems_eq_ok items 0 [] modes
  rw [← hread, Mode.result_readCustom]
  constructor
  · intro h
    obtain ⟨⟨found, flaws⟩, hfound, h⟩ := bind_succeeds.mp h
    cases flaws with
    | nil =>
      rw [hfound]
      cases h
      rfl
    | cons flaw flaws => exact absurd h (by simp)
  · intro h
    exact bind_succeeds.mpr ⟨(modes, []), h, rfl⟩

end ModePolicy
