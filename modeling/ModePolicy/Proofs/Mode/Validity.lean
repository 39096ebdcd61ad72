import Mathlib.Data.List.Nodup
import ModePolicy.Mode.Validation
import ModePolicy.Proofs.Json.Values
import ModePolicy.Proofs.Outcome

/-!
# Data without flaws, and the modes made from them

The validator lists what is wrong with the data of a mode; the reader makes a mode from data. They
go through the data separately, so what they have in common needs a proof:

> `Mode.flaws_eq_nil_iff`: data are without flaws exactly if they are an object without unknown
> fields whose groups are a list, and reading them gives a *valid* mode.

Valid (`Mode.Valid`) is said of the mode alone: its slug, name and role are texts as they should be,
its instructions are a text or null, and its entries grant distinct groups under usable options. Each
function of the validator has one lemma that says what it means that it finds nothing.

A mode written as data is read back as it was (`Mode.ofJson_toJson`), valid or not. So the data of a
mode are without flaws exactly if the mode is valid (`Mode.flaws_toJson`).
-/

namespace ModePolicy

/-! ## Options and entries -/

/-- The value is null or a regular expression. -/
def Json.IsPattern (v : Json) : Prop :=
  v = .null ∨ ∃ s r, v = .str s ∧ Pattern.compile s = .ok r

/-- Options that can be used: the file expression is one, the description is a text, and either may be
null. -/
structure GroupOptions.Valid (o : GroupOptions) : Prop where
  fileRegex : o.fileRegex.IsPattern
  description : o.description.isOptionalStr = true

/-- The options of the entry can be used, if it has some. -/
def GroupEntry.Valid (e : GroupEntry) : Prop := ∀ o, e.options? = some o → o.Valid

theorem ModeFlaw.ofFileRegex_eq_nil {index : Nat} {v : Json} :
    ModeFlaw.ofFileRegex index v = .ok [] ↔ v.IsPattern := by
  unfold Json.IsPattern
  cases v with
  | null => simp [ModeFlaw.ofFileRegex]
  | str s =>
    unfold ModeFlaw.ofFileRegex
    cases h : Pattern.compile s with
    | ok r => simp [h]
    | error e => cases e <;> simp [h]
  | _ => simp [ModeFlaw.ofFileRegex]

theorem ModeFlaw.ofOptions_eq_nil {index : Nat} {options : Option GroupOptions} :
    ModeFlaw.ofOptions index options = .ok [] ↔ ∀ o, options = some o → o.Valid := by
  cases options with
  | none => simp [ModeFlaw.ofOptions]
  | some o =>
    unfold ModeFlaw.ofOptions
    constructor
    · intro h p hp
      obtain ⟨regexFlaws, hregex, hrest⟩ := bind_succeeds.mp h
      obtain ⟨hnil, hdescription⟩ := List.append_eq_nil_iff.mp (Except.ok.inj hrest)
      rw [hnil] at hregex
      cases hp
      refine ⟨ModeFlaw.ofFileRegex_eq_nil.mp hregex, ?_⟩
      by_contra hne
      rw [if_neg hne] at hdescription
      exact absurd hdescription (by simp)
    · intro h
      have hvalid := h o rfl
      refine bind_succeeds.mpr ⟨[], ModeFlaw.ofFileRegex_eq_nil.mpr hvalid.fileRegex, ?_⟩
      rw [if_pos hvalid.description]
      rfl

/-- Reading a list of entries that starts with a good one. -/
theorem GroupEntry.ofItems_cons {item : Json} {rest : List Json} {entries : List GroupEntry} :
    GroupEntry.ofItems (item :: rest) = .ok entries ↔
      ∃ e es, GroupEntry.ofJson item = .ok e ∧ GroupEntry.ofItems rest = .ok es ∧
        entries = e :: es := by
  constructor
  · intro h
    obtain ⟨e, he, hrest⟩ := bind_succeeds.mp h
    obtain ⟨es, hes, heq⟩ := bind_succeeds.mp hrest
    exact ⟨e, es, he, hes, (Except.ok.inj heq).symm⟩
  · intro h
    obtain ⟨e, es, he, hes, rfl⟩ := h
    exact bind_succeeds.mpr ⟨e, he, bind_succeeds.mpr ⟨es, hes, rfl⟩⟩

/-- Nothing is wrong with the items of the groups exactly if they are read as valid entries of groups
that are distinct and not seen before. -/
theorem ModeFlaw.ofEntries_eq_nil (items : List Json) : ∀ {index : Nat} {seen : List ToolGroup},
    ModeFlaw.ofEntries index seen items = .ok [] ↔
      ∃ entries, GroupEntry.ofItems items = .ok entries ∧ (∀ e ∈ entries, e.Valid) ∧
        (entries.map (·.group)).Nodup ∧ ∀ e ∈ entries, e.group ∉ seen := by
  induction items with
  | nil => intro index seen; simp [ModeFlaw.ofEntries, GroupEntry.ofItems]
  | cons item rest ih =>
    intro index seen
    -- the groups of the items before are among those seen, so the claim is about any such list
    unfold ModeFlaw.ofEntries
    cases hitem : GroupEntry.ofJson item with
    | error why =>
      constructor
      · intro h
        obtain ⟨flaws, -, heq⟩ := bind_succeeds.mp h
        exact absurd (Except.ok.inj heq) (by simp)
      · intro h
        obtain ⟨entries, hread, -⟩ := h
        obtain ⟨e, es, he, -⟩ := GroupEntry.ofItems_cons.mp hread
        rw [hitem] at he
        exact absurd he (by simp)
    | ok entry =>
      constructor
      · intro h
        obtain ⟨optionFlaws, hoptions, h⟩ := bind_succeeds.mp h
        obtain ⟨later, hlater, heq⟩ := bind_succeeds.mp h
        obtain ⟨hfront, rfl⟩ := List.append_eq_nil_iff.mp (Except.ok.inj heq)
        obtain ⟨hrepeated, rfl⟩ := List.append_eq_nil_iff.mp hfront
        obtain ⟨es, hes, hvalid, hnodup, hnew⟩ := ih.mp hlater
        have hseen : entry.group ∉ seen := by
          intro hmem
          rw [if_pos (List.contains_iff_mem.mpr hmem)] at hrepeated
          exact absurd hrepeated (by simp)
        have hother : entry.group ∉ es.map (·.group) := by
          intro hmem
          obtain ⟨e, he, hgroup⟩ := List.mem_map.mp hmem
          exact hnew e he (hgroup ▸ List.mem_cons_self ..)
        refine ⟨entry :: es, GroupEntry.ofItems_cons.mpr ⟨entry, es, hitem, hes, rfl⟩, ?_, ?_, ?_⟩
        · exact List.forall_mem_cons.mpr ⟨ModeFlaw.ofOptions_eq_nil.mp hoptions, hvalid⟩
        · exact List.nodup_cons.mpr ⟨hother, hnodup⟩
        · exact List.forall_mem_cons.mpr
            ⟨hseen, fun e he hmem => hnew e he (List.mem_cons_of_mem _ hmem)⟩
      · intro h
        obtain ⟨entries, hread, hvalid, hnodup, hnew⟩ := h
        obtain ⟨e, es, he, hes, rfl⟩ := GroupEntry.ofItems_cons.mp hread
        rw [hitem] at he
        cases he
        obtain ⟨hother, hnodup⟩ := List.nodup_cons.mp hnodup
        obtain ⟨hthis, hvalid⟩ := List.forall_mem_cons.mp hvalid
        obtain ⟨hseen, hnew⟩ := List.forall_mem_cons.mp hnew
        have hlater : ModeFlaw.ofEntries (index + 1) (entry.group :: seen) rest = .ok [] := by
          refine ih.mpr ⟨es, hes, hvalid, hnodup, fun e he hmem => ?_⟩
          rcases List.mem_cons.mp hmem with hsame | hmem
          · exact hother (List.mem_map.mpr ⟨e, he, hsame⟩)
          · exact hnew e he hmem
        refine bind_succeeds.mpr ⟨[], ModeFlaw.ofOptions_eq_nil.mpr hthis, ?_⟩
        refine bind_succeeds.mpr ⟨[], hlater, ?_⟩
        rw [if_neg (by simpa using hseen)]
        rfl

/-! ## Modes -/

/-- A mode that can be registered and saved: its texts are as they should be, and its entries grant
distinct groups under options that can be used. -/
structure Mode.Valid (m : Mode) : Prop where
  slug : ModeFlaw.ofSlug m.slug = []
  name : ModeFlaw.ofName m.name = []
  role : ModeFlaw.ofRole m.role = []
  instructions : m.instructions.isOptionalStr = true
  entries : ∀ e ∈ m.groups, e.Valid
  distinct : (m.groups.map (·.group)).Nodup

/-- Entries without options are valid, so only the texts and the groups of their mode need to be. -/
theorem Mode.valid_of_simple {m : Mode} (granted : List ToolGroup)
    (hgroups : m.groups = granted.map .simple) (hdistinct : granted.Nodup)
    (hslug : ModeFlaw.ofSlug m.slug = []) (hname : ModeFlaw.ofName m.name = [])
    (hrole : ModeFlaw.ofRole m.role = []) (hinstructions : m.instructions.isOptionalStr = true) :
    m.Valid := by
  refine ⟨hslug, hname, hrole, hinstructions, fun e he => ?_, ?_⟩
  · rw [hgroups] at he
    obtain ⟨group, -, rfl⟩ := List.mem_map.mp he
    exact fun o ho => absurd ho (by simp [GroupEntry.options?])
  · have hsame : m.groups.map (·.group) = granted := by
      rw [hgroups, List.map_map]
      exact List.map_id granted
    rwa [hsame]

/-- A check that refuses everything but texts has nothing against texts only. -/
theorem ModeFlaw.isStr_of_check {check : Json → List ModeFlaw} {v : Json}
    (hcheck : ∀ w, w.isStr = false → check w ≠ []) (h : check v = []) : v.isStr = true := by
  by_contra hne
  exact hcheck v (Bool.eq_false_iff.mpr hne) h

section Texts

variable {m : Mode}

theorem Mode.Valid.slug_isStr (h : m.Valid) : m.slug.isStr = true :=
  ModeFlaw.isStr_of_check (fun w hw => by cases w <;> simp_all [Json.isStr, ModeFlaw.ofSlug]) h.slug

theorem Mode.Valid.name_isStr (h : m.Valid) : m.name.isStr = true :=
  ModeFlaw.isStr_of_check (fun w hw => by cases w <;> simp_all [Json.isStr, ModeFlaw.ofName]) h.name

theorem Mode.Valid.role_isStr (h : m.Valid) : m.role.isStr = true :=
  ModeFlaw.isStr_of_check (fun w hw => by cases w <;> simp_all [Json.isStr, ModeFlaw.ofRole]) h.role

end Texts

theorem ModeFlaw.ofInstructions_eq_nil {v : Json} :
    ModeFlaw.ofInstructions v = [] ↔ v.isOptionalStr = true := by
  unfold ModeFlaw.ofInstructions
  split <;> simp_all

/-- The fields that an object lacks are those that reading it finds missing. -/
theorem ModeField.missingIn_obj (fields : Fields Json) (wanted : List ModeField) :
    ModeField.missingIn (.obj fields) wanted =
      .ok (wanted.filter fun f => !f.keys.any fun key => (fields.lookup key).isSome) := by
  induction wanted with
  | nil => rfl
  | cons f rest ih =>
    have hkeys : f.keys.mapM (Json.obj fields).mentions =
        Except.ok (f.keys.map fun key => (fields.lookup key).isSome) := List.mapM_pure
    unfold ModeField.missingIn
    rw [hkeys, ih, List.filter_cons]
    have hfound : (f.keys.map fun key => (fields.lookup key).isSome).any id =
        f.keys.any fun key => (fields.lookup key).isSome := List.any_map
    simp only [pure_is_ok, ok_chain, hfound]
    cases f.keys.any fun key => (fields.lookup key).isSome <;> rfl

theorem ModeField.missingIn_all (fields : Fields Json) :
    ModeField.missingIn (.obj fields) ModeField.all = .ok (ModeField.lackingIn fields) :=
  ModeField.missingIn_obj fields ModeField.all

/-- The mode that the texts of an object and the entries of its groups make. -/
def Mode.ofFields (fields : Fields Json) (groups : List GroupEntry) : Mode where
  slug := (fields.lookup "slug").getD .null
  name := (fields.lookup "name").getD .null
  role := Json.oneOf fields "roleDefinition" "role_definition"
  groups := groups
  instructions := Json.oneOf fields "customInstructions" "custom_instructions"

/-- What reading an object as a mode needs, and what it gives. -/
theorem Mode.ofJson_obj {fields : Fields Json} {m : Mode} :
    Mode.ofJson (.obj fields) = .ok m ↔
      ModeField.lackingIn fields = [] ∧
      ∃ items groups, ((fields.lookup "groups").getD .null).elements = .ok items ∧
        GroupEntry.ofItems items = .ok groups ∧ m = Mode.ofFields fields groups := by
  unfold Mode.ofJson
  rw [ModeField.missingIn_all]
  cases hl : ModeField.lackingIn fields with
  | cons f rest => simp [bind, Except.bind, throw, throwThe, MonadExceptOf.throw]
  | nil =>
    simp only [Json.field, Json.eitherField, lift_misuse, mapError_ok, ok_chain, List.isEmpty_nil,
      Bool.not_true, Bool.false_eq_true, if_false, true_and]
    constructor
    · intro h
      obtain ⟨items, hitems, h⟩ := bind_succeeds.mp h
      refine ⟨items, ?_⟩
      cases hgroups : GroupEntry.ofItems items with
      | error why =>
        rw [hgroups] at h
        exact absurd h (by simp [throw, throwThe, MonadExceptOf.throw])
      | ok groups =>
        rw [hgroups] at h
        exact ⟨groups, mapError_succeeds.mp hitems, rfl, (Except.ok.inj h).symm⟩
    · intro h
      obtain ⟨items, groups, hitems, hgroups, rfl⟩ := h
      refine bind_succeeds.mpr ⟨items, mapError_succeeds.mpr hitems, ?_⟩
      rw [hgroups]
      rfl

/-- There are no unknown fields exactly if every name is known. -/
theorem ModeFlaw.ofNames_eq_nil {names : List String} :
    ModeFlaw.ofNames names = [] ↔ ∀ name ∈ names, name ∈ knownModeFields := by
  unfold ModeFlaw.ofNames
  constructor
  · intro h
    split at h
    · rename_i hfilter
      intro name hname
      simpa using List.filter_eq_nil_iff.mp hfilter name hname
    · exact absurd h (by simp)
  · intro h
    have hfilter : names.filter (!knownModeFields.contains ·) = [] :=
      List.filter_eq_nil_iff.mpr fun name hname => by simpa using h name hname
    rw [hfilter]

theorem ModeFlaw.ofGroups_eq_nil {v : Json} :
    ModeFlaw.ofGroups v = .ok [] ↔
      ∃ items, v = .arr items ∧ ModeFlaw.ofEntries 0 [] items = .ok [] := by
  cases v <;> simp [ModeFlaw.ofGroups]

theorem ModeFlaw.ofFields_eq_nil {fields : Fields Json} :
    ModeFlaw.ofFields fields = .ok [] ↔
      ModeFlaw.ofGroups ((fields.lookup "groups").getD .null) = .ok [] ∧
      ModeFlaw.ofSlug ((fields.lookup "slug").getD .null) = [] ∧
      ModeFlaw.ofName ((fields.lookup "name").getD .null) = [] ∧
      ModeFlaw.ofRole (Json.oneOf fields "roleDefinition" "role_definition") = [] ∧
      ModeFlaw.ofInstructions (Json.oneOf fields "customInstructions" "custom_instructions") = [] ∧
      ModeFlaw.ofNames (Fields.names fields) = [] := by
  unfold ModeFlaw.ofFields
  constructor
  · intro h
    obtain ⟨groupFlaws, hgroups, hall⟩ := bind_succeeds.mp h
    have hall := Except.ok.inj hall
    simp only [List.append_eq_nil_iff] at hall
    obtain ⟨⟨⟨⟨⟨hslug, hname⟩, hrole⟩, hinstructions⟩, rfl⟩, hnames⟩ := hall
    exact ⟨hgroups, hslug, hname, hrole, hinstructions, hnames⟩
  · intro h
    obtain ⟨hgroups, hslug, hname, hrole, hinstructions, hnames⟩ := h
    refine bind_succeeds.mpr ⟨[], hgroups, ?_⟩
    rw [hslug, hname, hrole, hinstructions, hnames]
    rfl

theorem Mode.flaws_obj_eq_nil {fields : Fields Json} :
    Mode.flaws (.obj fields) = .ok [] ↔
      ModeField.lackingIn fields = [] ∧ ModeFlaw.ofFields fields = .ok [] := by
  unfold Mode.flaws
  cases hl : ModeField.lackingIn fields <;> simp [hl]

/-- **Data are without flaws exactly if they are an object without unknown fields whose groups are a
list, and they are read as a valid mode.** -/
theorem Mode.flaws_eq_nil_iff {data : Json} :
    Mode.flaws data = .ok [] ↔
      ∃ fields items m, data = .obj fields ∧ (fields.lookup "groups").getD .null = .arr items ∧
        ModeFlaw.ofNames (Fields.names fields) = [] ∧ Mode.ofJson data = .ok m ∧ m.Valid := by
  constructor
  · intro h
    cases data with
    | obj fields =>
      obtain ⟨hl, h⟩ := Mode.flaws_obj_eq_nil.mp h
      obtain ⟨hgroups, hslug, hname, hrole, hinstructions, hnames⟩ := ModeFlaw.ofFields_eq_nil.mp h
      obtain ⟨items, hg, hentries⟩ := ModeFlaw.ofGroups_eq_nil.mp hgroups
      obtain ⟨groups, hread, hvalid, hdistinct, -⟩ := (ModeFlaw.ofEntries_eq_nil items).mp hentries
      refine ⟨fields, items, Mode.ofFields fields groups, rfl, hg, hnames, ?_, ?_⟩
      · exact Mode.ofJson_obj.mpr ⟨hl, items, groups, by rw [hg]; rfl, hread, rfl⟩
      · exact ⟨hslug, hname, hrole, ModeFlaw.ofInstructions_eq_nil.mp hinstructions, hvalid, hdistinct⟩
    | _ => exact absurd h (by simp [Mode.flaws])
  · intro h
    obtain ⟨fields, items, m, rfl, hg, hnames, hread, hvalid⟩ := h
    obtain ⟨hl, items', groups, helements, hgroups, rfl⟩ := Mode.ofJson_obj.mp hread
    rw [hg] at helements
    cases helements
    have hentries : ModeFlaw.ofEntries 0 [] items = .ok [] :=
      (ModeFlaw.ofEntries_eq_nil items).mpr ⟨groups, hgroups, hvalid.entries, hvalid.distinct, by simp⟩
    refine Mode.flaws_obj_eq_nil.mpr ⟨hl, ModeFlaw.ofFields_eq_nil.mpr ?_⟩
    exact ⟨ModeFlaw.ofGroups_eq_nil.mpr ⟨items, hg, hentries⟩, hvalid.slug, hvalid.name, hvalid.role,
      ModeFlaw.ofInstructions_eq_nil.mpr hvalid.instructions, hnames⟩

/-- Data without flaws are read as a valid mode. -/
theorem Mode.ofJson_of_flaws {data : Json} (h : Mode.flaws data = .ok []) :
    ∃ m, Mode.ofJson data = .ok m ∧ m.Valid := by
  obtain ⟨fields, items, m, -, -, -, hread, hvalid⟩ := Mode.flaws_eq_nil_iff.mp h
  exact ⟨m, hread, hvalid⟩

/-! ## Reading back what was written -/

theorem ToolGroup.ofName_name (g : ToolGroup) : ToolGroup.ofName? g.name = some g := by
  cases g <;> decide

/-- A field that is written if it is set is found under its name, and otherwise null is. -/
theorem lookup_optionalField (name : String) (v : Json) :
    ((optionalField name v).lookup name).getD .null = v := by
  unfold optionalField
  cases v <;> simp [Json.isNull]

theorem lookup_optionalField_ne {name other : String} (h : other ≠ name) (v : Json) :
    (optionalField name v).lookup other = none := by
  unfold optionalField
  split
  · rfl
  · simp [List.lookup, beq_false_of_ne h]

theorem mem_names_optionalField {name other : String} {v : Json}
    (h : other ∈ (optionalField name v).map (·.1)) : other = name := by
  unfold optionalField at h
  split at h
  · exact absurd h List.not_mem_nil
  · exact List.mem_singleton.mp h

/-- So it is as the first of two names, if the other is not used. -/
theorem oneOf_optionalField {fields : Fields Json} {first second : String} {v : Json}
    (hfirst : fields.lookup first = (optionalField first v).lookup first)
    (hsecond : fields.lookup second = none) : Json.oneOf fields first second = v := by
  have h := lookup_optionalField first v
  unfold Json.oneOf
  rw [hfirst, hsecond]
  cases hv : (optionalField first v).lookup first with
  | none => rwa [hv] at h
  | some w => rwa [hv] at h

theorem GroupOptions.ofFields_toJson (o : GroupOptions) :
    GroupOptions.ofFields (optionalField "fileRegex" o.fileRegex ++
      optionalField "description" o.description) = o := by
  have hregex : Json.oneOf (optionalField "fileRegex" o.fileRegex ++
      optionalField "description" o.description) "fileRegex" "file_regex" = o.fileRegex :=
    oneOf_optionalField (by simp [List.lookup_append, lookup_optionalField_ne])
      (by simp [List.lookup_append, lookup_optionalField_ne])
  have hdescription : ((optionalField "fileRegex" o.fileRegex ++
      optionalField "description" o.description).lookup "description").getD .null = o.description := by
    rw [List.lookup_append, lookup_optionalField_ne (by decide), Option.none_or]
    exact lookup_optionalField ..
  unfold GroupOptions.ofFields
  rw [hregex, hdescription]

theorem GroupEntry.ofJson_toJson (e : GroupEntry) : GroupEntry.ofJson e.toJson = .ok e := by
  have hgroup : ∀ g : ToolGroup, GroupEntry.readGroup (.str g.name) = .ok g := fun g => by
    simp [GroupEntry.readGroup, ToolGroup.ofJson?, ToolGroup.ofName_name]
  cases e with
  | simple g => simp [GroupEntry.ofJson, GroupEntry.toJson, hgroup]
  | restricted g o =>
    simp [GroupEntry.ofJson, GroupEntry.toJson, GroupOptions.toJson, hgroup,
      GroupOptions.ofFields_toJson]

theorem GroupEntry.ofItems_toJson (entries : List GroupEntry) :
    GroupEntry.ofItems (entries.map (·.toJson)) = .ok entries := by
  induction entries with
  | nil => rfl
  | cons e es ih => exact GroupEntry.ofItems_cons.mpr ⟨e, es, GroupEntry.ofJson_toJson e, ih, rfl⟩

/-- **A mode is read back as it was written**, valid or not. -/
theorem Mode.ofJson_toJson (m : Mode) : Mode.ofJson m.toJson = .ok m := by
  refine Mode.ofJson_obj.mpr ⟨?_, m.groups.map (·.toJson), m.groups, ?_,
    GroupEntry.ofItems_toJson m.groups, ?_⟩
  · simp [ModeField.lackingIn, ModeField.all, ModeField.keys, List.lookup]
  · simp [List.lookup, Json.elements]
  · have hinstructions : Json.oneOf ([("slug", m.slug), ("name", m.name), ("roleDefinition", m.role),
        ("groups", .arr (m.groups.map (·.toJson)))] ++ optionalField "customInstructions" m.instructions)
        "customInstructions" "custom_instructions" = m.instructions :=
      oneOf_optionalField (by simp [List.lookup]) (by simp [List.lookup, lookup_optionalField_ne])
    unfold Mode.ofFields
    rw [hinstructions]
    simp [List.lookup, Json.oneOf]

theorem PromptOverride.ofJson_toJson (p : PromptOverride) :
    PromptOverride.ofJson p.toJson = .ok p := by
  have hrole : Json.oneOf (optionalField "roleDefinition" p.role ++
      optionalField "customInstructions" p.instructions) "roleDefinition" "role_definition" = p.role :=
    oneOf_optionalField (by simp [List.lookup_append, lookup_optionalField_ne])
      (by simp [List.lookup_append, lookup_optionalField_ne])
  have hinstructions : Json.oneOf (optionalField "roleDefinition" p.role ++
      optionalField "customInstructions" p.instructions) "customInstructions" "custom_instructions" =
        p.instructions :=
    oneOf_optionalField (by simp [List.lookup_append, lookup_optionalField_ne])
      (by simp [List.lookup_append, lookup_optionalField_ne])
  simp [PromptOverride.ofJson, PromptOverride.toJson, Json.eitherField, hrole, hinstructions]

/-- **What is written of a mode is without flaws exactly if the mode is valid.** -/
theorem Mode.flaws_toJson {m : Mode} : Mode.flaws m.toJson = .ok [] ↔ m.Valid := by
  constructor
  · intro h
    obtain ⟨n, hread, hvalid⟩ := Mode.ofJson_of_flaws h
    rw [Mode.ofJson_toJson] at hread
    cases hread
    exact hvalid
  · intro hvalid
    refine Mode.flaws_eq_nil_iff.mpr
      ⟨_, m.groups.map (·.toJson), m, rfl, ?_, ?_, Mode.ofJson_toJson m, hvalid⟩
    · simp [List.lookup]
    · refine ModeFlaw.ofNames_eq_nil.mpr fun name hname => ?_
      rw [Fields.names, List.map_append] at hname
      rcases List.mem_append.mp hname with hname | hname
      · have hfour : ["slug", "name", "roleDefinition", "groups"] ⊆ knownModeFields := by decide
        exact hfour hname
      · rw [mem_names_optionalField hname]
        decide

end ModePolicy
