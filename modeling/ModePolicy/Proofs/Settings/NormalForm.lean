import ModePolicy.Proofs.Settings.CustomModes

/-!
# Settings that have been read once

Data of settings are validated, read and, when they are saved, written again in one form: every
field present, every name in its first spelling, nothing that is not set. The validator and the
reader go through the data separately. Each part of both has one lemma here that says when the part
is content; they are put together in

> `Settings.validated_reads_back`: data without flaws are read as settings, and what is written of
> these is read as the same settings. It is without flaws itself exactly if the overrides of prompts
> in the data are texts *under either spelling* (`OverridesAreTexts`).

The condition is there because the validator looks at the first spelling of the names in an override
only, while the reader takes either. `numberedRole_written_with_flaw` is an input that shows it.
-/

namespace ModePolicy

/-! ## Prompt overrides -/

/-- The texts of an override are texts or not set. -/
structure PromptOverride.Valid (p : PromptOverride) : Prop where
  role : p.role.isOptionalStr = true
  instructions : p.instructions.isOptionalStr = true

/-- The override in an object. -/
def PromptOverride.ofFields (texts : Fields Json) : PromptOverride where
  role := Json.oneOf texts "roleDefinition" "role_definition"
  instructions := Json.oneOf texts "customInstructions" "custom_instructions"

theorem PromptOverride.ofJson_obj (texts : Fields Json) :
    PromptOverride.ofJson (.obj texts) = .ok (.ofFields texts) := rfl

/-- Overrides given as objects can always be read. -/
theorem Settings.readPrompts_objects (entries : Fields Json) :
    (∀ e ∈ entries, ∃ texts, e.2 = .obj texts) →
    ∃ prompts, Settings.readPrompts entries = .ok prompts ∧
      ((∀ p ∈ prompts, p.2.Valid) ↔
        ∀ e ∈ entries, ∀ texts, e.2 = .obj texts → (PromptOverride.ofFields texts).Valid) := by
  induction entries with
  | nil => exact fun _ => ⟨[], rfl, by simp⟩
  | cons e rest ih =>
    intro hobjects
    obtain ⟨⟨texts, he⟩, hrest⟩ := List.forall_mem_cons.mp hobjects
    obtain ⟨prompts, hread, hvalid⟩ := ih hrest
    obtain ⟨slug, value⟩ := e
    cases he
    refine ⟨(slug, .ofFields texts) :: prompts, ?_, ?_⟩
    · unfold Settings.readPrompts
      rw [PromptOverride.ofJson_obj, hread]
      rfl
    · rw [List.forall_mem_cons, List.forall_mem_cons, hvalid]
      simp

theorem Settings.readPrompts_toJson (prompts : Fields PromptOverride) :
    Settings.readPrompts (prompts.mapValues (·.toJson)) = .ok prompts := by
  induction prompts with
  | nil => rfl
  | cons p rest ih =>
    unfold Fields.mapValues at ih ⊢
    rw [List.map_cons]
    unfold Settings.readPrompts
    rw [PromptOverride.ofJson_toJson, ih]
    rfl

theorem SettingsFlaw.ofPromptText_optionalField {slug name : String} {fields : Fields Json} {v : Json}
    (h : fields.lookup name = (optionalField name v).lookup name) :
    SettingsFlaw.ofPromptText slug fields name = [] ↔ v.isOptionalStr = true := by
  unfold SettingsFlaw.ofPromptText optionalField at *
  rw [h]
  cases v <;> simp [Json.isNull, Json.isStr, Json.isOptionalStr]

theorem SettingsFlaw.ofPrompt_obj {slug : String} {fields : Fields Json} :
    SettingsFlaw.ofPrompt slug (.obj fields) = [] ↔
      SettingsFlaw.ofPromptText slug fields "roleDefinition" = [] ∧
      SettingsFlaw.ofPromptText slug fields "customInstructions" = [] := by
  simp [SettingsFlaw.ofPrompt]

/-- An override without flaws is an object. -/
theorem SettingsFlaw.obj_of_ofPrompt {slug : String} {v : Json}
    (h : SettingsFlaw.ofPrompt slug v = []) : ∃ texts, v = .obj texts := by
  cases v with
  | obj texts => exact ⟨texts, rfl⟩
  | _ => exact absurd h (by simp [SettingsFlaw.ofPrompt])

/-- What is written of an override is without flaws exactly if the override is valid. -/
theorem SettingsFlaw.ofPrompt_toJson {slug : String} {p : PromptOverride} :
    SettingsFlaw.ofPrompt slug p.toJson = [] ↔ p.Valid := by
  have hrole : (optionalField "roleDefinition" p.role ++
      optionalField "customInstructions" p.instructions).lookup "roleDefinition" =
        (optionalField "roleDefinition" p.role).lookup "roleDefinition" := by
    simp [List.lookup_append, lookup_optionalField_ne]
  have hinstructions : (optionalField "roleDefinition" p.role ++
      optionalField "customInstructions" p.instructions).lookup "customInstructions" =
        (optionalField "customInstructions" p.instructions).lookup "customInstructions" := by
    simp [List.lookup_append, lookup_optionalField_ne]
  unfold PromptOverride.toJson
  rw [SettingsFlaw.ofPrompt_obj, SettingsFlaw.ofPromptText_optionalField hrole,
    SettingsFlaw.ofPromptText_optionalField hinstructions]
  exact ⟨fun ⟨h, h'⟩ => ⟨h, h'⟩, fun h => ⟨h.role, h.instructions⟩⟩

/-! ## What it means that a part is without flaws -/

namespace SettingsFlaw

theorem ofMode_eq_nil {field : Option Json} :
    ofMode field = [] ↔ (field.getD Mode.fallbackSlug).isStr = true := by
  cases field with
  | none => exact ⟨fun _ => rfl, fun _ => rfl⟩
  | some v => simp [ofMode]

theorem ofModes_eq_nil {field : Option Json} :
    ofModes field = .ok [] ↔
      ∃ items modes, field.getD (.arr []) = .arr items ∧ Mode.ReadsAll [] items modes := by
  cases field with
  | none => exact ⟨fun _ => ⟨[], [], rfl, Mode.readsAll_nil []⟩, fun _ => rfl⟩
  | some v =>
    cases v with
    | arr items =>
      refine (ofModeItems_eq_nil items).trans ?_
      simp
    | _ => simp [ofModes]

theorem ofPrompts_eq_nil {field : Option Json} :
    ofPrompts field = [] ↔
      ∃ entries, field.getD (.obj []) = .obj entries ∧ ∀ e ∈ entries, ofPrompt e.1 e.2 = [] := by
  cases field with
  | none => exact ⟨fun _ => ⟨[], rfl, by simp⟩, fun _ => rfl⟩
  | some v => cases v <;> simp [ofPrompts]

theorem ofExperiments_eq_nil {field : Option Json} :
    ofExperiments field = [] ↔
      ∃ entries, field.getD (.obj []) = .obj entries ∧ ∀ e ∈ entries, ∃ b, e.2 = .bool b := by
  have hflag : ∀ name v, ofExperiment name v = [] ↔ ∃ b, v = .bool b := by
    intro name v
    cases v <;> simp [ofExperiment]
  cases field with
  | none => exact ⟨fun _ => ⟨[], rfl, by simp⟩, fun _ => rfl⟩
  | some v => cases v <;> simp [ofExperiments, hflag]

end SettingsFlaw

namespace Settings

theorem result_noteUnknown (names : List String) : (noteUnknown names).result = .ok () := by
  induction names with
  | nil => rfl
  | cons name rest ih => simp [noteUnknown, ih]

/-- The warnings of the validator leave what it finds as it is. -/
theorem result_validate (data : Json) : (validate data).result = flaws data := by
  unfold validate
  cases flaws data <;> simp [result_noteUnknown]

theorem flaws_obj_eq_nil {fields : Fields Json} :
    flaws (.obj fields) = .ok [] ↔
      SettingsFlaw.ofVersion (fields.lookup "version") = [] ∧
      SettingsFlaw.ofMode (fields.lookup "mode") = [] ∧
      SettingsFlaw.ofModes (fields.lookup "customModes") = .ok [] ∧
      SettingsFlaw.ofPrompts (fields.lookup "customModePrompts") = [] ∧
      SettingsFlaw.ofExperiments (fields.lookup "experiments") = [] := by
  unfold flaws SettingsFlaw.ofFields
  constructor
  · intro h
    obtain ⟨modeFlaws, hmodes, h⟩ := bind_succeeds.mp h
    have hall := Except.ok.inj h
    simp only [List.append_eq_nil_iff] at hall
    obtain ⟨⟨⟨⟨hversion, hmode⟩, rfl⟩, hprompts⟩, hexperiments⟩ := hall
    exact ⟨hversion, hmode, hmodes, hprompts, hexperiments⟩
  · intro h
    obtain ⟨hversion, hmode, hmodes, hprompts, hexperiments⟩ := h
    refine bind_succeeds.mpr ⟨[], hmodes, ?_⟩
    rw [hversion, hmode, hprompts, hexperiments]
    rfl

/-- What reading an object as settings takes, part by part. -/
theorem ofJson_obj {fields entries flags : Fields Json} {items : List Json} {modes : List Mode}
    {prompts : Fields PromptOverride}
    (hitems : (fields.lookup "customModes").getD (.arr []) = .arr items)
    (hmodes : Mode.ReadsAll [] items modes)
    (hentries : (fields.lookup "customModePrompts").getD (.obj []) = .obj entries)
    (hprompts : readPrompts entries = .ok prompts)
    (hflags : (fields.lookup "experiments").getD (.obj []) = .obj flags) :
    (ofJson (.obj fields)).result = .ok
      { mode := (fields.lookup "mode").getD Mode.fallbackSlug, customModes := modes,
        prompts := prompts, experiments := .ofFields flags } := by
  have hload := Mode.readCustom_eq_ok.mpr hmodes
  unfold ofJson
  simp [Json.fieldD, hitems, hload, hentries, Settings.entries, hprompts, hflags, readFlags]

/-! ## Writing and reading again -/

/-- Settings whose saved form is accepted: the modes are valid and of distinct slugs, the overrides
hold texts or nothing, the flags are truth values. -/
structure Valid (s : Settings) : Prop where
  mode : s.mode.isStr = true
  modes : ∀ m ∈ s.customModes, m.Valid
  slugs : (s.customModes.map (·.slug)).Nodup
  prompts : ∀ p ∈ s.prompts, p.2.Valid
  flags : ∀ f ∈ s.experiments, ∃ b, f.2 = .bool b

/-- The fields of the saved form. -/
def fields (s : Settings) : Fields Json :=
  [("version", .str settingsVersion), ("mode", s.mode),
    ("customModes", .arr (s.customModes.map (·.toJson))),
    ("customModePrompts", .obj (s.prompts.mapValues (·.toJson))),
    ("experiments", .obj s.experiments.toFields)]

variable {s : Settings}

theorem toJson_eq : s.toJson = .obj s.fields := rfl

@[simp] theorem lookup_version : s.fields.lookup "version" = some (.str settingsVersion) := by
  simp [fields]

@[simp] theorem lookup_mode : s.fields.lookup "mode" = some s.mode := by
  simp [fields, List.lookup]

@[simp] theorem lookup_customModes :
    s.fields.lookup "customModes" = some (.arr (s.customModes.map (·.toJson))) := by
  simp [fields, List.lookup]

@[simp] theorem lookup_prompts :
    s.fields.lookup "customModePrompts" = some (.obj (s.prompts.mapValues (·.toJson))) := by
  simp [fields, List.lookup]

@[simp] theorem lookup_experiments :
    s.fields.lookup "experiments" = some (.obj s.experiments.toFields) := by
  simp [fields, List.lookup]

/-- Flags whose names are texts are fields as they are. -/
theorem ofFields_toFields {flags : FlagTable} (h : ∀ f ∈ flags, f.1.isStr = true) :
    FlagTable.ofFields flags.toFields = flags := by
  unfold FlagTable.ofFields FlagTable.toFields
  have hsame : ∀ f ∈ flags, ((fun field => (Json.str field.1, field.2)) ∘
      fun flag => (flag.1.keyText, flag.2)) f = id f := by
    intro flag hf
    obtain ⟨key, value⟩ := flag
    obtain ⟨name, rfl⟩ : ∃ name, key = .str name := Json.exists_str (h _ hf)
    rfl
  rw [List.map_map, List.map_congr_left hsame, List.map_id]

/-- **What is written of settings is read as the same settings**, if the modes in them are valid and
no slug is used twice. -/
theorem ofJson_toJson (hvalid : ∀ m ∈ s.customModes, m.Valid)
    (hdistinct : (s.customModes.map (·.slug)).Nodup)
    (hnames : ∀ f ∈ s.experiments, f.1.isStr = true) : (ofJson s.toJson).result = .ok s := by
  have hread := Mode.readsAll_toJson.mpr ⟨rfl, hvalid, hdistinct⟩
  have hfields := ofJson_obj (by rw [lookup_customModes]; rfl) hread (by rw [lookup_prompts]; rfl)
    (readPrompts_toJson s.prompts) (by rw [lookup_experiments]; rfl)
  rw [lookup_mode, ofFields_toFields hnames] at hfields
  exact hfields

/-- **What is written of settings is without flaws exactly if they are valid.** -/
theorem flaws_toJson : flaws s.toJson = .ok [] ↔ s.Valid := by
  have hprompts : SettingsFlaw.ofPrompts (s.fields.lookup "customModePrompts") = [] ↔
      ∀ p ∈ s.prompts, p.2.Valid := by
    rw [SettingsFlaw.ofPrompts_eq_nil]
    simp [Fields.mapValues, SettingsFlaw.ofPrompt_toJson]
  have hflags : SettingsFlaw.ofExperiments (s.fields.lookup "experiments") = [] ↔
      ∀ f ∈ s.experiments, ∃ b, f.2 = .bool b := by
    rw [SettingsFlaw.ofExperiments_eq_nil, lookup_experiments, FlagTable.toFields]
    simp only [Option.getD_some, Json.obj.injEq, exists_eq_left', List.forall_mem_map]
  have hmodes : SettingsFlaw.ofModes (s.fields.lookup "customModes") = .ok [] ↔
      (∀ m ∈ s.customModes, m.Valid) ∧ (s.customModes.map (·.slug)).Nodup := by
    rw [SettingsFlaw.ofModes_eq_nil]
    simp [Mode.readsAll_toJson]
  rw [toJson_eq, flaws_obj_eq_nil, hprompts, hflags, hmodes, SettingsFlaw.ofMode_eq_nil]
  constructor
  · intro h
    obtain ⟨-, hmode, ⟨hvalid, hslugs⟩, hprompts, hflags⟩ := h
    exact ⟨by simpa using hmode, hvalid, hslugs, hprompts, hflags⟩
  · intro h
    exact ⟨by simp [SettingsFlaw.ofVersion, Json.isStr], by simpa using h.mode, ⟨h.modes, h.slugs⟩,
      h.prompts, h.flags⟩

/-- In the overrides of prompts that data hold, what is read as a role or as instructions is a text
or null, whichever spelling it stands under. -/
def OverridesAreTexts (data : Json) : Prop :=
  ∀ fields entries, data = .obj fields → fields.lookup "customModePrompts" = some (.obj entries) →
    ∀ e ∈ entries, ∀ texts, e.2 = .obj texts →
      (Json.oneOf texts "roleDefinition" "role_definition").isOptionalStr = true ∧
      (Json.oneOf texts "customInstructions" "custom_instructions").isOptionalStr = true

/-- **Data without flaws are read as settings, and what is written of these is read as the same
settings.** It is without flaws itself exactly if the overrides in the data are texts under either
spelling. -/
theorem validated_reads_back {data : Json} (h : (validate data).result = .ok []) :
    ∃ s, (ofJson data).result = .ok s ∧ (ofJson s.toJson).result = .ok s ∧
      ((validate s.toJson).result = .ok [] ↔ OverridesAreTexts data) := by
  rw [result_validate] at h
  cases data with
  | obj fields =>
    obtain ⟨hversion, hmode, hmodes, hprompts, hexperiments⟩ := flaws_obj_eq_nil.mp h
    obtain ⟨items, modes, hitems, hread⟩ := SettingsFlaw.ofModes_eq_nil.mp hmodes
    obtain ⟨entries, hentries, hflawless⟩ := SettingsFlaw.ofPrompts_eq_nil.mp hprompts
    obtain ⟨flags, hflags, hbool⟩ := SettingsFlaw.ofExperiments_eq_nil.mp hexperiments
    obtain ⟨prompts, hoverrides, hvalid⟩ := readPrompts_objects entries fun e he =>
      SettingsFlaw.obj_of_ofPrompt (hflawless e he)
    have hsettings := ofJson_obj hitems hread hentries hoverrides hflags
    refine ⟨_, hsettings, ofJson_toJson hread.valid hread.distinct ?_, ?_⟩
    · intro f hf
      obtain ⟨flag, -, rfl⟩ := List.mem_map.mp hf
      rfl
    · rw [result_validate, flaws_toJson]
      constructor
      · intro hs fields' entries' heq hlookup e he texts hobject
        cases heq
        -- the overrides that the reader went through are those of the data
        rw [hlookup] at hentries
        cases hentries
        have hp := hvalid.mp hs.prompts e he texts hobject
        exact ⟨hp.role, hp.instructions⟩
      · intro htexts
        refine ⟨SettingsFlaw.ofMode_eq_nil.mp hmode, hread.valid, hread.distinct, hvalid.mpr ?_, ?_⟩
        · intro e he texts hobject
          cases hlookup : fields.lookup "customModePrompts" with
          | none =>
            -- without the field there is no override to look at
            rw [hlookup] at hentries
            cases hentries
            exact absurd he List.not_mem_nil
          | some v =>
            rw [hlookup] at hentries
            cases hentries
            obtain ⟨hrole, hinstructions⟩ := htexts fields entries rfl hlookup e he texts hobject
            exact ⟨hrole, hinstructions⟩
        · intro f hf
          obtain ⟨flag, hflag, rfl⟩ := List.mem_map.mp hf
          exact hbool flag hflag
  | _ => exact absurd h (by simp [flaws])

/-- An override whose role is a number, under the second spelling. -/
def numberedOverride : Fields Json := [("code", .obj [("role_definition", .int 5)])]

/-- Data with that override. -/
def numberedRole : Json :=
  .obj [("version", .str "1.0"), ("customModePrompts", .obj numberedOverride)]

/-- The data are without flaws; what is written of the settings read from them is not. -/
theorem numberedRole_written_with_flaw :
    (validate numberedRole).result = .ok [] ∧
    ∃ s, (ofJson numberedRole).result = .ok s ∧ (ofJson s.toJson).result = .ok s ∧
      (validate s.toJson).result ≠ .ok [] := by
  have hvalidate : (validate numberedRole).result = .ok [] := by
    rw [result_validate, numberedRole, flaws_obj_eq_nil]
    simp [List.lookup, numberedOverride, SettingsFlaw.ofVersion, SettingsFlaw.ofMode, SettingsFlaw.ofModes,
      SettingsFlaw.ofPrompts, SettingsFlaw.ofPrompt, SettingsFlaw.ofPromptText,
      SettingsFlaw.ofExperiments, Json.isStr]
  obtain ⟨s, hread, hagain, hiff⟩ := validated_reads_back hvalidate
  refine ⟨hvalidate, s, hread, hagain, fun hs => ?_⟩
  have htexts := hiff.mp hs _ numberedOverride rfl (by simp [List.lookup]) _
    (List.mem_cons_self ..) _ rfl
  exact absurd htexts.1 (by simp [Json.oneOf, List.lookup, Json.isOptionalStr])

end Settings

end ModePolicy
