import ModePolicy.Proofs.Json.RoundTrip
import ModePolicy.Proofs.Settings.NormalForm

/-!
# Saving settings and reading them again

> `Settings.ofText_saved`: the text that settings are saved as is read as the same settings.

It is put together from three facts. The data of settings are made of texts, truth values and null,
and name no field twice (`Settings.toJson_textual`), so their text is read back as these data
(`Json.parse_pretty`). The validator has nothing against them (`Settings.flaws_toJson`). And they are
read as the settings they were made from (`Settings.ofJson_toJson`). The order of modes, overrides
and flags is part of the settings and stays.
-/

namespace ModePolicy

/-! ## Data without numbers -/

namespace Json

theorem textualFields_append {xs ys : List (String × Json)} (hxs : TextualFields xs)
    (hys : TextualFields ys) : TextualFields (xs ++ ys) := by
  induction xs with
  | nil => exact hys
  | cons x xs ih => exact ⟨hxs.1, ih hxs.2⟩

theorem textualFields_of_forall {fields : List (String × Json)} (h : ∀ f ∈ fields, f.2.Textual) :
    TextualFields fields := by
  induction fields with
  | nil => trivial
  | cons f fields ih =>
    obtain ⟨hf, hfields⟩ := List.forall_mem_cons.mp h
    exact ⟨hf, ih hfields⟩

theorem textualItems_of_forall {items : List Json} (h : ∀ x ∈ items, x.Textual) :
    TextualItems items := by
  induction items with
  | nil => trivial
  | cons x items ih =>
    obtain ⟨hx, hitems⟩ := List.forall_mem_cons.mp h
    exact ⟨hx, ih hitems⟩

theorem textual_of_isStr {v : Json} (h : v.isStr = true) : v.Textual := by
  obtain ⟨s, rfl⟩ := exists_str h
  trivial

theorem textual_of_isOptionalStr {v : Json} (h : v.isOptionalStr = true) : v.Textual := by
  rcases isOptionalStr_cases h with rfl | ⟨s, rfl⟩ <;> trivial

end Json

theorem textualFields_optionalField (name : String) {v : Json} (h : v.isOptionalStr = true) :
    Json.TextualFields (optionalField name v) := by
  unfold optionalField
  split
  · trivial
  · exact ⟨Json.textual_of_isOptionalStr h, trivial⟩

/-- A field that may be left out repeats no name, if its own is not used before it. -/
theorem names_nodup_optionalField {fields : Fields Json} {name : String} (v : Json)
    (hfields : (Fields.names fields).Nodup) (hname : name ∉ Fields.names fields) :
    (Fields.names (fields ++ optionalField name v)).Nodup := by
  unfold Fields.names at *
  rw [List.map_append, List.nodup_append]
  refine ⟨hfields, ?_, fun a ha b hb hab => ?_⟩
  · unfold optionalField
    split <;> simp
  · exact hname (mem_names_optionalField hb ▸ hab ▸ ha)

/-- An object of two fields that may be left out. -/
theorem textual_optionalFields {first second : String} {v w : Json} (hne : second ≠ first)
    (hv : v.isOptionalStr = true) (hw : w.isOptionalStr = true) :
    (Json.obj (optionalField first v ++ optionalField second w)).Textual := by
  have hfirst : (Fields.names (optionalField first v)).Nodup :=
    @names_nodup_optionalField [] first v List.nodup_nil List.not_mem_nil
  have hsecond : second ∉ Fields.names (optionalField first v) := fun hmem =>
    hne (mem_names_optionalField hmem)
  exact ⟨names_nodup_optionalField w hfirst hsecond, Json.textualFields_append
    (textualFields_optionalField first hv) (textualFields_optionalField second hw)⟩

theorem PromptOverride.toJson_textual {p : PromptOverride} (h : p.Valid) : p.toJson.Textual :=
  textual_optionalFields (by decide) h.role h.instructions

theorem GroupEntry.toJson_textual {e : GroupEntry} (h : e.Valid) : e.toJson.Textual := by
  cases e with
  | simple g => trivial
  | restricted g o =>
    have hvalid := h o rfl
    have hregex : o.fileRegex.isOptionalStr = true := by
      rcases hvalid.fileRegex with hnull | ⟨s, r, hs, -⟩
      · rw [hnull]; rfl
      · rw [hs]; rfl
    exact ⟨trivial, textual_optionalFields (by decide) hregex hvalid.description, trivial⟩

theorem Mode.toJson_textual {m : Mode} (h : m.Valid) : m.toJson.Textual := by
  have hgroups : (Json.arr (m.groups.map (·.toJson))).Textual :=
    Json.textualItems_of_forall (List.forall_mem_map.mpr fun e he =>
      GroupEntry.toJson_textual (h.entries e he))
  constructor
  · have hfour : ["slug", "name", "roleDefinition", "groups"].Nodup := by decide
    have hnew : "customInstructions" ∉ ["slug", "name", "roleDefinition", "groups"] := by decide
    exact names_nodup_optionalField m.instructions hfour hnew
  · exact Json.textualFields_append
      ⟨Json.textual_of_isStr h.slug_isStr, Json.textual_of_isStr h.name_isStr,
        Json.textual_of_isStr h.role_isStr, hgroups, trivial⟩
      (textualFields_optionalField _ h.instructions)

/-! ## Settings -/

namespace Settings

/-- Settings that can be saved. The current mode may be any text, and so may the slugs of overrides
and the names of experiments; none of these is used twice. The validator has nothing against the
custom modes, whose slugs are distinct; an override holds texts or nothing; a flag is a truth value. -/
structure Exportable (s : Settings) : Prop where
  mode : s.mode.isStr = true
  modes : ∀ m ∈ s.customModes, Mode.flaws m.toJson = .ok []
  slugs : (s.customModes.map (·.slug)).Nodup
  promptSlugs : (Fields.names s.prompts).Nodup
  prompts : ∀ p ∈ s.prompts, p.2.role.isOptionalStr = true ∧ p.2.instructions.isOptionalStr = true
  flagNames : ∀ f ∈ s.experiments, f.1.isStr = true
  flagsOnce : (s.experiments.map (·.1)).Nodup
  flags : ∀ f ∈ s.experiments, ∃ b, f.2 = .bool b

variable {s : Settings}

theorem Exportable.valid (h : s.Exportable) : s.Valid :=
  ⟨h.mode, fun m hm => Mode.flaws_toJson.mp (h.modes m hm), h.slugs,
    fun p hp => ⟨(h.prompts p hp).1, (h.prompts p hp).2⟩, h.flags⟩

/-- The data of such settings hold no numbers and repeat no names. -/
theorem toJson_textual (h : s.Exportable) : s.toJson.Textual := by
  have hvalid := h.valid
  have hmodes : (Json.arr (s.customModes.map (·.toJson))).Textual :=
    Json.textualItems_of_forall (List.forall_mem_map.mpr fun m hm =>
      Mode.toJson_textual (hvalid.modes m hm))
  have hprompts : (Json.obj (s.prompts.mapValues (·.toJson))).Textual := by
    constructor
    · have hnames : Fields.names (s.prompts.mapValues (·.toJson)) = Fields.names s.prompts := by
        simp [Fields.names, Fields.mapValues]
      rw [hnames]
      exact h.promptSlugs
    · exact Json.textualFields_of_forall (List.forall_mem_map.mpr fun p hp =>
        PromptOverride.toJson_textual (hvalid.prompts p hp))
  have hflags : (Json.obj s.experiments.toFields).Textual := by
    constructor
    · have hnames : Fields.names s.experiments.toFields =
          (s.experiments.map (·.1)).map Json.keyText := by
        simp [Fields.names, FlagTable.toFields]
      rw [hnames]
      refine h.flagsOnce.map_on fun x hx y hy hxy => ?_
      obtain ⟨f, hf, rfl⟩ := List.mem_map.mp hx
      obtain ⟨g, hg, rfl⟩ := List.mem_map.mp hy
      obtain ⟨t, ht⟩ := Json.exists_str (h.flagNames f hf)
      obtain ⟨u, hu⟩ := Json.exists_str (h.flagNames g hg)
      rw [ht, hu] at hxy ⊢
      exact congrArg Json.str hxy
    · refine Json.textualFields_of_forall (List.forall_mem_map.mpr fun f hf => ?_)
      obtain ⟨b, hb⟩ := h.flags f hf
      rw [hb]
      trivial
  refine ⟨?_, trivial, Json.textual_of_isStr h.mode, hmodes, hprompts, hflags, trivial⟩
  show ["version", "mode", "customModes", "customModePrompts", "experiments"].Nodup
  decide

/-- **Settings are read back as they were saved.** -/
theorem ofText_saved (h : s.Exportable) : (ofText s.saved).result = .ok s := by
  have hvalid := h.valid
  have hparse : parseText s.saved = .ok s.toJson := by
    unfold parseText saved
    rw [Json.parse_pretty s.toJson (toJson_textual h)]
  have hvalidate : (validate s.toJson).result = .ok [] := by
    rw [result_validate]
    exact flaws_toJson.mpr hvalid
  have hread := ofJson_toJson hvalid.modes hvalid.slugs h.flagNames
  unfold ofText
  simp [hparse, hvalidate, hread]

/-- A mode that may edit Markdown files, with texts that have to be escaped. -/
def quotedDocs : Mode :=
  { slug := .str "docs", name := .str "Docs \x22\\\x22", role := .str "Räume\n\t\x01 auf.",
    groups := [.simple .read, .restricted .edit { fileRegex := .str "\\.md$" }] }

/-- Settings with that mode, an override that is empty and one that is not set, and flags. -/
def quotedSettings : Settings :=
  { mode := .str "",
    customModes := [quotedDocs],
    prompts := [("docs", { role := .str "" }), ("", {})],
    experiments := [(.str "search_and_replace", .bool true), (.str "\x7f", .bool false)] }

theorem quotedDocs_valid : quotedDocs.Valid := by
  have hregex : Json.IsPattern (.str "\\.md$") :=
    Or.inr ⟨_, ⟨.seq (.code 46) (.seq (.code 109) (.seq (.code 100) (.anchor .lineEnd))), {}, 3⟩,
      rfl, rfl⟩
  refine ⟨rfl, rfl, rfl, rfl, fun e he o ho => ?_, by decide⟩
  rcases List.mem_cons.mp he with rfl | he
  · exact absurd ho (by simp [GroupEntry.options?])
  · rw [List.mem_singleton.mp he] at ho
    cases ho
    exact ⟨hregex, rfl⟩

/-- Escapes, texts that are empty and texts that are not set are all read back. -/
theorem quotedSettings_read_back :
    quotedSettings.Exportable ∧ (ofText quotedSettings.saved).result = .ok quotedSettings := by
  have h : quotedSettings.Exportable := by
    refine ⟨rfl, ?_, ?_, by decide, ?_, ?_, ?_, ?_⟩
    · simpa [quotedSettings] using Mode.flaws_toJson.mpr quotedDocs_valid
    · simp [quotedSettings]
    · simp [quotedSettings, Json.isOptionalStr]
    · simp [quotedSettings, Json.isStr]
    · simp [quotedSettings]
    · simp [quotedSettings]
  exact ⟨h, ofText_saved h⟩

end Settings

end ModePolicy
