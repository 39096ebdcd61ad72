import ModePolicy.Mode.Schema
import ModePolicy.Proofs.Json.Schema
import ModePolicy.Proofs.Mode.Grammar

/-!
# The schema of modes and the validator

The data of a mode are described twice: by the checks of the validator, and by a schema for others to
read. Here the schema is turned into what it asks of data (`modeSchema_admits_iff`), keyword by
keyword, to compare the two.

The schema asks more about names and nulls: each field has one name, and what is not set is left out.
Modes are written so (`Mode.Valid.admitted`). It asks less about grants: a group may be granted twice,
a pattern need not be an expression, and what stands under the other name of the pattern is not looked
at. Data that are right in that, too, have `Mode.SoundGrants`.

> `schema_keeps_with_validator`: what is written of a mode that was read from data without flaws is
> admitted by the schema, and data that the schema admits are without flaws if their grants are sound.
-/

namespace ModePolicy

/-! ## The pattern of slugs -/

/-- An expression in which every way is tried matches a whole text exactly if the text lies between
two places that it relates. -/
theorem Regex.matchesWhole_iff {r : Regex} (hgroup : r.body.hasGroup = false)
    (htries : r.body.triesAll = true) {text : String} :
    r.matchesWhole text = true ↔ r.least ≤ text.toList.length ∧
      ∃ before, r.body.Spans r.flags ⟨[], text.toList⟩ ⟨before, []⟩ := by
  have hend : ∀ c d : Cursor, (Pattern.anchor .textEnd).Spans r.flags c d ↔ c.after = [] ∧ d = c := by
    simp [Pattern.Spans, Anchor.holds]
  unfold matchesWhole
  rw [matchAt?_isSome_iff (by simpa [Pattern.hasGroup] using hgroup)
    (by simpa [Pattern.triesAll] using htries)]
  refine and_congr_right fun _ => ⟨fun h => ?_, fun h => ?_⟩
  · obtain ⟨d, ⟨before, after⟩, hspans, hd⟩ := h
    obtain ⟨rfl, -⟩ := (hend _ _).mp hd
    exact ⟨before, hspans⟩
  · obtain ⟨before, hspans⟩ := h
    exact ⟨_, _, hspans, (hend _ _).mpr ⟨rfl, rfl⟩⟩

/-- The expression for slugs. -/
def slugRegex : Regex where
  body := .seq (.anchor .lineStart) (.seq
    (.repeated 1 none .greedy
      (.oneOf false [.range 97 122, .range 65 90, .range 48 57, .code 45]))
    (.anchor .lineEnd))
  least := 1

theorem compile_slugPattern : Pattern.compile slugPattern = .ok slugRegex := by cbv

/-- The class in the expression holds the characters of slugs. -/
theorem slugClass_holds (x : Char) :
    [ClassItem.range 97 122, .range 65 90, .range 48 57, .code 45].any (·.holds {} x.toNat) =
      isSlugChar x := by
  have hrange : ∀ low high : Char, low ≤ x ∧ x ≤ high ↔ low.toNat ≤ x.toNat ∧ x.toNat ≤ high.toNat :=
    fun _ _ => Iff.rfl
  have hhyphen : x = '-' ↔ 45 = x.toNat := Char.toNat_inj.symm.trans eq_comm
  rw [Bool.eq_iff_iff, isSlugChar_iff, hrange, hrange, hrange, hhyphen]
  simp [ClassItem.holds, Flags.variants]

/-- **The pattern of slugs matches the texts of slug characters**, of which there is at least one. -/
theorem matchesWhole_slugRegex_iff {text : String} :
    slugRegex.matchesWhole text = true ↔ 1 ≤ text.length ∧ ∀ x ∈ text.toList, isSlugChar x = true := by
  have hbegin : ∀ c d : Cursor, (Pattern.anchor .lineStart).Spans {} c d ↔ c.before = [] ∧ d = c := by
    simp [Pattern.Spans, Anchor.holds]
  have hclass : ∀ v : List Char, (∀ x ∈ v, ([ClassItem.range 97 122, .range 65 90, .range 48 57,
      .code 45].any (·.holds {} x.toNat) != false) = true) ↔ ∀ x ∈ v, isSlugChar x = true := by
    simp only [slugClass_holds, Bool.bne_false, implies_true]
  rw [Regex.matchesWhole_iff rfl rfl, String.length_toList]
  refine and_congr_right fun hone : 1 ≤ text.length => ⟨fun h => ?_, fun h => ?_⟩
  · obtain ⟨before, c, hc, d, ⟨n, -, hrounds⟩, hd⟩ := h
    obtain ⟨-, rfl⟩ := (hbegin _ _).mp hc
    obtain ⟨-, hstop⟩ := (Pattern.spans_lineEnd rfl).mp hd
    obtain ⟨v, -, hv, hafter, -⟩ := Pattern.rounds_readsOne.mp hrounds
    obtain rfl : text.toList = v := by simpa [← hstop] using hafter
    exact (hclass _).mp hv
  · -- all of the text is read in rounds, one for each character
    have hrounds : Pattern.Rounds (Pattern.ReadsOne fun x => [ClassItem.range 97 122, .range 65 90,
        .range 48 57, .code 45].any (·.holds {} x.toNat) != false) (1 + (text.length - 1))
          ⟨[], text.toList⟩ ⟨text.toList.reverse, []⟩ :=
      Pattern.rounds_readsOne.mpr ⟨text.toList, by rw [String.length_toList]; omega, (hclass _).mpr h,
        by simp, by simp⟩
    exact ⟨_, _, (hbegin _ _).mpr ⟨rfl, rfl⟩, _, ⟨_, by simp, hrounds⟩,
      (Pattern.spans_lineEnd rfl).mpr ⟨Or.inl rfl, rfl⟩⟩

/-! ## What the schema asks -/

/-- A value names a group exactly if the schema of these names admits it. -/
theorem ToolGroup.schema_admits_iff {v : Json} :
    ToolGroup.schema.admits v = true ↔ ∃ g : ToolGroup, v = .str g.name := by
  have hnames : ∀ s : String, s ∈ sortedNames ↔ ∃ g : ToolGroup, s = g.name := by
    intro s
    constructor
    · intro h
      fin_cases h
      exacts [⟨.browser, rfl⟩, ⟨.command, rfl⟩, ⟨.edit, rfl⟩, ⟨.mcp, rfl⟩, ⟨.modes, rfl⟩, ⟨.read, rfl⟩,
        ⟨.review, rfl⟩]
    · rintro ⟨g, rfl⟩
      cases g <;> decide
  rw [schema, Json.admits_schemaOf_iff, Json.hasType_string_iff]
  constructor
  · intro h
    obtain ⟨⟨s, rfl⟩, hchoice⟩ := h
    have hmem : s ∈ sortedNames := by
      simpa [Json.allHold, Json.keywordHolds, Json.ofTexts, Json.items?, Json.same] using hchoice
    obtain ⟨g, rfl⟩ := (hnames s).mp hmem
    exact ⟨g, rfl⟩
  · intro h
    obtain ⟨g, rfl⟩ := h
    have hmem : g.name ∈ sortedNames := (hnames _).mpr ⟨g, rfl⟩
    refine ⟨⟨_, rfl⟩, ?_⟩
    simpa [Json.allHold, Json.keywordHolds, Json.ofTexts, Json.items?, Json.same] using hmem

/-- The options that the schema knows are texts. -/
structure GroupOptions.Described (fields : Fields Json) : Prop where
  pattern : ∀ v, fields.lookup "fileRegex" = some v → ∃ s, v = .str s
  description : ∀ v, fields.lookup "description" = some v → ∃ s, v = .str s

/-- The name of a group, or a list of it and options. -/
inductive GroupEntry.Described : Json → Prop
  | outright (g : ToolGroup) : Described (.str g.name)
  | under (g : ToolGroup) {fields : Fields Json} (h : GroupOptions.Described fields) :
    Described (.arr [.str g.name, .obj fields])

/-- Restricted grants are lists of two, of which the first names a group and the second is an object
of options. -/
theorem restrictedGrantSchema_admits_iff {v : Json} :
    restrictedGrantSchema.admits v = true ↔ ∃ (g : ToolGroup) (fields : Fields Json),
      v = .arr [.str g.name, .obj fields] ∧ GroupOptions.Described fields := by
  rw [restrictedGrantSchema, Json.admits_pair_iff]
  simp only [ToolGroup.schema_admits_iff, Json.admits_object_iff, List.forall_mem_cons,
    Json.admits_text_iff]
  constructor
  · intro h
    obtain ⟨_, _, rfl, ⟨g, rfl⟩, fields, rfl, hpattern, hdescription, -⟩ := h
    exact ⟨g, fields, rfl, hpattern, hdescription⟩
  · intro h
    obtain ⟨g, fields, rfl, h⟩ := h
    exact ⟨_, _, rfl, ⟨g, rfl⟩, fields, rfl, h.pattern, h.description, by simp⟩

/-- An item of the groups is one or the other, and never both. -/
theorem grantSchema_admits_iff {v : Json} :
    (Json.obj [("oneOf", .arr [ToolGroup.schema, restrictedGrantSchema])]).admits v = true ↔
      GroupEntry.Described v := by
  have hone : ToolGroup.schema.admits v = true → restrictedGrantSchema.admits v = false := by
    intro h
    obtain ⟨g, rfl⟩ := ToolGroup.schema_admits_iff.mp h
    refine Bool.eq_false_iff.mpr fun hother => ?_
    obtain ⟨_, _, hlist, -⟩ := restrictedGrantSchema_admits_iff.mp hother
    exact absurd hlist (by simp)
  rw [Json.admits_either_iff hone, ToolGroup.schema_admits_iff, restrictedGrantSchema_admits_iff]
  constructor
  · intro h
    rcases h with ⟨g, rfl⟩ | ⟨g, fields, rfl, h⟩
    · exact .outright g
    · exact .under g h
  · intro h
    cases h with
    | outright g => exact Or.inl ⟨g, rfl⟩
    | under g h => exact Or.inr ⟨g, _, rfl, h⟩

/-- What the schema of a mode asks of the fields of an object. -/
structure Mode.Described (fields : Fields Json) : Prop where
  slug : ∃ s, fields.lookup "slug" = some (.str s) ∧ IsSlug s
  name : ∃ s, fields.lookup "name" = some (.str s) ∧ 1 ≤ s.length ∧ s.length ≤ 100
  role : ∃ s, fields.lookup "roleDefinition" = some (.str s) ∧ s ≠ ""
  instructions : ∀ v, fields.lookup "customInstructions" = some v → ∃ s, v = .str s
  groups : ∃ items, fields.lookup "groups" = some (.arr items) ∧
    ∀ item ∈ items, GroupEntry.Described item
  known : ∀ name ∈ Fields.names fields,
    name ∈ ["slug", "name", "roleDefinition", "customInstructions", "groups"]

/-- The schema of slugs, which bounds their length beside their pattern. -/
theorem slugSchema_admits_iff {v : Json} :
    (Json.schemaOf "string" [("pattern", .str slugPattern), ("minLength", .int 1),
        ("maxLength", .int maxSlugLength)]).admits v = true ↔ ∃ s, v = .str s ∧ IsSlug s := by
  rw [Json.admits_string_iff (by decide)]
  refine exists_congr fun s => and_congr_right fun _ => ?_
  simp only [List.forall_mem_cons, Json.pattern_holds_iff compile_slugPattern, Json.minLength_holds_iff,
    Json.maxLength_holds_iff, matchesWhole_slugRegex_iff, isSlugChar_iff]
  constructor
  · intro h
    obtain ⟨⟨hone, hplain⟩, -, hshort, -⟩ := h
    exact ⟨hone, Int.ofNat_le.mp hshort, hplain⟩
  · intro h
    exact ⟨⟨h.nonempty, h.plain⟩, Int.ofNat_le.mpr h.nonempty, Int.ofNat_le.mpr h.short, by simp⟩

theorem nameSchema_admits_iff {v : Json} :
    (Json.schemaOf "string" [("minLength", .int 1), ("maxLength", .int maxNameLength)]).admits v =
      true ↔ ∃ s, v = .str s ∧ 1 ≤ s.length ∧ s.length ≤ 100 := by
  rw [Json.admits_string_iff (by decide)]
  refine exists_congr fun s => and_congr_right fun _ => ?_
  simp only [List.forall_mem_cons, Json.minLength_holds_iff, Json.maxLength_holds_iff]
  constructor
  · intro h
    obtain ⟨hone, hshort, -⟩ := h
    exact ⟨Int.ofNat_le.mp hone, Int.ofNat_le.mp hshort⟩
  · intro h
    exact ⟨Int.ofNat_le.mpr h.1, Int.ofNat_le.mpr h.2, by simp⟩

theorem roleSchema_admits_iff {v : Json} :
    (Json.schemaOf "string" [("minLength", .int 1)]).admits v = true ↔
      ∃ s, v = .str s ∧ s ≠ "" := by
  rw [Json.admits_string_iff (by decide)]
  refine exists_congr fun s => and_congr_right fun _ => ?_
  simp only [List.forall_mem_cons, Json.minLength_holds_iff, ne_empty_iff_length]
  exact ⟨fun h => Int.ofNat_le.mp h.1, fun h => ⟨Int.ofNat_le.mpr h, by simp⟩⟩

/-- **The schema of a mode admits the objects that it describes**, and nothing else. -/
theorem modeSchema_admits_iff {v : Json} :
    modeSchema.admits v = true ↔ ∃ fields, v = .obj fields ∧ Mode.Described fields := by
  have hrequired : ModeField.all.map (·.text) = ["slug", "name", "roleDefinition", "groups"] := rfl
  rw [modeSchema, hrequired, Json.admits_closed_iff]
  refine exists_congr fun fields => and_congr_right fun _ => ?_
  simp only [List.forall_mem_cons, slugSchema_admits_iff, nameSchema_admits_iff, roleSchema_admits_iff,
    Json.admits_text_iff, Json.admits_list_iff, grantSchema_admits_iff, Option.isSome_iff_exists]
  constructor
  · intro h
    obtain ⟨⟨⟨slug, hslug⟩, ⟨name, hname⟩, ⟨role, hrole⟩, ⟨groups, hgroups⟩, -⟩,
      ⟨hslugs, hnames, hroles, hinstructions, hentries, -⟩, hknown⟩ := h
    obtain ⟨slug, rfl, hslug'⟩ := hslugs slug hslug
    obtain ⟨name, rfl, hname'⟩ := hnames name hname
    obtain ⟨role, rfl, hrole'⟩ := hroles role hrole
    obtain ⟨items, rfl, hitems⟩ := hentries groups hgroups
    exact ⟨⟨slug, hslug, hslug'⟩, ⟨name, hname, hname'⟩, ⟨role, hrole, hrole'⟩, hinstructions,
      ⟨items, hgroups, hitems⟩, hknown⟩
  · intro h
    obtain ⟨slug, hslug, hslug'⟩ := h.slug
    obtain ⟨name, hname, hname'⟩ := h.name
    obtain ⟨role, hrole, hrole'⟩ := h.role
    obtain ⟨items, hgroups, hitems⟩ := h.groups
    refine ⟨⟨⟨_, hslug⟩, ⟨_, hname⟩, ⟨_, hrole⟩, ⟨_, hgroups⟩, by simp⟩, ⟨fun w hw => ?_, fun w hw => ?_,
      fun w hw => ?_, h.instructions, fun w hw => ?_, by simp⟩, h.known⟩
    · exact ⟨slug, Option.some.inj (hw.symm.trans hslug), hslug'⟩
    · exact ⟨name, Option.some.inj (hw.symm.trans hname), hname'⟩
    · exact ⟨role, Option.some.inj (hw.symm.trans hrole), hrole'⟩
    · exact ⟨items, Option.some.inj (hw.symm.trans hgroups), hitems⟩

/-! ## Data that are written and data that are read -/

/-- Texts that are set are described as such; those that are not are left out. -/
theorem lookup_optionalField_isStr {name : String} {v w : Json} (hv : v.isOptionalStr = true)
    (hw : (optionalField name v).lookup name = some w) : ∃ s, w = .str s := by
  rcases Json.isOptionalStr_iff.mp hv with rfl | ⟨s, rfl⟩
  · exact absurd hw (by simp [optionalField, Json.isNull])
  · exact ⟨s, by simpa [optionalField, Json.isNull, eq_comm] using hw⟩

/-- What is written of usable options is described. -/
theorem GroupOptions.Valid.described {o : GroupOptions} (h : o.Valid) :
    GroupOptions.Described (optionalField "fileRegex" o.fileRegex ++
      optionalField "description" o.description) := by
  have hpattern : o.fileRegex.isOptionalStr = true := by
    rcases h.fileRegex with hnull | ⟨s, -, hs, -⟩
    · rw [hnull]; rfl
    · rw [hs]; rfl
  constructor
  · intro v hv
    rw [List.lookup_append, lookup_optionalField_ne (show "fileRegex" ≠ "description" by decide),
      Option.or_none] at hv
    exact lookup_optionalField_isStr hpattern hv
  · intro v hv
    rw [List.lookup_append, lookup_optionalField_ne (by decide), Option.none_or] at hv
    exact lookup_optionalField_isStr h.description hv

theorem GroupEntry.Valid.described {e : GroupEntry} (h : e.Valid) :
    GroupEntry.Described e.toJson := by
  cases e with
  | simple g => exact .outright g
  | restricted g o => exact .under g (h o rfl).described

/-- **What is written of a valid mode is admitted by the schema.** -/
theorem Mode.Valid.admitted {m : Mode} (h : m.Valid) : modeSchema.admits m.toJson = true := by
  refine modeSchema_admits_iff.mpr ⟨_, rfl, ?_⟩
  obtain ⟨slug, hslug, hslug'⟩ := ModeFlaw.ofSlug_eq_nil.mp h.slug
  obtain ⟨name, hname, hname'⟩ := ModeFlaw.ofName_eq_nil.mp h.name
  obtain ⟨role, hrole, hrole'⟩ := ModeFlaw.ofRole_eq_nil.mp h.role
  refine ⟨⟨slug, by simp [hslug], hslug'⟩, ⟨name, by simp [List.lookup, hname], hname'⟩,
    ⟨role, by simp [List.lookup, hrole], hrole'⟩, fun v hv => ?_,
    ⟨m.groups.map (·.toJson), by simp [List.lookup], fun item hitem => ?_⟩, fun field hfield => ?_⟩
  · exact lookup_optionalField_isStr h.instructions (by simpa [List.lookup] using hv)
  · obtain ⟨e, he, rfl⟩ := List.mem_map.mp hitem
    exact (h.entries e he).described
  · rw [Fields.names, List.map_append] at hfield
    rcases List.mem_append.mp hfield with hfield | hfield
    · have hfour : ["slug", "name", "roleDefinition", "groups"] ⊆
          ["slug", "name", "roleDefinition", "customInstructions", "groups"] := by decide
      exact hfour hfield
    · rw [mem_names_optionalField hfield]
      decide

/-- The items of the groups in the data of a mode. -/
def Json.grants : Json → List Json
  | .obj fields => ((fields.lookup "groups").bind (·.items?)).getD []
  | _ => []

/-- The name of the group that an item of the groups grants. -/
def Json.grantedName? : Json → Option String
  | .str name => some name
  | .arr (.str name :: _) => some name
  | _ => none

/-- The grants in the data are right in what the schema leaves open: their patterns stand under the
name that it knows and are expressions, and no group is granted twice. -/
structure Mode.SoundGrants (d : Json) : Prop where
  spelling : ∀ name options, .arr [name, .obj options] ∈ d.grants →
    options.lookup "file_regex" = none
  expressions : ∀ name options source, .arr [name, .obj options] ∈ d.grants →
    options.lookup "fileRegex" = some (.str source) → ∃ r, Pattern.compile source = .ok r
  distinct : (d.grants.filterMap (·.grantedName?)).Nodup

/-- Options that are described, with a pattern that is an expression and under no other name. -/
theorem GroupOptions.Described.document {options : Fields Json} (h : GroupOptions.Described options)
    (hspelling : options.lookup "file_regex" = none)
    (hexpression : ∀ source, options.lookup "fileRegex" = some (.str source) →
      ∃ r, Pattern.compile source = .ok r) : GroupOptions.Document options := by
  refine ⟨fun v hv => ?_, fun v hv => Or.inr (h.description v hv)⟩
  rcases hv with hv | ⟨-, hv⟩
  · obtain ⟨source, rfl⟩ := h.pattern v hv
    obtain ⟨r, hr⟩ := hexpression source hv
    exact Or.inr ⟨source, r, rfl, hr⟩
  · exact absurd (hspelling.symm.trans hv) (by simp)

/-- Items that are described grant the groups that they name. -/
theorem GroupEntry.documents_of_described {items : List Json}
    (hitems : ∀ item ∈ items, GroupEntry.Described item)
    (hoptions : ∀ name options, .arr [name, .obj options] ∈ items →
      GroupOptions.Described options → GroupOptions.Document options) :
    ∃ granted : List ToolGroup, List.Forall₂ GroupEntry.Document items granted ∧
      items.filterMap (·.grantedName?) = granted.map (·.name) := by
  induction items with
  | nil => exact ⟨[], .nil, rfl⟩
  | cons item rest ih =>
    obtain ⟨hitem, hrest⟩ := List.forall_mem_cons.mp hitems
    obtain ⟨granted, heach, hnames⟩ := ih hrest fun name options hmem =>
      hoptions name options (List.mem_cons_of_mem _ hmem)
    cases hitem with
    | outright g =>
      exact ⟨g :: granted, .cons (.outright g) heach, congrArg (g.name :: ·) hnames⟩
    | under g h =>
      have hdocument := hoptions _ _ (List.mem_cons_self ..) h
      exact ⟨g :: granted, .cons (.under g hdocument) heach, congrArg (g.name :: ·) hnames⟩

/-- **What the schema admits is without flaws if its grants are sound.** -/
theorem Mode.flaws_of_admitted {d : Json} (hadmits : modeSchema.admits d = true)
    (hsound : Mode.SoundGrants d) : Mode.flaws d = .ok [] := by
  obtain ⟨fields, rfl, h⟩ := modeSchema_admits_iff.mp hadmits
  obtain ⟨items, hgroups, hitems⟩ := h.groups
  have hgrants : (Json.obj fields).grants = items := by simp [Json.grants, hgroups, Json.items?]
  obtain ⟨granted, heach, hnames⟩ := GroupEntry.documents_of_described hitems
    fun name options hmem hoptions => hoptions.document
      (hsound.spelling name options (hgrants ▸ hmem))
      fun source => hsound.expressions name options source (hgrants ▸ hmem)
  have hdistinct : granted.Nodup := by
    have hnodup := hsound.distinct
    rw [hgrants, hnames] at hnodup
    exact hnodup.of_map
  have hunknown : fields.lookup "custom_instructions" = none := by
    refine List.lookup_eq_none_iff.mpr fun field hfield => ?_
    have hname := h.known field.1 (List.mem_map_of_mem hfield)
    simp only [List.mem_cons, List.not_mem_nil, or_false] at hname
    rcases hname with hname | hname | hname | hname | hname <;> simp [hname]
  refine Mode.flawless_iff_document.mpr ⟨fields, rfl, h.slug, h.name, ?_, fun v hv => ?_,
    ⟨items, granted, hgroups, heach, hdistinct⟩, fun name hname => ?_⟩
  · obtain ⟨role, hrole, hrole'⟩ := h.role
    exact ⟨role, Or.inl hrole, hrole'⟩
  · rcases hv with hv | ⟨-, hv⟩
    · exact Or.inr (h.instructions v hv)
    · exact absurd (hunknown.symm.trans hv) (by simp)
  · have hknown : ["slug", "name", "roleDefinition", "customInstructions", "groups"] ⊆
        knownModeFields := by decide
    exact hknown (h.known name hname)

/-- **The schema and the validator keep together.** What is written of a mode that was read from data
without flaws is admitted by the schema, and data that the schema admits are without flaws if their
grants are sound. -/
theorem schema_keeps_with_validator :
    (∀ d, Mode.flaws d = .ok [] → ∃ m, Mode.ofJson d = .ok m ∧ modeSchema.admits m.toJson = true) ∧
    ∀ d, modeSchema.admits d = true → Mode.SoundGrants d → Mode.flaws d = .ok [] := by
  refine ⟨fun d h => ?_, fun d => Mode.flaws_of_admitted⟩
  obtain ⟨m, hread, hvalid⟩ := Mode.ofJson_of_flaws h
  exact ⟨m, hread, hvalid.admitted⟩

/-- Data under other names than those of the schema, with a null. -/
def helperData : Json := .obj [
  ("slug", .str "helper"),
  ("name", .str "Helper"),
  ("role_definition", .str "You help."),
  ("custom_instructions", .null),
  ("groups", .arr [.str "read", .arr [.str "edit", .obj [("file_regex", .str "\\.md$")]]])]

/-- Data that the schema admits, with an option that it does not know. -/
def helperDocument : Json := .obj [
  ("slug", .str "helper"),
  ("name", .str "Helper"),
  ("roleDefinition", .str "You help."),
  ("groups", .arr [.str "read",
    .arr [.str "edit", .obj [("fileRegex", .str "\\.md$"), ("remark", .int 1)]]])]

/-- The former are without flaws, though the schema does not admit them before they are read and
written; the latter are admitted, and without flaws. -/
theorem helper_conforms :
    Mode.flaws helperData = .ok [] ∧ modeSchema.admits helperData = false ∧
    (∃ m, Mode.ofJson helperData = .ok m ∧ modeSchema.admits m.toJson = true) ∧
    modeSchema.admits helperDocument = true ∧ Mode.SoundGrants helperDocument ∧
    Mode.flaws helperDocument = .ok [] := by
  have hflawless : Mode.flaws helperData = .ok [] := rfl
  have hadmits : modeSchema.admits helperDocument = true := by decide +kernel
  have hgrants : ∀ name options, .arr [name, .obj options] ∈ helperDocument.grants →
      name = .str "edit" ∧ options = [("fileRegex", .str "\\.md$"), ("remark", .int 1)] := by
    intro name options hmem
    simpa [helperDocument, Json.grants, Json.items?, List.lookup] using hmem
  have hsound : Mode.SoundGrants helperDocument := by
    refine ⟨fun name options hmem => ?_, fun name options source hmem hsource => ?_, by decide⟩
    · rw [(hgrants name options hmem).2]
      rfl
    · rw [(hgrants name options hmem).2] at hsource
      obtain rfl : "\\.md$" = source := by simpa using hsource
      exact ⟨_, show Pattern.compile "\\.md$" = .ok _ from rfl⟩
  exact ⟨hflawless, by decide +kernel, schema_keeps_with_validator.1 _ hflawless, hadmits, hsound,
    schema_keeps_with_validator.2 _ hadmits hsound⟩

end ModePolicy
