import ModePolicy.Proofs.Mode.Validity

/-!
# The grammar of the data of a mode

The validator goes through the data of a mode field by field and keeps a list of what is wrong.
Here is what it accepts, said of the data alone, without the reader and without the checks:

> `flawless_iff_document`: data are without flaws exactly if they are an object that `Mode.Document`
> describes.

A document has its slug, name, role and groups and no fields of other names. The role, the
instructions and the pattern of a grant may stand under either of two names, of which the first
counts if both are there, even where it holds null (`Fields.Prefers`). Every item of the groups
grants a group, outright or under options (`GroupEntry.Document`), and no group is granted twice, in
whichever way.
-/

namespace ModePolicy

/-! ## Values under one of two names -/

/-- The object has the value under the first name, or has nothing under the first name and the value
under the second. -/
def Fields.Prefers (fields : Fields Json) (first second : String) (v : Json) : Prop :=
  fields.lookup first = some v ∨ fields.lookup first = none ∧ fields.lookup second = some v

theorem lookup_getD_eq_iff {fields : Fields Json} {name : String} {v : Json} (h : v ≠ .null) :
    (fields.lookup name).getD .null = v ↔ fields.lookup name = some v := by
  cases fields.lookup name with
  | some w => simp
  | none => simpa using Ne.symm h

/-- A value that is not null is the one taken exactly if it is the one preferred. -/
theorem oneOf_eq_iff {fields : Fields Json} {first second : String} {v : Json} (h : v ≠ .null) :
    Json.oneOf fields first second = v ↔ Fields.Prefers fields first second v := by
  unfold Json.oneOf Fields.Prefers
  cases hfirst : fields.lookup first with
  | some w => simp
  | none => simp [lookup_getD_eq_iff h]

/-- What holds of null holds of the value taken exactly if it holds of the value preferred, if there
is one. -/
theorem forall_prefers_iff {fields : Fields Json} {first second : String} {P : Json → Prop}
    (hnull : P .null) :
    (∀ v, Fields.Prefers fields first second v → P v) ↔ P (Json.oneOf fields first second) := by
  unfold Json.oneOf Fields.Prefers
  cases fields.lookup first with
  | some w => simp
  | none =>
    cases fields.lookup second with
    | some w => simp
    | none => simpa using hnull

/-- Null or a text. -/
theorem Json.isOptionalStr_iff {v : Json} :
    v.isOptionalStr = true ↔ v = .null ∨ ∃ s, v = .str s := by
  cases v <;> simp [Json.isOptionalStr]

/-! ## Slugs, names and roles -/

/-- One to fifty characters, each a letter or a digit of ASCII or a hyphen. -/
structure IsSlug (s : String) : Prop where
  nonempty : 1 ≤ s.length
  short : s.length ≤ 50
  plain : ∀ c ∈ s.toList,
    ('a' ≤ c ∧ c ≤ 'z') ∨ ('A' ≤ c ∧ c ≤ 'Z') ∨ ('0' ≤ c ∧ c ≤ '9') ∨ c = '-'

theorem isSlugChar_iff {c : Char} :
    isSlugChar c = true ↔
      ('a' ≤ c ∧ c ≤ 'z') ∨ ('A' ≤ c ∧ c ≤ 'Z') ∨ ('0' ≤ c ∧ c ≤ '9') ∨ c = '-' := by
  simp only [isSlugChar, Char.isAlphanum, Char.isAlpha, Char.isUpper, Char.isLower, Char.isDigit,
    Bool.or_eq_true, Bool.and_eq_true, decide_eq_true_eq, beq_iff_eq, Char.le_def, ge_iff_le]
  tauto

theorem ne_empty_iff_length {s : String} : s ≠ "" ↔ 1 ≤ s.length := by
  rw [Nat.one_le_iff_ne_zero, Ne, Ne, String.length_eq_zero_iff]

theorem ModeFlaw.ofSlug_eq_nil {v : Json} :
    ModeFlaw.ofSlug v = [] ↔ ∃ s, v = .str s ∧ IsSlug s := by
  cases v with
  | str s =>
    have hchecks : ModeFlaw.ofSlug (.str s) = [] ↔
        s ≠ "" ∧ s.length ≤ maxSlugLength ∧ ∀ c ∈ s.toList, isSlugChar c = true := by
      by_cases hempty : s = ""
      · simp [ModeFlaw.ofSlug, hempty]
      by_cases hlong : maxSlugLength < s.length
      · simp [ModeFlaw.ofSlug, hempty, hlong]
      · simp [ModeFlaw.ofSlug, hempty, hlong, Nat.not_lt.mp hlong]
    rw [hchecks, ne_empty_iff_length]
    simp only [isSlugChar_iff, maxSlugLength, Json.str.injEq, exists_eq_left']
    constructor
    · intro h
      obtain ⟨hone, hshort, hplain⟩ := h
      exact ⟨hone, hshort, hplain⟩
    · exact fun h => ⟨h.nonempty, h.short, h.plain⟩
  | _ => simp [ModeFlaw.ofSlug]

theorem ModeFlaw.ofName_eq_nil {v : Json} :
    ModeFlaw.ofName v = [] ↔ ∃ s, v = .str s ∧ 1 ≤ s.length ∧ s.length ≤ 100 := by
  cases v with
  | str s =>
    simp only [Json.str.injEq, exists_eq_left', ← ne_empty_iff_length]
    by_cases hempty : s = ""
    · simp [ModeFlaw.ofName, hempty]
    · by_cases hlong : maxNameLength < s.length <;>
        simp_all [ModeFlaw.ofName, maxNameLength]
  | _ => simp [ModeFlaw.ofName]

theorem ModeFlaw.ofRole_eq_nil {v : Json} :
    ModeFlaw.ofRole v = [] ↔ ∃ s, v = .str s ∧ s ≠ "" := by
  cases v with
  | str s => simp [ModeFlaw.ofRole]
  | _ => simp [ModeFlaw.ofRole]

/-! ## Grants -/

/-- Options under which a group can be granted: a pattern that is an expression and a description
that is a text, each of which may be null or left out. -/
structure GroupOptions.Document (fields : Fields Json) : Prop where
  pattern : ∀ v, Fields.Prefers fields "fileRegex" "file_regex" v →
    v = .null ∨ ∃ s r, v = .str s ∧ Pattern.compile s = .ok r
  description : ∀ v, fields.lookup "description" = some v → v = .null ∨ ∃ s, v = .str s

/-- The data grant a group: its name does so outright, and a list of its name and options under
these. -/
inductive GroupEntry.Document : Json → ToolGroup → Prop
  | outright (g : ToolGroup) : Document (.str g.name) g
  | under (g : ToolGroup) {fields : Fields Json} (h : GroupOptions.Document fields) :
    Document (.arr [.str g.name, .obj fields]) g

theorem GroupOptions.document_iff {fields : Fields Json} :
    GroupOptions.Document fields ↔ (GroupOptions.ofFields fields).Valid := by
  have hpattern : (∀ v, Fields.Prefers fields "fileRegex" "file_regex" v → v.IsPattern) ↔
      (GroupOptions.ofFields fields).fileRegex.IsPattern := forall_prefers_iff (Or.inl rfl)
  have hdescription : (∀ v, fields.lookup "description" = some v → v = .null ∨ ∃ s, v = .str s) ↔
      (GroupOptions.ofFields fields).description.isOptionalStr = true := by
    rw [Json.isOptionalStr_iff]
    unfold GroupOptions.ofFields
    cases fields.lookup "description" <;> simp
  exact ⟨fun h => ⟨hpattern.mp h.pattern, hdescription.mp h.description⟩,
    fun h => ⟨hpattern.mpr h.fileRegex, hdescription.mpr h.description⟩⟩

/-- A value names a group exactly if it is the name of the group. -/
theorem GroupEntry.readGroup_eq_ok {v : Json} {g : ToolGroup} :
    GroupEntry.readGroup v = .ok g ↔ v = .str g.name := by
  constructor
  · intro h
    unfold GroupEntry.readGroup at h
    split at h
    · next found hfound =>
      obtain rfl := Except.ok.inj h
      cases v with
      | str s =>
        have hname : (found.name == s) = true := by
          simpa using List.find?_some (show ToolGroup.ofName? s = some found from hfound)
        rw [beq_iff_eq.mp hname]
      | _ => exact absurd hfound (by simp [ToolGroup.ofJson?])
    · exact absurd h (by simp)
  · intro h
    simp [h, GroupEntry.readGroup, ToolGroup.ofJson?, ToolGroup.ofName_name]

/-- What is read as an entry, and the entry it is read as. -/
theorem GroupEntry.ofJson_eq_ok {item : Json} {e : GroupEntry} :
    GroupEntry.ofJson item = .ok e ↔
      (∃ g : ToolGroup, item = .str g.name ∧ e = .simple g) ∨
        ∃ (g : ToolGroup) (fields : Fields Json), item = .arr [.str g.name, .obj fields] ∧
          e = .restricted g (.ofFields fields) := by
  constructor
  · intro h
    unfold GroupEntry.ofJson at h
    split at h
    · next s =>
      obtain ⟨g, hg, he⟩ := bind_succeeds.mp h
      exact Or.inl ⟨g, readGroup_eq_ok.mp hg, (Except.ok.inj he).symm⟩
    · next name options =>
      obtain ⟨g, hg, he⟩ := bind_succeeds.mp h
      cases options with
      | obj fields =>
        rw [readGroup_eq_ok.mp hg]
        exact Or.inr ⟨g, fields, rfl, (Except.ok.inj he).symm⟩
      | _ => exact absurd he (by simp [throw, throwThe, MonadExceptOf.throw])
    · exact absurd h (by simp)
  · intro h
    rcases h with ⟨g, rfl, rfl⟩ | ⟨g, fields, rfl, rfl⟩
    · exact bind_succeeds.mpr ⟨g, readGroup_eq_ok.mpr rfl, rfl⟩
    · exact bind_succeeds.mpr ⟨g, readGroup_eq_ok.mpr rfl, rfl⟩

/-- Data grant a group exactly if they are read as a valid entry of it. -/
theorem GroupEntry.document_iff {item : Json} {g : ToolGroup} :
    GroupEntry.Document item g ↔
      ∃ e, GroupEntry.ofJson item = .ok e ∧ e.Valid ∧ e.group = g := by
  constructor
  · intro h
    cases h with
    | outright =>
      refine ⟨.simple g, ofJson_eq_ok.mpr (Or.inl ⟨g, rfl, rfl⟩), fun o ho => ?_, rfl⟩
      exact absurd ho (by simp [options?])
    | @under _ fields hoptions =>
      refine ⟨.restricted g (.ofFields fields), ofJson_eq_ok.mpr (Or.inr ⟨g, fields, rfl, rfl⟩),
        fun o ho => ?_, rfl⟩
      obtain rfl := Option.some.inj ho
      exact GroupOptions.document_iff.mp hoptions
  · intro h
    obtain ⟨e, he, hvalid, rfl⟩ := h
    rcases ofJson_eq_ok.mp he with ⟨g, rfl, rfl⟩ | ⟨g, fields, rfl, rfl⟩
    · exact .outright g
    · exact .under g (GroupOptions.document_iff.mpr (hvalid _ rfl))

/-- Items grant groups exactly if they are read as valid entries of these groups, item by item. -/
theorem GroupEntry.documents_iff {items : List Json} : ∀ {granted : List ToolGroup},
    List.Forall₂ GroupEntry.Document items granted ↔
      ∃ entries, GroupEntry.ofItems items = .ok entries ∧ (∀ e ∈ entries, e.Valid) ∧
        entries.map (·.group) = granted := by
  induction items with
  | nil =>
    intro granted
    rw [List.forall₂_nil_left_iff]
    constructor
    · rintro rfl
      exact ⟨[], rfl, by simp, rfl⟩
    · rintro ⟨entries, hread, -, rfl⟩
      obtain rfl := Except.ok.inj hread
      rfl
  | cons item rest ih =>
    intro granted
    rw [List.forall₂_cons_left_iff]
    constructor
    · rintro ⟨g, granted, hitem, hrest, rfl⟩
      obtain ⟨e, he, hthis, rfl⟩ := document_iff.mp hitem
      obtain ⟨es, hes, hothers, rfl⟩ := ih.mp hrest
      exact ⟨e :: es, ofItems_cons.mpr ⟨e, es, he, hes, rfl⟩,
        List.forall_mem_cons.mpr ⟨hthis, hothers⟩, rfl⟩
    · rintro ⟨entries, hread, hvalid, rfl⟩
      obtain ⟨e, es, he, hes, rfl⟩ := ofItems_cons.mp hread
      obtain ⟨hthis, hothers⟩ := List.forall_mem_cons.mp hvalid
      exact ⟨e.group, es.map (·.group), document_iff.mpr ⟨e, he, hthis, rfl⟩,
        ih.mpr ⟨es, hes, hothers, rfl⟩, rfl⟩

theorem ModeFlaw.ofGroups_eq_nil_iff {v : Json} :
    ModeFlaw.ofGroups v = .ok [] ↔
      ∃ items granted, v = .arr items ∧ List.Forall₂ GroupEntry.Document items granted ∧
        granted.Nodup := by
  rw [ModeFlaw.ofGroups_eq_nil]
  refine exists_congr fun items => ?_
  rw [ModeFlaw.ofEntries_eq_nil]
  constructor
  · rintro ⟨rfl, entries, hread, hvalid, hdistinct, -⟩
    exact ⟨_, rfl, GroupEntry.documents_iff.mpr ⟨entries, hread, hvalid, rfl⟩, hdistinct⟩
  · rintro ⟨granted, rfl, heach, hdistinct⟩
    obtain ⟨entries, hread, hvalid, rfl⟩ := GroupEntry.documents_iff.mp heach
    exact ⟨rfl, entries, hread, hvalid, hdistinct, by simp⟩

/-! ## Modes -/

/-- The data of a mode, as the fields of an object. -/
structure Mode.Document (fields : Fields Json) : Prop where
  slug : ∃ s, fields.lookup "slug" = some (.str s) ∧ IsSlug s
  name : ∃ s, fields.lookup "name" = some (.str s) ∧ 1 ≤ s.length ∧ s.length ≤ 100
  role : ∃ s, Fields.Prefers fields "roleDefinition" "role_definition" (.str s) ∧ s ≠ ""
  instructions : ∀ v, Fields.Prefers fields "customInstructions" "custom_instructions" v →
    v = .null ∨ ∃ s, v = .str s
  groups : ∃ items granted, fields.lookup "groups" = some (.arr items) ∧
    List.Forall₂ GroupEntry.Document items granted ∧ granted.Nodup
  known : ∀ name ∈ Fields.names fields, name ∈ ["slug", "name", "roleDefinition", "role_definition",
    "groups", "customInstructions", "custom_instructions"]

/-- A document lacks no required field. -/
theorem Mode.Document.lackingIn {fields : Fields Json} (h : Mode.Document fields) :
    ModeField.lackingIn fields = [] := by
  obtain ⟨slug, hslug, -⟩ := h.slug
  obtain ⟨name, hname, -⟩ := h.name
  obtain ⟨items, granted, hgroups, -⟩ := h.groups
  obtain ⟨role, hrole, -⟩ := h.role
  have hfound : (fields.lookup "roleDefinition").isSome = true ∨
      (fields.lookup "role_definition").isSome = true := by
    rcases hrole with hfirst | ⟨-, hsecond⟩
    · exact Or.inl (by rw [hfirst]; rfl)
    · exact Or.inr (by rw [hsecond]; rfl)
  rcases hfound with hfound | hfound <;>
    simp [ModeField.lackingIn, ModeField.all, ModeField.keys, hslug, hname, hgroups, hfound]

/-- The checks of the single fields find nothing exactly in a document. -/
theorem Mode.document_iff {fields : Fields Json} :
    Mode.Document fields ↔ ModeFlaw.ofFields fields = .ok [] := by
  have hslug : (∃ s, fields.lookup "slug" = some (.str s) ∧ IsSlug s) ↔
      ModeFlaw.ofSlug ((fields.lookup "slug").getD .null) = [] := by
    simp [ModeFlaw.ofSlug_eq_nil, lookup_getD_eq_iff]
  have hname : (∃ s, fields.lookup "name" = some (.str s) ∧ 1 ≤ s.length ∧ s.length ≤ 100) ↔
      ModeFlaw.ofName ((fields.lookup "name").getD .null) = [] := by
    simp [ModeFlaw.ofName_eq_nil, lookup_getD_eq_iff]
  have hrole : (∃ s, Fields.Prefers fields "roleDefinition" "role_definition" (.str s) ∧ s ≠ "") ↔
      ModeFlaw.ofRole (Json.oneOf fields "roleDefinition" "role_definition") = [] := by
    simp [ModeFlaw.ofRole_eq_nil, oneOf_eq_iff]
  have hinstructions : (∀ v, Fields.Prefers fields "customInstructions" "custom_instructions" v →
        v = .null ∨ ∃ s, v = .str s) ↔
      ModeFlaw.ofInstructions (Json.oneOf fields "customInstructions" "custom_instructions") = [] := by
    rw [ModeFlaw.ofInstructions_eq_nil, Json.isOptionalStr_iff]
    exact forall_prefers_iff (Or.inl rfl)
  have hgroups : (∃ items granted, fields.lookup "groups" = some (.arr items) ∧
        List.Forall₂ GroupEntry.Document items granted ∧ granted.Nodup) ↔
      ModeFlaw.ofGroups ((fields.lookup "groups").getD .null) = .ok [] := by
    simp [ModeFlaw.ofGroups_eq_nil_iff, lookup_getD_eq_iff]
  rw [ModeFlaw.ofFields_eq_nil, ← hslug, ← hname, ← hrole, ← hinstructions, ← hgroups,
    ModeFlaw.ofNames_eq_nil]
  exact ⟨fun h => ⟨h.groups, h.slug, h.name, h.role, h.instructions, h.known⟩,
    fun ⟨hgroups, hslug, hname, hrole, hinstructions, hknown⟩ =>
      ⟨hslug, hname, hrole, hinstructions, hgroups, hknown⟩⟩

/-- **Data are without flaws exactly if they are an object that is the document of a mode.** -/
theorem Mode.flawless_iff_document {data : Json} :
    Mode.flaws data = .ok [] ↔ ∃ fields, data = .obj fields ∧ Mode.Document fields := by
  constructor
  · intro h
    cases data with
    | obj fields => exact ⟨fields, rfl, document_iff.mpr (flaws_obj_eq_nil.mp h).2⟩
    | _ => exact absurd h (by simp [flaws])
  · intro h
    obtain ⟨fields, rfl, h⟩ := h
    exact flaws_obj_eq_nil.mpr ⟨h.lackingIn, document_iff.mp h⟩

/-- The first of two names counts even if it holds null. -/
example : Mode.flaws (.obj [("slug", .str "docs"), ("name", .str "Docs"), ("roleDefinition", .null),
    ("role_definition", .str "You write."), ("groups", .arr [.str "read"])]) =
      .ok [.roleNotText] := rfl

end ModePolicy
