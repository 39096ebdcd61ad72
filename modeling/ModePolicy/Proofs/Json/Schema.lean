import ModePolicy.Mode.Schema
import ModePolicy.Pattern.Parser
import ModePolicy.Proofs.Json.Values
import ModePolicy.Proofs.Pattern.Meaning

/-!
# What a schema admits

A schema in the vocabulary of JSON Schema is itself a value: an object of keywords, each of which asks
something of the values of some kind and nothing of others, or a truth value, which admits everything
or nothing. Here such a value is read as the set of the values that it admits (`Json.admits`). The
keywords are those for types, texts, lists and objects; keywords of other names are remarks.

Most keywords look at their argument and at the value only (`Json.keywordHolds`). The others have
schemas in their arguments, and two of these also depend on the keywords beside them: `items` is about
the items that `prefixItems` leaves over, and `additionalProperties` about the fields that `properties`
does not name. A pattern must match the whole of a text.
-/

namespace ModePolicy

/-- The expression matches the whole text. -/
def Regex.matchesWhole (r : Regex) (text : String) : Bool :=
  ({ r with body := .seq r.body (.anchor .textEnd) }.matchAt? ⟨[], text.toList⟩).isSome

namespace Json

/-- The value has the type of this name. -/
def hasType (type : String) : Json → Bool
  | .null => type == "null"
  | .bool _ => type == "boolean"
  | .int _ => type == "integer" || type == "number"
  | .float _ => type == "number"
  | .str _ => type == "string"
  | .arr _ => type == "array"
  | .obj _ => type == "object"

/-- The items of a list. -/
def items? : Json → Option (List Json)
  | .arr items => some items
  | _ => none

/-- The fields of an object. -/
def fields? : Json → Option (Fields Json)
  | .obj fields => some fields
  | _ => none

/-- The value is as a keyword asks that has no schemas in its argument. -/
def keywordHolds (keyword : String) (argument v : Json) : Bool :=
  match keyword with
  | "type" => argument.str?.any v.hasType
  | "enum" => argument.items?.any fun choices => choices.any (v.same ·)
  | "pattern" => v.str?.all fun s => argument.str?.any fun source =>
    (Pattern.compile source).toOption.any (·.matchesWhole s)
  | "minLength" => v.str?.all fun s => argument.int?.any (· ≤ s.length)
  | "maxLength" => v.str?.all fun s => argument.int?.any (s.length ≤ ·)
  | "minItems" => v.items?.all fun items => argument.int?.any (· ≤ items.length)
  | "maxItems" => v.items?.all fun items => argument.int?.any (items.length ≤ ·)
  | "required" => v.fields?.all fun fields => argument.items?.any fun names =>
    names.all fun name => name.str?.any fun name => (fields.lookup name).isSome
  | _ => true

/-- The names that `properties` has a schema for, among the keywords of a schema. -/
def propertyNames (keywords : Fields Json) : List String :=
  ((keywords.lookup "properties").bind (·.fields?)).elim [] Fields.names

/-- The number of items that `prefixItems` has schemas for, among the keywords of a schema. -/
def prefixLength (keywords : Fields Json) : Nat :=
  ((keywords.lookup "prefixItems").bind (·.items?)).elim 0 List.length

mutual

/-- The schema admits the value. -/
def admits : Json → Json → Bool
  | .bool b, _ => b
  | .obj keywords, v => allHold keywords keywords v
  | _, _ => false
termination_by structural schema => schema

/-- The value is as the keywords ask, which stand beside others. -/
def allHold (beside : Fields Json) : Fields Json → Json → Bool
  | [], _ => true
  | (keyword, argument) :: rest, v =>
    keywordHolds keyword argument v &&
    (match keyword with
      | "properties" => v.fields?.all (propertiesAdmit argument ·)
      | "additionalProperties" => v.fields?.all fun fields =>
        fields.all fun field => (propertyNames beside).contains field.1 || admits argument field.2
      | "prefixItems" => v.items?.all (prefixAdmits argument ·)
      | "items" => v.items?.all fun items =>
        (items.drop (prefixLength beside)).all (admits argument ·)
      | "oneOf" => admittedBy argument v == 1
      | _ => true) &&
    allHold beside rest v
termination_by structural keywords => keywords

/-- Each property that is there is admitted by the schema of its name. -/
def propertiesAdmit : Json → Fields Json → Bool
  | .obj schemas, fields => eachProperty schemas fields
  | _, _ => false
termination_by structural schemas => schemas

/-- The properties of these names are. -/
def eachProperty : Fields Json → Fields Json → Bool
  | [], _ => true
  | (name, schema) :: rest, fields =>
    (fields.lookup name).all (admits schema ·) && eachProperty rest fields
termination_by structural schemas => schemas

/-- Each of the first items is admitted by the schema of its place. -/
def prefixAdmits : Json → List Json → Bool
  | .arr schemas, items => eachItem schemas items
  | _, _ => false
termination_by structural schemas => schemas

/-- The items of these places are. -/
def eachItem : List Json → List Json → Bool
  | schema :: rest, item :: items => admits schema item && eachItem rest items
  | _, _ => true
termination_by structural schemas => schemas

/-- The number of the schemas that admit the value. -/
def admittedBy : Json → Json → Nat
  | .arr schemas, v => countAdmitting schemas v
  | _, _ => 0
termination_by structural schemas => schemas

/-- The number of these that do. -/
def countAdmitting : List Json → Json → Nat
  | [], _ => 0
  | schema :: rest, v => (if admits schema v then 1 else 0) + countAdmitting rest v
termination_by structural schemas => schemas

end

/-! ## What the keywords ask -/

-- below, a schema with given keywords is opened down to what each of them asks
attribute [local simp] keywordHolds admits allHold propertiesAdmit eachProperty prefixAdmits eachItem
  admittedBy countAdmitting

theorem hasType_string_iff {v : Json} : v.hasType "string" = true ↔ ∃ s, v = .str s := by
  cases v <;> simp [hasType]

theorem hasType_array_iff {v : Json} : v.hasType "array" = true ↔ ∃ items, v = .arr items := by
  cases v <;> simp [hasType]

theorem hasType_object_iff {v : Json} : v.hasType "object" = true ↔ ∃ fields, v = .obj fields := by
  cases v <;> simp [hasType]

/-- A schema for values of a type admits those that are as the other keywords ask. -/
theorem admits_schemaOf_iff {type : String} {keywords : Fields Json} {v : Json} :
    (schemaOf type keywords).admits v = true ↔
      v.hasType type = true ∧ allHold (("type", .str type) :: keywords) keywords v = true := by
  simp [schemaOf, str?]

theorem eachProperty_iff {schemas fields : Fields Json} :
    eachProperty schemas fields = true ↔
      ∀ property ∈ schemas, ∀ v, fields.lookup property.1 = some v → property.2.admits v = true := by
  induction schemas with
  | nil => simp
  | cons property rest ih =>
    rw [List.forall_mem_cons, ← ih, eachProperty, Bool.and_eq_true, Option.all_eq_true]

/-- Of the keywords with schemas in their arguments, only `oneOf` asks something of texts. -/
theorem allHold_str_iff {beside keywords : Fields Json} {s : String}
    (h : "oneOf" ∉ Fields.names keywords) :
    allHold beside keywords (.str s) = true ↔
      ∀ keyword ∈ keywords, keywordHolds keyword.1 keyword.2 (.str s) = true := by
  induction keywords with
  | nil => simp
  | cons keyword rest ih =>
    obtain ⟨name, argument⟩ := keyword
    obtain ⟨hname, hrest⟩ : name ≠ "oneOf" ∧ "oneOf" ∉ Fields.names rest := by
      simpa [Fields.names, eq_comm] using h
    unfold allHold
    rw [List.forall_mem_cons, ← ih hrest, Bool.and_eq_true, Bool.and_eq_true, and_assoc]
    refine and_congr_right fun _ => and_iff_right ?_
    -- a text has neither fields nor items
    split <;> first | rfl | exact absurd rfl hname

/-- Texts that are as the other keywords ask. -/
theorem admits_string_iff {keywords : Fields Json} {v : Json}
    (h : "oneOf" ∉ Fields.names keywords) :
    (schemaOf "string" keywords).admits v = true ↔ ∃ s, v = .str s ∧
      ∀ keyword ∈ keywords, keywordHolds keyword.1 keyword.2 (.str s) = true := by
  rw [admits_schemaOf_iff, hasType_string_iff]
  constructor
  · intro hv
    obtain ⟨⟨s, rfl⟩, hv⟩ := hv
    exact ⟨s, rfl, (allHold_str_iff h).mp hv⟩
  · intro hv
    obtain ⟨s, rfl, hv⟩ := hv
    exact ⟨⟨s, rfl⟩, (allHold_str_iff h).mpr hv⟩

/-- Texts of any kind. -/
theorem admits_text_iff {v : Json} : (schemaOf "string" []).admits v = true ↔ ∃ s, v = .str s := by
  rw [admits_string_iff (by simp [Fields.names])]
  simp

@[simp] theorem minLength_holds_iff {n : Int} {s : String} :
    keywordHolds "minLength" (.int n) (.str s) = true ↔ n ≤ s.length := by
  simp [str?, int?]

@[simp] theorem maxLength_holds_iff {n : Int} {s : String} :
    keywordHolds "maxLength" (.int n) (.str s) = true ↔ s.length ≤ n := by
  simp [str?, int?]

theorem pattern_holds_iff {source s : String} {r : Regex} (h : Pattern.compile source = .ok r) :
    keywordHolds "pattern" (.str source) (.str s) = true ↔ r.matchesWhole s = true := by
  simp [str?, h, Except.toOption]

/-- Lists of any length, of items that a schema admits. -/
theorem admits_list_iff {schema v : Json} :
    (schemaOf "array" [("items", schema)]).admits v = true ↔
      ∃ items, v = .arr items ∧ ∀ item ∈ items, schema.admits item = true := by
  rw [admits_schemaOf_iff, hasType_array_iff]
  constructor
  · intro h
    obtain ⟨⟨items, rfl⟩, h⟩ := h
    exact ⟨items, rfl, by simpa [items?, prefixLength, List.lookup] using h⟩
  · intro h
    obtain ⟨items, rfl, h⟩ := h
    exact ⟨⟨items, rfl⟩, by simpa [items?, prefixLength, List.lookup] using h⟩

/-- Lists of two items, each of which a schema of its own admits. -/
theorem admits_pair_iff {first second v : Json} :
    (schemaOf "array" [("minItems", .int 2), ("maxItems", .int 2),
        ("prefixItems", .arr [first, second])]).admits v = true ↔
      ∃ x y, v = .arr [x, y] ∧ first.admits x = true ∧ second.admits y = true := by
  rw [admits_schemaOf_iff, hasType_array_iff]
  constructor
  · intro h
    obtain ⟨⟨items, rfl⟩, h⟩ := h
    obtain ⟨hleast, hmost, heach⟩ : 2 ≤ items.length ∧ items.length ≤ 2 ∧
        eachItem [first, second] items = true := by
      simpa [items?, int?] using h
    obtain ⟨x, y, rfl⟩ := List.length_eq_two.mp (Nat.le_antisymm hmost hleast)
    exact ⟨x, y, rfl, by simpa using heach⟩
  · intro h
    obtain ⟨x, y, rfl, h⟩ := h
    exact ⟨⟨_, rfl⟩, by simpa [items?, int?] using h⟩

/-- Objects with properties, each of which a schema of its own admits if it is there. -/
theorem admits_object_iff {schemas : Fields Json} {v : Json} :
    (schemaOf "object" [("properties", .obj schemas)]).admits v = true ↔
      ∃ fields, v = .obj fields ∧ ∀ property ∈ schemas, ∀ w,
        fields.lookup property.1 = some w → property.2.admits w = true := by
  rw [admits_schemaOf_iff, hasType_object_iff]
  simp only [← eachProperty_iff]
  constructor
  · intro h
    obtain ⟨⟨fields, rfl⟩, h⟩ := h
    exact ⟨fields, rfl, by simpa [fields?] using h⟩
  · intro h
    obtain ⟨fields, rfl, h⟩ := h
    exact ⟨⟨fields, rfl⟩, by simpa [fields?] using h⟩

/-- Objects of this kind of which some fields are required and no others are allowed. -/
theorem admits_closed_iff {required : List String} {schemas : Fields Json} {v : Json} :
    (schemaOf "object" [("required", ofTexts required), ("properties", .obj schemas),
        ("additionalProperties", .bool false)]).admits v = true ↔
      ∃ fields, v = .obj fields ∧ (∀ name ∈ required, (fields.lookup name).isSome = true) ∧
        (∀ property ∈ schemas, ∀ w,
          fields.lookup property.1 = some w → property.2.admits w = true) ∧
        ∀ name ∈ Fields.names fields, name ∈ Fields.names schemas := by
  have hkeywords : ∀ fields : Fields Json,
      allHold [("type", .str "object"), ("required", ofTexts required), ("properties", .obj schemas),
        ("additionalProperties", .bool false)] [("required", ofTexts required),
          ("properties", .obj schemas), ("additionalProperties", .bool false)] (.obj fields) = true ↔
        (∀ name ∈ required, (fields.lookup name).isSome = true) ∧
          eachProperty schemas fields = true ∧
            ∀ name ∈ Fields.names fields, name ∈ Fields.names schemas := by
    intro fields
    simp [str?, items?, fields?, ofTexts, propertyNames, List.lookup, Fields.names]
  rw [admits_schemaOf_iff, hasType_object_iff]
  simp only [← eachProperty_iff]
  constructor
  · intro h
    obtain ⟨⟨fields, rfl⟩, h⟩ := h
    exact ⟨fields, rfl, (hkeywords fields).mp h⟩
  · intro h
    obtain ⟨fields, rfl, h⟩ := h
    exact ⟨⟨fields, rfl⟩, (hkeywords fields).mpr h⟩

/-- One of two schemas, of which no value is admitted by both. -/
theorem admits_either_iff {schema other v : Json}
    (h : schema.admits v = true → other.admits v = false) :
    (Json.obj [("oneOf", .arr [schema, other])]).admits v = true ↔
      schema.admits v = true ∨ other.admits v = true := by
  simp only [admits, allHold, keywordHolds, admittedBy, countAdmitting]
  cases hv : schema.admits v with
  | true => simp [h hv]
  | false => cases other.admits v <;> simp

end Json

end ModePolicy
