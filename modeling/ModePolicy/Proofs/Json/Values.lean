import Mathlib.Data.List.Nodup
import ModePolicy.Json.Basic

/-!
# Texts and tables of distinct names

Small facts about values that several developments need: which values are texts, what becomes of
repeated names, and that a table whose names are distinct is kept as it is by the operation that
merges repeated ones.
-/

namespace ModePolicy

/-! ## Texts -/

theorem Json.exists_str {v : Json} (h : v.isStr = true) : ∃ s, v = .str s := by
  cases v with
  | str s => exact ⟨s, rfl⟩
  | _ => exact absurd h (by simp [Json.isStr])

/-- Only a text is equal to a text. -/
theorem Json.same_str {v : Json} {s : String} : v.same (.str s) = true ↔ v = .str s := by
  cases v <;> simp [Json.same, Json.int?]

theorem Json.str_same {v : Json} {s : String} : (Json.str s).same v = true ↔ v = .str s := by
  cases v with
  | str t => simpa [Json.same] using eq_comm
  | _ => simp [Json.same]

/-- A value that may be left out is null or a text. -/
theorem Json.isOptionalStr_cases {v : Json} (h : v.isOptionalStr = true) :
    v = .null ∨ ∃ s, v = .str s := by
  cases v with
  | null => exact Or.inl rfl
  | str s => exact Or.inr ⟨s, rfl⟩
  | _ => exact absurd h (by simp [Json.isOptionalStr])

/-! ## Repetitions -/

section Repetitions

variable {names rest : List String} {name : String}

/-- Nothing is erased from a list without repetitions. -/
theorem eraseDups_of_nodup (h : names.Nodup) : names.eraseDups = names := by
  induction names with
  | nil => rfl
  | cons name rest ih =>
    obtain ⟨hnew, hrest⟩ := List.nodup_cons.mp h
    have hkept : rest.filter (fun other => !other == name) = rest :=
      List.filter_eq_self.mpr fun other hother => by
        simpa using fun heq : other = name => hnew (heq ▸ hother)
    rw [List.eraseDups_cons, hkept, ih hrest]

/-- Where names are collected one by one, a name that comes again is left out: the names stay without
repetitions, and those that follow may still be erased together with the ones collected. -/
theorem eraseDups_collect {more : List String} (h : names.Nodup)
    (hmore : more = names ++ if name ∈ names then [] else [name]) :
    more.Nodup ∧ (more ++ rest).eraseDups = (names ++ name :: rest).eraseDups := by
  by_cases hagain : name ∈ names
  · rw [if_pos hagain, List.append_nil] at hmore
    subst hmore
    refine ⟨h, ?_⟩
    rw [List.eraseDups_append, List.eraseDups_append]
    simp [List.removeAll, hagain]
  · rw [if_neg hagain] at hmore
    subst hmore
    refine ⟨h.append (List.nodup_singleton _) (List.disjoint_singleton.mpr hagain), ?_⟩
    rw [List.append_assoc, List.singleton_append]

end Repetitions

/-! ## Tables -/

theorem Fields.lookup_cons {α : Type} (field : String × α) (fields : Fields α) (key : String) :
    (field :: fields).lookup key = if key = field.1 then some field.2 else fields.lookup key := by
  obtain ⟨name, value⟩ := field
  by_cases h : key = name
  · simp [h]
  · simp [List.lookup_cons, h, beq_false_of_ne h]

theorem Fields.lookup_set {α : Type} {name key : String} {value : α} (fields : Fields α) :
    (fields.set name value).lookup key = if key = name then some value else fields.lookup key := by
  induction fields with
  | nil => rw [Fields.set, Fields.lookup_cons]
  | cons field fields ih =>
    unfold Fields.set
    by_cases hfield : field.1 = name
    · simp only [hfield, beq_self_eq_true, if_true, Fields.lookup_cons]
      split <;> rfl
    · rw [if_neg (by simpa using hfield), Fields.lookup_cons, Fields.lookup_cons, ih]
      by_cases hkey : key = field.1
      · simp [hkey, hfield]
      · simp [hkey]

/-- Of several values of one name the last one counts. -/
theorem Fields.lookup_ofList {α : Type} (pairs : List (String × α)) (key : String) :
    (Fields.ofList pairs).lookup key = pairs.reverse.lookup key := by
  have hfold : ∀ fields : Fields α,
      (pairs.foldl (fun fields p => Fields.set p.1 p.2 fields) fields).lookup key
        = (pairs.reverse.lookup key).or (fields.lookup key) := by
    induction pairs with
    | nil => intro fields; rfl
    | cons pair pairs ih =>
      intro fields
      rw [List.foldl_cons, ih, Fields.lookup_set, List.reverse_cons, List.lookup_append,
        Fields.lookup_cons]
      cases pairs.reverse.lookup key with
      | some value => rfl
      | none => by_cases h : key = pair.1 <;> simp [h]
  exact (hfold []).trans (by simp)

/-- Setting a value adds its name at the end, unless it is there. -/
theorem Fields.names_set {α : Type} {name : String} {value : α} {fields : Fields α} :
    Fields.names (fields.set name value) =
      Fields.names fields ++ if name ∈ Fields.names fields then [] else [name] := by
  induction fields with
  | nil => rfl
  | cons field fields ih =>
    unfold Fields.names at ih ⊢
    unfold Fields.set
    by_cases hfield : field.1 = name
    · simp [hfield]
    · have hne : name ≠ field.1 := Ne.symm hfield
      rw [if_neg (by simpa using hfield), List.map_cons, List.map_cons, ih]
      simp only [List.mem_cons, hne, false_or]
      rfl

/-- The names of a table are those of its pairs, each where it first occurs. -/
theorem Fields.names_ofList {α : Type} (pairs : List (String × α)) :
    Fields.names (Fields.ofList pairs) = (Fields.names pairs).eraseDups := by
  have hfold : ∀ {fields : Fields α}, (Fields.names fields).Nodup →
      Fields.names (pairs.foldl (fun fields p => Fields.set p.1 p.2 fields) fields) =
        (Fields.names fields ++ Fields.names pairs).eraseDups := by
    induction pairs with
    | nil =>
      intro fields h
      have hnames : Fields.names fields ++ Fields.names ([] : Fields α) = Fields.names fields :=
        List.append_nil _
      rw [hnames, eraseDups_of_nodup h]
      rfl
    | cons pair pairs ih =>
      intro fields h
      have hcons : Fields.names (pair :: pairs) = pair.1 :: Fields.names pairs := rfl
      obtain ⟨hnodup, hsame⟩ := eraseDups_collect h (@Fields.names_set _ pair.1 pair.2 fields)
      rw [List.foldl_cons, hcons, ih hnodup, hsame]
  exact hfold List.nodup_nil

/-! ## Tables of distinct names -/

theorem Fields.set_of_notMem {α : Type} {name : String} {value : α} {fields : Fields α}
    (h : name ∉ fields.names) : fields.set name value = fields ++ [(name, value)] := by
  induction fields with
  | nil => rfl
  | cons field fields ih =>
    have hne : name ≠ field.1 ∧ name ∉ Fields.names fields := by
      simpa [Fields.names] using h
    rw [Fields.set, if_neg (by simpa using Ne.symm hne.1), ih hne.2]
    rfl

theorem Fields.foldl_set {α : Type} (pairs : List (String × α)) :
    ∀ {fields : Fields α}, (Fields.names fields ++ Fields.names pairs).Nodup →
      pairs.foldl (fun fs p => Fields.set p.1 p.2 fs) fields = fields ++ pairs := by
  induction pairs with
  | nil => intro fields _; simp
  | cons pair pairs ih =>
    intro fields h
    have happ : Fields.names fields ++ Fields.names (pair :: pairs) =
        Fields.names (fields ++ [pair]) ++ Fields.names pairs := by simp [Fields.names]
    have hnew : pair.1 ∉ Fields.names fields := fun hmem =>
      (List.nodup_append.mp h).2.2 _ hmem _ (List.mem_cons_self ..) rfl
    rw [List.foldl_cons, Fields.set_of_notMem hnew, ih (happ ▸ h), List.append_assoc]
    rfl

/-- Distinct names keep their fields as they are. -/
theorem Fields.ofList_of_nodup {α : Type} {pairs : List (String × α)}
    (h : (Fields.names pairs).Nodup) : Fields.ofList pairs = pairs :=
  Fields.foldl_set pairs h

end ModePolicy
