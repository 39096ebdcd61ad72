import ModePolicy.Proofs.Toolbox.Changes

/-!
# Switches over the history of a toolbox

A name can be switched off and on before, between and after the additions of the definitions that have
it. Of all these switches only the last one counts (`lastSwitch?`), and neither the order of the names
nor that of switches and additions matters:

> `switches_over_history`: a name is off exactly if its last switch turned it off; the requirements
> have an entry for each name that is defined or off (`Tabulates`); and two histories with the same
> additions and the same last switches filter alike in every mode.

One change is told by `isOff_apply` and a history by `isOff_run`. Filtering looks at the switches only
through the names that are blocked (`filter_eq_of_blocked`).
-/

namespace ModePolicy

/-! ## The names in a table -/

namespace Requirements

variable {ι : Type} {name : String} {usable : Bool} {key : Json} {entries : List (Json × Bool)}

theorem mem_keys_setEntry : key ∈ (setEntry (.str name) usable entries).map (·.1) ↔
    key ∈ entries.map (·.1) ∨ key = .str name := by
  induction entries with
  | nil => simp [setEntry]
  | cons e rest ih =>
    unfold setEntry
    by_cases hsame : e.1.same (.str name) = true
    · rw [if_pos hsame, List.map_cons, List.map_cons, Json.same_str.mp hsame]
      simp only [List.mem_cons]
      tauto
    · rw [if_neg hsame, List.map_cons, List.map_cons, List.mem_cons, List.mem_cons, ih, or_assoc]

theorem nodup_keys_setEntry (h : (entries.map (·.1)).Nodup) :
    ((setEntry (.str name) usable entries).map (·.1)).Nodup := by
  induction entries with
  | nil => simp [setEntry]
  | cons e rest ih =>
    obtain ⟨hnew, hrest⟩ := List.nodup_cons.mp h
    unfold setEntry
    by_cases hsame : e.1.same (.str name) = true
    · rw [if_pos hsame]
      exact h
    · rw [if_neg hsame]
      refine List.nodup_cons.mpr ⟨fun hmem => ?_, ih hrest⟩
      rcases mem_keys_setEntry.mp hmem with hold | hname
      · exact hnew hold
      · exact hsame (Json.same_str.mpr hname)

/-- After entries have been set one after another, the names of the table are those there were and
those that were set, each once. -/
theorem keys_foldl_setEntry {tool : ι → Json} {test : ι → Bool} {items : List ι}
    (htext : ∀ i ∈ items, (tool i).isStr = true) : ∀ {entries : List (Json × Bool)},
    (entries.map (·.1)).Nodup →
    let table := items.foldl (fun entries i => setEntry (tool i) (test i) entries) entries
    (table.map (·.1)).Nodup ∧
      ∀ key, key ∈ table.map (·.1) ↔ key ∈ entries.map (·.1) ∨ ∃ i ∈ items, tool i = key := by
  induction items with
  | nil => exact fun hnodup => ⟨hnodup, fun key => by simp⟩
  | cons i rest ih =>
    intro entries hnodup
    obtain ⟨hi, hrest⟩ := List.forall_mem_cons.mp htext
    obtain ⟨name, hname⟩ := Json.exists_str hi
    have hset := @nodup_keys_setEntry name (test i) entries hnodup
    obtain ⟨hdistinct, hkeys⟩ := ih hrest hset
    rw [List.foldl_cons, hname]
    refine ⟨hdistinct, fun key => ?_⟩
    rw [hkeys, mem_keys_setEntry, List.exists_mem_cons_iff, hname, or_assoc, eq_comm (a := key)]

/-- In a table of distinct names an entry is found under its name. -/
theorem entry?_of_mem (hnodup : (entries.map (·.1)).Nodup) (h : (.str name, usable) ∈ entries) :
    entry? (.str name) entries = some usable := by
  induction entries with
  | nil => exact absurd h List.not_mem_nil
  | cons e rest ih =>
    obtain ⟨hnew, hrest⟩ := List.nodup_cons.mp hnodup
    unfold entry? at ih ⊢
    rcases List.mem_cons.mp h with rfl | hmem
    · simp [Json.same]
    · have hother : e.1.same (.str name) = false := by
        rw [Bool.eq_false_iff, Ne, Json.same_str]
        exact fun heq => hnew (List.mem_map.mpr ⟨_, hmem, heq.symm⟩)
      rw [List.find?_cons, hother]
      exact ih hrest hmem

end Requirements

namespace Toolbox

variable {b : Toolbox} {name : String}

theorem isOff_iff : b.isOff (.str name) = true ↔ .str name ∈ b.switchedOff := by
  simp [isOff, Json.same_str]

/-- The entries say of each name that is defined or switched off whether its tool may be used: the name
is not off, and its last definition is enabled. -/
structure Tabulates (b : Toolbox) (entries : List (Json × Bool)) : Prop where
  distinct : (entries.map (·.1)).Nodup
  keys : ∀ key, key ∈ entries.map (·.1) ↔
    (∃ d ∈ b.definitions, d.name = key) ∨ key ∈ b.switchedOff
  values : ∀ name usable, (.str name, usable) ∈ entries → (usable = true ↔
    b.isOff (.str name) = false ∧ ∃ d, b.lastNamed? name = some d ∧ d.enabled = true)

/-- The table of a toolbox whose names are texts. -/
theorem tabulates (hnamed : b.Named) (hoff : ∀ v ∈ b.switchedOff, v.isStr = true) :
    b.Tabulates b.entries := by
  have hdefinitions : (b.definitionEntries.map (·.1)).Nodup ∧ ∀ key,
      key ∈ b.definitionEntries.map (·.1) ↔ key ∈ [] ∨ ∃ d ∈ b.definitions, d.name = key :=
    Requirements.keys_foldl_setEntry hnamed List.nodup_nil
  have hentries : (b.entries.map (·.1)).Nodup ∧ ∀ key, key ∈ b.entries.map (·.1) ↔
      key ∈ b.definitionEntries.map (·.1) ∨ ∃ v ∈ b.switchedOff, v = key :=
    Requirements.keys_foldl_setEntry hoff hdefinitions.1
  refine ⟨hentries.1, fun key => ?_, fun name usable hmem => ?_⟩
  · rw [hentries.2, hdefinitions.2]
    simp
  · have hentry := Requirements.entry?_of_mem hentries.1 hmem
    have hblocked : usable = false ↔ b.Blocked name := by
      rw [← entry?_entries, hentry, Option.some.injEq]
    have hfree : usable = true ↔ ¬ b.Blocked name := by
      rw [← hblocked, Bool.not_eq_false]
    rw [hfree, Bool.eq_false_iff, Ne, isOff_iff]
    constructor
    · intro h
      -- a name that has an entry and is not off has a definition
      have hnot : .str name ∉ b.switchedOff := fun hmem => h (.inl hmem)
      have hkey : .str name ∈ b.entries.map (·.1) := List.mem_map.mpr ⟨_, hmem, rfl⟩
      rw [hentries.2, hdefinitions.2] at hkey
      obtain ⟨d, hd, hname⟩ : ∃ d ∈ b.definitions, d.name = .str name := by simpa [hnot] using hkey
      exact ⟨hnot, lastNamed?_enabled hd hname h⟩
    · rintro ⟨hnot, d, hlast, henabled⟩ (hmem | ⟨d', hlast', hdisabled⟩)
      · exact hnot hmem
      · obtain rfl := Option.some.inj (hlast.symm.trans hlast')
        exact absurd (henabled.symm.trans hdisabled) (by decide)

/-! ## Switches -/

/-- What a change makes of the switch of a name: off, on, or nothing. -/
def Change.switch? (name : String) : Change → Option Bool
  | .switchOff other => if other.same (.str name) then some false else none
  | .switchOn other => if other.same (.str name) then some true else none
  | _ => none

/-- The last switch of a name in a history, if there is one. -/
def lastSwitch? (name : String) (history : List Change) : Option Bool :=
  history.findSomeRev? (·.switch? name)

theorem lastSwitch?_cons (c : Change) (rest : List Change) :
    lastSwitch? name (c :: rest) = (lastSwitch? name rest).or (c.switch? name) := by
  simp [lastSwitch?, List.findSomeRev?_eq_findSome?_reverse, List.findSome?_append]

theorem isOff_switchOff (b : Toolbox) (other : Json) (name : String) :
    (b.switchOff other).isOff (.str name) = (other.same (.str name) || b.isOff (.str name)) := by
  unfold switchOff
  split
  · next hoff =>
    -- nothing is done if the name is off, also to the name itself
    cases hother : other.same (.str name) with
    | false => rw [Bool.false_or]
    | true => rw [Bool.true_or, ← Json.same_str.mp hother, hoff]
  · simp [isOff, Bool.or_comm]

theorem isOff_switchOn (b : Toolbox) (other : Json) (name : String) :
    (b.switchOn other).isOff (.str name) = (!other.same (.str name) && b.isOff (.str name)) := by
  have hkept : (b.switchOn other).isOff (.str name) =
      b.switchedOff.any fun n => !n.same other && n.same (.str name) := List.any_filter
  have htest : ∀ n : Json, (!n.same other && n.same (.str name)) =
      (!other.same (.str name) && n.same (.str name)) := by
    intro n
    cases hn : n.same (.str name) with
    | false => rw [Bool.and_false, Bool.and_false]
    | true =>
      rw [Json.same_str.mp hn, Bool.and_true, Bool.and_true]
      exact congrArg _ (Bool.eq_iff_iff.mpr (Json.str_same.trans Json.same_str.symm))
  rw [hkept]
  simp only [htest]
  cases other.same (.str name) <;> simp [isOff]

/-- A change switches a name off or on, or leaves it as it is. -/
theorem isOff_apply (b : Toolbox) (c : Change) (name : String) :
    (b.apply c).isOff (.str name) = ((c.switch? name).map (!·)).getD (b.isOff (.str name)) := by
  cases c with
  | add d => rfl
  | addServerTool data =>
    cases hread : ToolDefinition.ofServerTool data <;>
      simp [apply, addServerTool, hread, add, isOff, Change.switch?, Functor.map, Except.map]
  | switchOff other =>
    refine (isOff_switchOff b other name).trans ?_
    cases hother : other.same (.str name) <;> simp [Change.switch?, hother]
  | switchOn other =>
    refine (isOff_switchOn b other name).trans ?_
    cases hother : other.same (.str name) <;> simp [Change.switch?, hother]

/-- **After a history a name is as its last switch left it**, or else as it was. -/
theorem isOff_run (history : List Change) (name : String) : ∀ (b : Toolbox),
    (b.run history).isOff (.str name) =
      ((lastSwitch? name history).map (!·)).getD (b.isOff (.str name)) := by
  induction history with
  | nil => intro b; rfl
  | cons c rest ih =>
    intro b
    have hrun : b.run (c :: rest) = (b.apply c).run rest := rfl
    rw [hrun, ih, isOff_apply, lastSwitch?_cons]
    cases lastSwitch? name rest <;> rfl

/-- All names that a change speaks of are texts. -/
def Change.Worded : Change → Prop
  | .switchOff name => name.isStr = true
  | .switchOn name => name.isStr = true
  | c => c.Named

theorem Change.Worded.named {c : Change} (h : c.Worded) : c.Named := by
  cases c with
  | add d => exact h
  | addServerTool data => exact h
  | _ => exact fun d hd => absurd hd List.not_mem_nil

/-- What a change finds switched off, or switches off itself, is all that is off after it. -/
theorem mem_switchedOff_apply {c : Change} {v : Json} (h : v ∈ (b.apply c).switchedOff) :
    v ∈ b.switchedOff ∨ c = .switchOff v := by
  cases c with
  | add d => exact .inl h
  | addServerTool data =>
    cases hread : ToolDefinition.ofServerTool data <;>
      simp [apply, addServerTool, hread, add, Functor.map, Except.map] at h <;> exact .inl h
  | switchOff other =>
    have hswitched : v ∈ b.switchedOff ++ [other] := by
      simp only [apply, switchOff] at h
      split at h
      · exact List.mem_append_left _ h
      · exact h
    rcases List.mem_append.mp hswitched with hold | hnew
    · exact .inl hold
    · exact .inr (by rw [List.mem_singleton.mp hnew])
  | switchOn other => exact .inl (List.mem_filter.mp h).1

theorem switchedOff_isStr {history : List Change} : ∀ {b : Toolbox},
    (∀ v ∈ b.switchedOff, v.isStr = true) → (∀ c ∈ history, c.Worded) →
    ∀ v ∈ (b.run history).switchedOff, v.isStr = true := by
  induction history with
  | nil => exact fun hb _ => hb
  | cons c rest ih =>
    intro b hb hhistory
    obtain ⟨hc, hrest⟩ := List.forall_mem_cons.mp hhistory
    refine @ih (b.apply c) (fun v hv => ?_) hrest
    rcases mem_switchedOff_apply hv with hold | rfl
    · exact hb v hold
    · exact hc

/-! ## What filtering sees of the switches -/

/-- Two tables turn off the same names. -/
def TurnOffAlike (entries others : List (Json × Bool)) : Prop :=
  ∀ name : String, Requirements.entry? (.str name) entries = some false ↔
    Requirements.entry? (.str name) others = some false

section Alike

variable {entries others : List (Json × Bool)}

theorem TurnOffAlike.test_eq (h : TurnOffAlike entries others) (name : String) :
    (Requirements.entry? (.str name) entries == some false) =
      (Requirements.entry? (.str name) others == some false) := by
  rw [Bool.eq_iff_iff, beq_iff_eq, beq_iff_eq]
  exact h name

/-- The check of a tool makes no difference between such tables. -/
theorem TurnOffAlike.check_eq (h : TurnOffAlike entries others) (use : ToolUse)
    (htool : use.tool = .str name) (custom : List Mode) :
    { use with requirements := .table entries }.check custom =
      { use with requirements := .table others }.check custom := by
  have hgate : { use with requirements := .table entries }.gate =
      { use with requirements := .table others }.gate := by
    simp only [ToolUse.gate, Requirements.denial?, htool, h.test_eq]
  unfold ToolUse.check
  rw [hgate]
  rfl

theorem TurnOffAlike.allows_eq (h : TurnOffAlike entries others) (slug : Json) (custom : List Mode)
    (experiments : Json) {d : ToolDefinition} (hd : d.name.isStr = true) :
    allows entries slug custom experiments d = allows others slug custom experiments d := by
  obtain ⟨name, hname⟩ := Json.exists_str hd
  obtain ⟨checked, hchecked⟩ : ∃ checked, checkedName d = .str checked := by
    unfold checkedName
    split
    · exact ⟨_, rfl⟩
    · exact ⟨name, hname⟩
  have hcheck := h.check_eq { tool := checkedName d, slug, experiments } hchecked custom
  unfold allows
  rw [hname, h.test_eq name]
  simp only [hcheck]

end Alike

theorem keep_congr {test other : ToolDefinition → Report Bool} {definitions : List ToolDefinition}
    (h : ∀ d ∈ definitions, test d = other d) : keep test definitions = keep other definitions := by
  induction definitions with
  | nil => rfl
  | cons d rest ih =>
    obtain ⟨hd, hrest⟩ := List.forall_mem_cons.mp h
    unfold keep
    rw [hd, ih hrest]

/-- Toolboxes with the same definitions and the same blocked names filter alike. -/
theorem filter_eq_of_blocked {other : Toolbox} (hnamed : b.Named)
    (hdefinitions : other.definitions = b.definitions)
    (hblocked : ∀ name, other.Blocked name ↔ b.Blocked name) (slug : Json) (custom : List Mode)
    (experiments : Json) :
    other.filter slug custom experiments = b.filter slug custom experiments := by
  have hkeeps : ∀ b : Toolbox, b.Named → b.filter slug custom experiments =
      keep (allows b.entries slug custom experiments) b.definitions := by
    intro b hb
    unfold filter
    rw [result_requirements hb]
    rfl
  have halike : TurnOffAlike other.entries b.entries := fun name => by
    rw [entry?_entries, entry?_entries, hblocked]
  have hother : other.Named := fun d hd => hnamed d (hdefinitions ▸ hd)
  rw [hkeeps other hother, hkeeps b hnamed, hdefinitions]
  exact keep_congr fun d hd => halike.allows_eq slug custom experiments (hnamed d hd)

/-- **What a history of additions and switches leaves.** Start with any definitions and no name switched
off. After the history, the definitions are the first ones and then those added, in order; a name is
off exactly if its last switch turned it off; and the requirements have one entry for each name that is
defined or off, which lets the tool be used exactly if its name is not off and its last definition is
enabled. Any other history that adds the same definitions in the same order, and switches each name to
the same side last, leaves a toolbox that filters alike, in all modes and whatever the flags. -/
theorem switches_over_history {initial : List ToolDefinition} {history : List Change}
    (hinitial : ∀ d ∈ initial, d.name.isStr = true) (hhistory : ∀ c ∈ history, c.Worded) :
    let start : Toolbox := { definitions := initial }
    let b := start.run history
    b.definitions = initial ++ history.flatMap (·.added) ∧
    (∀ name, b.isOff (.str name) = true ↔ lastSwitch? name history = some false) ∧
    (∃ entries, b.requirements = .ok (.table entries) ∧ b.Tabulates entries) ∧
    ∀ other : List Change, other.flatMap (·.added) = history.flatMap (·.added) →
      (∀ name, lastSwitch? name other = lastSwitch? name history) →
      ∀ slug custom experiments,
        (start.run other).filter slug custom experiments = b.filter slug custom experiments := by
  intro start b
  have hdefinitions : b.definitions = initial ++ history.flatMap (·.added) :=
    definitions_run history start
  have hstart : start.Named := hinitial
  have hnamed : b.Named := hstart.run fun c hc => (hhistory c hc).named
  have hoff : ∀ history name, (start.run history).isOff (.str name) =
      ((lastSwitch? name history).map (!·)).getD false := fun history name => isOff_run history name _
  refine ⟨hdefinitions, fun name => ?_, ⟨b.entries, result_requirements hnamed, ?_⟩, ?_⟩
  · rw [hoff]
    cases lastSwitch? name history with
    | none => simp
    | some on => cases on <;> simp
  · exact tabulates hnamed (switchedOff_isStr (List.forall_mem_nil _) hhistory)
  · intro other hadded hswitched slug custom experiments
    have hsame : (start.run other).definitions = b.definitions := by
      rw [hdefinitions, definitions_run, hadded]
    refine filter_eq_of_blocked hnamed hsame (fun name => ?_) slug custom experiments
    rw [Blocked, Blocked, lastNamed?, lastNamed?, hsame, ← isOff_iff, ← isOff_iff, hoff, hoff, hswitched]

/-- A tool is switched off and on again, and another one is switched off before a server offers it. -/
def busyHistory : List Change :=
  [.switchOff (.str "read_file"), .switchOff (.str "calendar"), .switchOn (.str "read_file"),
    .addServerTool (.obj [("name", .str "calendar")])]

/-- The second tool is switched off after it has been added, and the first one is only switched on. -/
def calmHistory : List Change :=
  [.addServerTool (.obj [("name", .str "calendar")]), .switchOn (.str "read_file"),
    .switchOff (.str "calendar")]

/-- Both histories add one tool, leave it off and the other tool on, and filter alike. -/
theorem busyHistory_like_calmHistory :
    (∀ d ∈ [readTool true], d.name.isStr = true) ∧ (∀ c ∈ busyHistory, c.Worded) ∧
    let start : Toolbox := { definitions := [readTool true] }
    let b := start.run busyHistory
    b.definitions = [readTool true, serverTool "calendar"] ∧
    b.isOff (.str "calendar") = true ∧ b.isOff (.str "read_file") = false ∧
    (∃ entries, b.requirements = .ok (.table entries) ∧ b.Tabulates entries ∧
      .str "calendar" ∈ entries.map (·.1)) ∧
    ∀ slug custom experiments, (start.run calmHistory).filter slug custom experiments =
      b.filter slug custom experiments := by
  have hinitial : ∀ d ∈ [readTool true], d.name.isStr = true := by simp [readTool, Json.isStr]
  have hread : ToolDefinition.ofServerTool (.obj [("name", .str "calendar")]) =
      .ok (serverTool "calendar") := by cbv
  have hadded := Change.added_addServerTool hread
  have hhistory : ∀ c ∈ busyHistory, c.Worded := by
    simp [busyHistory, Change.Worded, Change.Named, hadded, serverTool, Json.isStr]
  have hsame : calmHistory.flatMap (·.added) = busyHistory.flatMap (·.added) := by
    simp [calmHistory, busyHistory, Change.added]
  have hlast : ∀ name, lastSwitch? name calmHistory = lastSwitch? name busyHistory := by
    intro name
    by_cases hcalendar : "calendar" = name
    · simp [lastSwitch?, calmHistory, busyHistory, Change.switch?, Json.same, ← hcalendar]
    · by_cases hreading : "read_file" = name <;>
        simp [lastSwitch?, calmHistory, busyHistory, Change.switch?, Json.same, hcalendar, hreading]
  obtain ⟨hdefinitions, hoff, ⟨entries, hentries, htable⟩, halike⟩ :=
    switches_over_history hinitial hhistory
  have hcalendar := (hoff "calendar").mpr (by simp [lastSwitch?, busyHistory, Change.switch?, Json.same])
  refine ⟨hinitial, hhistory, hdefinitions.trans ?_, hcalendar, ?_, ⟨entries, hentries, htable, ?_⟩,
    halike calmHistory hsame hlast⟩
  · simp [busyHistory, Change.added, hread]
  · rw [Bool.eq_false_iff, Ne, hoff]
    simp [lastSwitch?, busyHistory, Change.switch?, Json.same]
  · exact (htable.keys _).mpr (.inr (isOff_iff.mp hcalendar))

end Toolbox

end ModePolicy
