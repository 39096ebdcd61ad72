import ModePolicy.Proofs.Permission.Answers

/-!
# Switches only deny

Experiments are switched on and tools are turned off from outside of a mode, and both happen at the
gates. A gate denies or lets pass and has no say in what comes after it. So:

> `looser_switches_keep_decision`: a use that is granted, whether for this path or not, is decided
> just so when more experiments are on and fewer tools are turned off. Switches that are stricter
> leave a decision as it is or make it a denial.
-/

namespace ModePolicy

/-! ## Requirements as data -/

namespace Requirements

/-- Requirements that are given as data turn a tool off if they are false, or an object with an entry
for the tool that does not count as present. -/
theorem block_ofJson {value : Json} {name : String} :
    (ofJson value).Block (.str name) ↔ value = .bool false ∨
      ∃ fields entry, value = .obj fields ∧ fields.lookup name = some entry
        ∧ entry.truthy = false := by
  have hentry : ∀ fields : Fields Json,
      entry? (.str name) (fields.map fun f => (.str f.1, f.2.truthy)) =
        (fields.lookup name).map (·.truthy) := by
    intro fields
    induction fields with
    | nil => rfl
    | cons field rest ih =>
      obtain ⟨key, entry⟩ := field
      unfold entry? at ih ⊢
      by_cases hname : name = key
      · simp [hname, Json.same, List.lookup]
      · have hkey : (key == name) = false := by simpa using Ne.symm hname
        have hname : (name == key) = false := by simpa using hname
        simpa [List.lookup, hkey, hname, Json.same] using ih
  cases value with
  | bool b => cases b <;> simp [ofJson, Block]
  | obj fields =>
    simp [ofJson, Block, hentry]
  | _ => simp [ofJson, Block]

end Requirements

/-! ## Two runs -/

namespace ToolUse

/-- The use with these switches in place of its own. -/
def under (use : ToolUse) (flags : Json) (requirements : Requirements) : ToolUse :=
  { use with experiments := flags, requirements }

variable {use : ToolUse} {flags : Json} {requirements : Requirements}

/-- A tool that is granted is a text. -/
theorem text_of_granted {custom : List Mode} {d : Decision}
    (hd : (use.check custom).result = .ok d) (hgranted : d.Granted) :
    ∃ name, use.tool = .str name := by
  rcases granted_cases hd hgranted with ⟨halways, -⟩ | ⟨-, m, params, entry, -, -, hentry, -⟩
  · obtain ⟨name, -, hname⟩ := List.any_eq_true.mp halways
    exact ⟨name, Json.same_str.mp hname⟩
  · exact ToolGroup.text_of_authorises (by simpa using List.find?_some hentry)

/-- A gate that lets a tool pass lets it pass under looser switches. -/
theorem gate_under
    (hflags : ∀ name ∈ experimentIds, ExperimentOn use.experiments name → ExperimentOn flags name)
    (hblocked : ∀ name, requirements.Block (.str name) → use.requirements.Block (.str name))
    (htool : ∃ name, use.tool = .str name) (h : use.gate = .ok none) :
    (use.under flags requirements).gate = .ok none := by
  obtain ⟨name, hname⟩ := htool
  have hkey : use.tool.isKey = true := by
    rw [hname]
    rfl
  obtain ⟨hon, hfree⟩ := (gate_none_iff hkey).mp h
  have hkey' : (use.under flags requirements).tool.isKey = true := hkey
  have hopen : (use.under flags requirements).GatesOpen := by
    refine ⟨fun other hmem hother => hflags other hmem (hon other hmem hother), fun hblock => ?_⟩
    have hnamed : requirements.Block (.str name) := hname ▸ hblock
    exact hfree (hname ▸ hblocked name hnamed)
  exact (gate_none_iff hkey').mpr hopen

/-- **Switches only deny.** Let the looser switches have every experiment on that is on, and turn off
no tool that is not turned off. A decision that grants the tool is the same under them, whether it
allows the use or refuses it for its path. Conversely, what is decided under them is decided just so
before, or denied. -/
theorem looser_switches_keep_decision (custom : List Mode)
    (hflags : ∀ name ∈ experimentIds, ExperimentOn use.experiments name → ExperimentOn flags name)
    (hblocked : ∀ name, requirements.Block (.str name) → use.requirements.Block (.str name)) :
    (∀ d : Decision, (use.check custom).result = .ok d → d.Granted →
      ((use.under flags requirements).check custom).result = .ok d) ∧
    (use.tool.isStr = true → use.experiments.IsTable →
      ∀ d, ((use.under flags requirements).check custom).result = .ok d →
        (use.check custom).result = .ok d ∨
          ∃ why, (use.check custom).result = .ok (.denied why)) := by
  cases halways : isAlwaysAvailable use.tool with
  | true =>
    -- such a tool does not come to the gates
    have hstrict := check_always halways custom
    have halways' : isAlwaysAvailable (use.under flags requirements).tool = true := halways
    have hloose := check_always halways' custom
    refine ⟨fun d hd _ => ?_, fun _ _ d hd => Or.inl ?_⟩
    · exact hloose.trans (hstrict.symm.trans hd)
    · exact hstrict.trans (hloose.symm.trans hd)
  | false =>
    have halways' : isAlwaysAvailable (use.under flags requirements).tool = false := halways
    refine ⟨fun d hd hgranted => ?_, fun htext htable d hd => ?_⟩
    · -- what is granted has passed the gates, and the mode does not see the switches
      rcases (check_succeeds halways).mp hd with ⟨why, -, rfl⟩ | ⟨hopen, hmode⟩
      · exact absurd hgranted (by simp)
      · exact (check_succeeds halways').mpr
          (Or.inr ⟨gate_under hflags hblocked (text_of_granted hd hgranted) hopen, hmode⟩)
    · have htool : ∃ name, use.tool = .str name := Json.exists_str htext
      obtain ⟨answer, hanswer⟩ := gate_answers htool htable
      cases answer with
      | some why => exact Or.inr ⟨why, (check_succeeds halways).mpr (Or.inl ⟨why, hanswer, rfl⟩)⟩
      | none =>
        -- past the gates, the switches are not read any more
        rcases (check_succeeds halways').mp hd with ⟨why, hwhy, rfl⟩ | ⟨-, hmode⟩
        · exact absurd (hwhy.symm.trans (gate_under hflags hblocked htool hanswer)) (by simp)
        · exact Or.inl ((check_succeeds halways).mpr (Or.inr ⟨hanswer, hmode⟩))

/-- A pattern that is no expression, so that it covers no path. -/
def brokenOnly : GroupOptions := { fileRegex := .str "(" }

/-- A mode that may edit what that pattern covers. -/
def notesMode : Mode where
  slug := .str "notes"
  name := .str "Notes"
  role := .str "You take notes."
  groups := [.restricted .edit brokenOnly]

/-- Inserting into a file, where that tool is an experiment that is on and reading is turned
off. -/
def scriptInsert : ToolUse where
  tool := .str "insert_content"
  slug := .str "notes"
  call := .raw (.obj [("path", .str "build.py"), ("operations", .arr [])])
  requirements := .ofJson (.obj [("read_file", .int 0)])
  experiments := .obj [("insert_content", .int 1)]

/-- Flags with another experiment on. -/
def moreFlags : Json := .obj [("powerSteering", .bool true), ("insert_content", .str "yes")]

/-- The mode refuses the path under the switches of the use, and just so under looser ones. -/
theorem scriptInsert_refused_alike :
    (∀ name ∈ experimentIds,
      ExperimentOn scriptInsert.experiments name → ExperimentOn moreFlags name) ∧
    (∀ name, (Requirements.ofJson .null).Block (.str name) →
      scriptInsert.requirements.Block (.str name)) ∧
    (scriptInsert.check [notesMode]).result =
      .ok (.violation (notesMode.violationBy brokenOnly "build.py")) ∧
    ((scriptInsert.under moreFlags (.ofJson .null)).check [notesMode]).result =
      .ok (.violation (notesMode.violationBy brokenOnly "build.py")) := by
  have hflags : ∀ name ∈ experimentIds,
      ExperimentOn scriptInsert.experiments name → ExperimentOn moreFlags name := by
    intro name _ h
    obtain ⟨fields, value, hobj, hvalue, -⟩ := h
    cases hobj
    have hname : name = "insert_content" := by
      by_contra hne
      simp [List.lookup, beq_eq_false_iff_ne.mpr hne] at hvalue
    exact ⟨_, .str "yes", rfl, by simp [List.lookup, hname], rfl⟩
  have hblocked : ∀ name, (Requirements.ofJson .null).Block (.str name) →
      scriptInsert.requirements.Block (.str name) := fun _ h => absurd h not_false
  have hopen : scriptInsert.gate = .ok none := by
    have hfree : ¬ (Requirements.ofJson (.obj [("read_file", .int 0)])).Block
        (.str "insert_content") := by
      simp [Requirements.block_ofJson, List.lookup]
    refine (gate_none_iff rfl).mpr ⟨fun name _ hname => ?_, hfree⟩
    obtain rfl : "insert_content" = name := Json.str.inj hname
    exact ⟨_, .int 1, rfl, by simp [List.lookup], rfl⟩
  have hmiss : (matchesPath (.str "build.py") (.str "(")).result = .ok false := by
    rw [result_matchesPath]
    rfl
  have hparams : scriptInsert.call.params.result =
      .ok { path := .str "build.py", operations := .arr [] } := by
    refine (CallParams.ofJson_obj _).trans ?_
    simp [CallParams.ofFields, CallParams.pathText, List.lookup, Json.isNull, Json.plain]
  have hfind : Mode.find? scriptInsert.slug [notesMode] = some notesMode := by
    simp [Mode.find?, Mode.hasSlug, notesMode, scriptInsert, Json.same]
  have hscope : (GroupEntry.restricted .edit brokenOnly).editScope? = some brokenOnly :=
    (editScope_eq_some rfl).mpr ⟨rfl, rfl⟩
  have hd : (scriptInsert.check [notesMode]).result =
      .ok (.violation (notesMode.violationBy brokenOnly "build.py")) := by
    refine (check_succeeds (editing_tools "insert_content" (by decide)).1).mpr (Or.inr ⟨hopen, ?_⟩)
    refine decideInMode_succeeds.mpr (Or.inr ⟨notesMode, _, hfind, hparams, ?_⟩)
    refine Mode.decide_succeeds.mpr (Or.inr ⟨.restricted .edit brokenOnly, ?_, ?_⟩)
    · exact find_authorising_edit (by decide)
    · exact (Mode.decideBy_restricted hscope rfl rfl).mpr ⟨false, hmiss, rfl⟩
  have hkept := (looser_switches_keep_decision [notesMode] hflags hblocked).1
  exact ⟨hflags, hblocked, hd, hkept _ hd (Decision.granted_violation _)⟩

end ToolUse

end ModePolicy
