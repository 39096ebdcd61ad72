import ModePolicy.Permission.Check
import ModePolicy.Proofs.Json.Values
import ModePolicy.Proofs.Outcome
import ModePolicy.Proofs.Pattern.Groupless

/-!
# How a decision comes about

`ToolUse.check` is a chain of gates with the mode at its end. Each link is taken apart once here:

> `check_succeeds`: the decision is the denial of a gate, or that of the mode after open gates.
> `decideInMode_succeeds`: the slug names no mode, or the mode decides on the parameters of the call.
> `decide_succeeds`: the first entry of the mode whose group has the tool decides.
> `decideBy_restricted`: an entry that restricts editing compares the path with its pattern.

The gates are given a meaning apart from the code that runs them: `GatesOpen` says which
experiments are switched on and what the requirements leave usable, `PatternFinds` when a pattern
covers a path. Everything that is said about decisions elsewhere is said through these.
-/

namespace ModePolicy

/-! ## The gates before the mode -/

/-- The experiment of this name is switched on: it has a flag, and the flag counts as present. -/
def ExperimentOn (flags : Json) (name : String) : Prop :=
  ∃ fields value, flags = .obj fields ∧ fields.lookup name = some value ∧ value.truthy = true

/-- The requirements turn a tool off: all tools, or this one by its entry. -/
def Requirements.Block (tool : Json) : Requirements → Prop
  | .unrestricted => False
  | .allOff => True
  | .table entries => entry? tool entries = some false

/-- Nothing before the mode denies the tool: if it is an experiment it is switched on, and the
requirements do not turn it off. -/
def ToolUse.GatesOpen (use : ToolUse) : Prop :=
  (∀ name ∈ experimentIds, use.tool = .str name → ExperimentOn use.experiments name)
    ∧ ¬ use.requirements.Block use.tool

/-- A flag is asked for by its name. -/
theorem experimentEnabled_iff {flags : Json} {name : String} :
    experimentEnabled flags (.str name) = .ok true ↔ ExperimentOn flags name := by
  unfold experimentEnabled ExperimentOn
  constructor
  · intro h
    cases flags with
    | obj fields =>
      cases hl : fields.lookup name with
      | none => simp [Json.entry?, hl, Json.truthy, bind] at h
      | some value =>
        refine ⟨fields, value, rfl, hl, ?_⟩
        split at h
        · exact absurd h (by simp)
        · simpa [Json.entry?, hl, bind] using h
    | _ => split at h <;> exact absurd h (by simp)
  · intro h
    obtain ⟨fields, value, rfl, hl, hv⟩ := h
    have hset : (Json.obj fields).truthy = true := by
      cases fields with
      | nil => exact absurd hl (by simp)
      | cons _ _ => rfl
    simp [hset, Json.entry?, hl, bind, hv]

theorem experimentDenial_none_iff {flags tool : Json} :
    experimentDenial? flags tool = .ok none ↔
      ∀ name ∈ experimentIds, tool = .str name → ExperimentOn flags name := by
  unfold experimentDenial?
  by_cases hx : isExperiment tool = true
  · -- an experiment is a text among the ids
    obtain ⟨name, rfl⟩ : ∃ name, tool = .str name := by
      cases tool with
      | str name => exact ⟨name, rfl⟩
      | _ => exact absurd hx (by simp [isExperiment])
    have hmem : name ∈ experimentIds := by simpa [isExperiment] using hx
    rw [if_pos hx]
    constructor
    · intro h n _ hn
      obtain ⟨on, hon, hnone⟩ := bind_succeeds.mp h
      cases on with
      | true => exact Json.str.inj hn ▸ experimentEnabled_iff.mp hon
      | false => exact absurd hnone (by simp)
    · intro h
      exact bind_succeeds.mpr ⟨true, experimentEnabled_iff.mpr (h name hmem rfl), rfl⟩
  · rw [if_neg hx]
    refine ⟨fun _ name hmem ht => absurd ?_ hx, fun _ => rfl⟩
    subst ht
    simpa [isExperiment] using hmem

theorem Requirements.denial_none_iff {tool : Json} {r : Requirements} (htool : tool.isKey = true) :
    r.denial? tool = .ok none ↔ ¬ r.Block tool := by
  cases r with
  | unrestricted => simp [denial?, Block]
  | allOff => simp [denial?, Block]
  | table entries => simp [denial?, Block, htool]

theorem ToolUse.gate_none_iff {use : ToolUse} (htool : use.tool.isKey = true) :
    use.gate = .ok none ↔ use.GatesOpen := by
  unfold gate GatesOpen
  rw [← experimentDenial_none_iff, ← Requirements.denial_none_iff htool]
  constructor
  · intro h
    obtain ⟨first, hfirst, hrest⟩ := bind_succeeds.mp h
    cases first with
    | some why => exact absurd hrest (by simp)
    | none => exact ⟨hfirst, hrest⟩
  · intro h
    obtain ⟨hfirst, hsecond⟩ := h
    exact bind_succeeds.mpr ⟨none, hfirst, hsecond⟩

/-! ## The parameters of a call -/

/-- What is kept of the fields of a call: a field that is not there counts as null. -/
def CallParams.ofFields (fields : Fields Json) : CallParams where
  path := pathText ((fields.lookup "path").getD .null)
  diff := (fields.lookup "diff").getD .null
  content := (fields.lookup "content").getD .null
  operations := (fields.lookup "operations").getD .null

@[simp] theorem CallParams.result_noteIgnored (names : List String) :
    (noteIgnored names).result = .ok () := by
  unfold noteIgnored
  split <;> rfl

/-- An object always gives parameters, whatever its fields are. -/
theorem CallParams.ofJson_obj (fields : Fields Json) :
    (ofJson (.obj fields)).result = .ok (ofFields fields) := by
  cases fields with
  | nil => rfl
  | cons f rest =>
    unfold ofJson
    rw [if_neg (by simp [Json.truthy])]
    simp [Json.elements, Json.fieldD, Except.mapError, ofFields]

/-! ## Patterns on paths -/

/-- The pattern is an expression that matches somewhere in the path. -/
def PatternFinds (pattern : Json) (path : String) : Prop :=
  ∃ source regex, pattern = .str source ∧ Pattern.compile source = .ok regex
    ∧ (regex.find? path).isSome = true

/-- The answer of a comparison: what the search has found, and no match if the pattern cannot be
used. -/
theorem result_matchesPath (path pattern : Json) :
    (matchesPath path pattern).result = (searchPath path pattern).map fun
      | .ok found => found
      | .error _ => false := by
  unfold matchesPath
  rw [Report.result_bind, Report.result_lift]
  cases searchPath path pattern with
  | error e => rfl
  | ok answer => cases answer <;> rfl

/-- The search with an expression: an answer, unless the match it finds has a crossed group. -/
theorem searchPath_compiled {path source : String} {regex : Regex}
    (h : Pattern.compile source = .ok regex) :
    searchPath (.str path) (.str source) = match regex.find? path with
      | some found => if found.marks.areCrossed then .error .crossedGroup else .ok (.ok true)
      | none => .ok (.ok false) := by
  cases hfind : regex.find? path <;> simp [searchPath, h, hfind]

/-- A search with an expression without groups always gives an answer. -/
theorem searchPath_of_groupless {path source : String} {regex : Regex}
    (h : Pattern.compile source = .ok regex) (hgroups : regex.body.hasGroup = false) :
    searchPath (.str path) (.str source) = .ok (.ok (regex.find? path).isSome) := by
  rw [searchPath_compiled h]
  cases hfind : regex.find? path with
  | none => rfl
  | some found =>
    have huncrossed : found.marks.areCrossed = false := by
      rw [Regex.find?_unmarked hgroups hfind]
      rfl
    simp [huncrossed]

/-- A text that is no expression, and what is no text, find nothing. -/
theorem not_patternFinds_of_problem {path : String} {pattern : Json} {problem : PatternProblem}
    (h : searchPath (.str path) pattern = .ok (.error problem)) : ¬ PatternFinds pattern path := by
  intro h
  obtain ⟨source, regex, rfl, hc, -⟩ := h
  rw [searchPath_compiled hc] at h
  split at h
  · split at h <;> exact absurd h (by simp)
  · exact absurd h (by simp)

/-- A search that gives an answer says whether the pattern finds something. -/
theorem patternFinds_of_searchPath {path : String} {pattern : Json} {found : Bool}
    (h : searchPath (.str path) pattern = .ok (.ok found)) :
    found = true ↔ PatternFinds pattern path := by
  obtain ⟨source, rfl⟩ : ∃ source, pattern = .str source := by
    cases pattern with
    | str source => exact ⟨source, rfl⟩
    | _ => exact absurd h (by simp [searchPath])
  obtain ⟨regex, hc⟩ : ∃ regex, Pattern.compile source = .ok regex := by
    cases hc : Pattern.compile source with
    | ok regex => exact ⟨regex, rfl⟩
    | error defect => cases defect <;> exact absurd h (by simp [searchPath, hc])
  have hfinds : PatternFinds (.str source) path ↔ (regex.find? path).isSome = true := by
    constructor
    · intro h
      obtain ⟨source', regex', hs, hc', hsome⟩ := h
      obtain rfl : source = source' := Json.str.inj hs
      obtain rfl : regex = regex' := Except.ok.inj (hc.symm.trans hc')
      exact hsome
    · exact fun hsome => ⟨source, regex, rfl, hc, hsome⟩
  rw [hfinds]
  rw [searchPath_compiled hc] at h
  cases hm : regex.find? path with
  | none =>
    rw [hm] at h
    obtain rfl : false = found := Except.ok.inj (Except.ok.inj h)
    simp
  | some state =>
    simp only [hm] at h
    split at h
    · exact absurd h (by simp)
    · obtain rfl : true = found := Except.ok.inj (Except.ok.inj h)
      simp

/-- A comparison that comes to an end has found a match or has not; a pattern that cannot be used
finds none. -/
theorem matchesPath_succeeds {path : String} {pattern : Json} {found : Bool}
    (h : (matchesPath (.str path) pattern).result = .ok found) :
    found = true ↔ PatternFinds pattern path := by
  rw [result_matchesPath] at h
  cases hsearch : searchPath (.str path) pattern with
  | error e =>
    rw [hsearch] at h
    exact absurd h (by simp [Except.map])
  | ok answer =>
    rw [hsearch] at h
    cases answer with
    | ok here =>
      obtain rfl : here = found := Except.ok.inj h
      exact patternFinds_of_searchPath hsearch
    | error problem =>
      obtain rfl : false = found := Except.ok.inj h
      exact iff_of_false (by simp) (not_patternFinds_of_problem hsearch)

/-! ## Decisions that grant -/

/-- The tool is granted: it may be used, or it may be used on other paths. -/
def Decision.Granted : Decision → Prop
  | .allowed _ => True
  | .violation _ => True
  | .denied _ => False

@[simp] theorem Decision.granted_allowed (group : Option ToolGroup) :
    (Decision.allowed group).Granted := trivial

@[simp] theorem Decision.granted_violation (v : PathViolation) : (Decision.violation v).Granted :=
  trivial

@[simp] theorem Decision.not_granted_denied (why : Denial) : ¬ (Decision.denied why).Granted := id

/-! ## The mode -/

/-- Groups have tools by their names only. -/
theorem ToolGroup.text_of_authorises {g : ToolGroup} {tool : Json} (h : g.authorises tool = true) :
    ∃ name, tool = .str name := by
  unfold authorises at h
  obtain ⟨name, -, hname⟩ := List.any_eq_true.mp h
  exact ⟨name, Json.same_str.mp hname⟩

/-- An entry that restricts no editing allows the tool. -/
theorem Mode.decideBy_unrestricted {m : Mode} {entry : GroupEntry} {params : CallParams}
    (h : entry.editScope? = none) :
    (m.decideBy entry params).result = .ok (.allowed (some entry.group)) := by
  unfold decideBy
  rw [h]
  rfl

/-- Asked whether it covers a path, an entry that restricts editing answers with the comparison of
the path with its pattern, and stops where the comparison does. -/
theorem Mode.result_decideBy {m : Mode} {entry : GroupEntry} {options : GroupOptions}
    {params : CallParams} (h : entry.editScope? = some options) (hpath : params.path.truthy = true)
    (hwrites : params.writes = true) :
    (m.decideBy entry params).result =
      (matchesPath params.path options.fileRegex).result.map fun found =>
        if found then .allowed (some entry.group) else
          .violation
            { modeName := m.name, pattern := options.fileRegex, description := options.description,
              path := params.path } := by
  unfold decideBy
  rw [h]
  simp only [hpath, hwrites, Bool.and_self, if_true, Report.result_bind]
  cases (matchesPath params.path options.fileRegex).result with
  | error e => rfl
  | ok found => cases found <;> rfl

/-- An entry that restricts editing lets a call that writes to a path through exactly if its pattern
matches there. -/
theorem Mode.decideBy_restricted {m : Mode} {entry : GroupEntry} {options : GroupOptions}
    {params : CallParams} {d : Decision} (h : entry.editScope? = some options)
    (hpath : params.path.truthy = true) (hwrites : params.writes = true) :
    (m.decideBy entry params).result = .ok d ↔
      ∃ found, (matchesPath params.path options.fileRegex).result = .ok found ∧
        d = if found then .allowed (some entry.group) else
          .violation
            { modeName := m.name, pattern := options.fileRegex, description := options.description,
              path := params.path } := by
  rw [result_decideBy h hpath hwrites]
  cases (matchesPath params.path options.fileRegex).result with
  | error e => simp [Except.map]
  | ok found => simp [Except.map, eq_comm]

/-- The first entry of the mode whose group has the tool decides. -/
theorem Mode.decide_succeeds {m : Mode} {tool : Json} {params : CallParams} {d : Decision} :
    (m.decide tool params).result = .ok d ↔
      (m.groups.find? (·.group.authorises tool) = none ∧ d = .denied .notInMode) ∨
      ∃ entry, m.groups.find? (·.group.authorises tool) = some entry
        ∧ (m.decideBy entry params).result = .ok d := by
  unfold decide
  cases m.groups.find? (·.group.authorises tool) with
  | none => simp [eq_comm]
  | some entry => simp

/-- The slug names no mode, or the mode decides on the parameters of the call. -/
theorem ToolUse.decideInMode_succeeds {use : ToolUse} {custom : List Mode} {d : Decision} :
    (use.decideInMode custom).result = .ok d ↔
      (Mode.find? use.slug custom = none ∧ d = .denied .modeNotFound) ∨
      ∃ m params, Mode.find? use.slug custom = some m ∧ use.call.params.result = .ok params
        ∧ (m.decide use.tool params).result = .ok d := by
  unfold decideInMode
  cases Mode.find? use.slug custom with
  | none => simp [eq_comm]
  | some m =>
    constructor
    · intro h
      obtain ⟨params, hparams, hd⟩ := Report.bind_succeeds.mp h
      exact Or.inr ⟨m, params, rfl, hparams, hd⟩
    · intro h
      rcases h with ⟨hnone, -⟩ | ⟨m', params, hm, hparams, hd⟩
      · exact absurd hnone (by simp)
      · cases hm
        exact Report.bind_succeeds.mpr ⟨params, hparams, hd⟩

/-- The modes decide alike on everything, and report the same on the way. -/
def Mode.DecidesAs (m n : Mode) : Prop :=
  ∀ (tool : Json) (params : CallParams), m.decide tool params = n.decide tool params

/-- Lists of modes that name modes which decide alike for a slug, or both none, decide alike. -/
theorem ToolUse.check_of_decidesAs {use : ToolUse} {custom custom' : List Mode}
    (h : Option.Rel Mode.DecidesAs (Mode.find? use.slug custom) (Mode.find? use.slug custom')) :
    use.check custom = use.check custom' := by
  have hmode : use.decideInMode custom = use.decideInMode custom' := by
    unfold decideInMode
    generalize Mode.find? use.slug custom = found, Mode.find? use.slug custom' = found' at h
    cases h with
    | none => rfl
    | some halike => simp only [halike use.tool]
  unfold check
  rw [hmode]

/-- A tool that is available in every mode is allowed before any gate. -/
theorem ToolUse.check_always {use : ToolUse} (htool : isAlwaysAvailable use.tool = true)
    (custom : List Mode) : (use.check custom).result = .ok (.allowed none) := by
  unfold check
  rw [if_pos htool]
  rfl

/-- A tool that is not available everywhere is denied by a gate, or the mode decides. -/
theorem ToolUse.check_succeeds {use : ToolUse} {custom : List Mode} {d : Decision}
    (htool : isAlwaysAvailable use.tool = false) :
    (use.check custom).result = .ok d ↔
      (∃ why, use.gate = .ok (some why) ∧ d = .denied why) ∨
      (use.gate = .ok none ∧ (use.decideInMode custom).result = .ok d) := by
  unfold check
  rw [if_neg (by simp [htool]), Report.bind_succeeds]
  simp only [Report.result_lift_misuse, mapError_succeeds]
  constructor
  · intro h
    obtain ⟨first, hfirst, hd⟩ := h
    cases first with
    | some why => exact Or.inl ⟨why, hfirst, (Except.ok.inj hd).symm⟩
    | none => exact Or.inr ⟨hfirst, hd⟩
  · intro h
    rcases h with ⟨why, hwhy, rfl⟩ | ⟨hnone, hd⟩
    · exact ⟨some why, hwhy, rfl⟩
    · exact ⟨none, hnone, hd⟩

/-- Where a decision that grants the tool comes from: the tool is available in every mode, or past
the gates an entry of the mode has decided. -/
theorem ToolUse.granted_cases {use : ToolUse} {custom : List Mode} {d : Decision}
    (hd : (use.check custom).result = .ok d) (hgranted : d.Granted) :
    (isAlwaysAvailable use.tool = true ∧ d = .allowed none) ∨
    (use.gate = .ok none ∧ ∃ m params entry, Mode.find? use.slug custom = some m
      ∧ use.call.params.result = .ok params
      ∧ m.groups.find? (·.group.authorises use.tool) = some entry
      ∧ (m.decideBy entry params).result = .ok d) := by
  cases htool : isAlwaysAvailable use.tool with
  | true => exact Or.inl ⟨rfl, (Except.ok.inj ((check_always htool custom).symm.trans hd)).symm⟩
  | false =>
    rcases (check_succeeds htool).mp hd with ⟨why, -, rfl⟩ | ⟨hopen, hmode⟩
    · exact absurd hgranted (by simp)
    rcases decideInMode_succeeds.mp hmode with ⟨-, rfl⟩ | ⟨m, params, hm, hparams, hdecide⟩
    · exact absurd hgranted (by simp)
    rcases Mode.decide_succeeds.mp hdecide with ⟨-, rfl⟩ | ⟨entry, hentry, hby⟩
    · exact absurd hgranted (by simp)
    · exact Or.inr ⟨hopen, m, params, entry, hm, hparams, hentry, hby⟩

end ModePolicy
