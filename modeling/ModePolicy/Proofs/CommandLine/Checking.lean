import ModePolicy.Proofs.CommandLine.Loading
import ModePolicy.Proofs.CommandLine.Parameters
import ModePolicy.Proofs.Permission.Answers

/-!
# The command that checks a call

A request to check a call, together with the settings, asks for a decision on the use of a tool
(`CheckRequest.Asks`). Several uses answer to that, with the fields of their tables in different orders,
and all of them are decided alike (`CheckRequest.Asks.check_eq`).

> `check_reports_decision`: unless something stops it (`CheckRequest.Stops`), the command reports by
> its status what is decided on every such use, and that the parameters of the call are malformed if
> they are.
-/

namespace ModePolicy

/-! ## Uses that are decided alike -/

/-- A decision depends on the gates, on the tool and the slug, and on what is read of the call. -/
theorem ToolUse.check_result_congr {use other : ToolUse} (htool : use.tool = other.tool)
    (hslug : use.slug = other.slug) (hgate : use.gate = other.gate)
    (hparams : use.call.params.result = other.call.params.result) (custom : List Mode) :
    (use.check custom).result = (other.check custom).result := by
  have hmode : (use.decideInMode custom).result = (other.decideInMode custom).result := by
    unfold decideInMode
    rw [htool, hslug]
    cases Mode.find? other.slug custom with
    | none => rfl
    | some m => rw [Report.result_bind, Report.result_bind, hparams]
  unfold check
  rw [htool, hgate]
  split
  · rfl
  · rw [Report.result_bind, Report.result_bind]
    congr 1
    funext answer
    cases answer with
    | some why => rfl
    | none => exact hmode

/-- Flags in an object are asked for by name. -/
theorem experimentEnabled_obj (flags : Fields Json) (name : String) :
    experimentEnabled (.obj flags) (.str name) =
      .ok (((flags.lookup name).map Json.truthy).getD false) := by
  cases flags with
  | nil => rfl
  | cons flag flags =>
    unfold experimentEnabled
    rw [if_neg (by simp [Json.truthy])]
    cases hflag : List.lookup name (flag :: flags) <;>
      simp [Json.entry?, hflag, Json.truthy, bind]

namespace CommandLine

variable {r : CheckRequest} {settings : Settings} {use other : ToolUse}

/-! ## What a request asks -/

/-- The requirements are those of the request: everything is off, or the tools that are turned off by
name, or nothing is required. -/
def CheckRequest.Requires (r : CheckRequest) : Requirements → Prop
  | .allOff => r.noTools = true
  | .unrestricted => r.noTools = false ∧ r.disabled = []
  | .table entries => r.noTools = false ∧ r.disabled ≠ [] ∧ ∀ name : String,
      Requirements.entry? (.str name) entries = if some name ∈ r.disabled then some false else none

/-- The request and the settings ask for a decision on this use: the slug is the first that is not
empty of the one given, the one of the settings and `code`; the call has the last value that is given
for each key; and the experiments are those of the settings, with the ones that are named switched
on. -/
structure CheckRequest.Asks (r : CheckRequest) (settings : Settings) (use : ToolUse) : Prop where
  tool : use.tool = .str r.tool
  slug : ∃ mode slug, settings.mode = .str mode ∧
    [r.mode.getD "", mode, "code"].find? (· ≠ "") = some slug ∧ use.slug = .str slug
  requirements : r.Requires use.requirements
  call : ∃ pairs fields, Given r.params pairs ∧ use.call = .raw (.obj fields) ∧
    ∀ key, fields.lookup key = (pairs.reverse.lookup key).map Json.str
  experiments : ∃ flags, use.experiments = .obj flags ∧ ∀ name, flags.lookup name =
    if some name ∈ r.experiments then some (.bool true)
    else settings.experiments.toFields.lookup name

theorem CheckRequest.Requires.denial_eq {q q' : Requirements} (h : r.Requires q)
    (h' : r.Requires q') (name : String) : q.denial? (.str name) = q'.denial? (.str name) := by
  cases q <;> cases q' <;> simp_all [CheckRequest.Requires, Requirements.denial?]

namespace CheckRequest.Asks

theorem gate_eq (h : r.Asks settings use) (hother : r.Asks settings other) :
    use.gate = other.gate := by
  obtain ⟨flags, hflags, hlookup⟩ := h.experiments
  obtain ⟨flags', hflags', hlookup'⟩ := hother.experiments
  have hdenial : experimentDenial? use.experiments use.tool =
      experimentDenial? other.experiments other.tool := by
    rw [h.tool, hother.tool, hflags, hflags']
    unfold experimentDenial?
    rw [experimentEnabled_obj, experimentEnabled_obj, hlookup, hlookup']
  unfold ToolUse.gate
  rw [hdenial, h.tool, hother.tool, h.requirements.denial_eq hother.requirements]

theorem params_eq (h : r.Asks settings use) (hother : r.Asks settings other) :
    use.call.params.result = other.call.params.result := by
  obtain ⟨pairs, fields, hgiven, hcall, hlookup⟩ := h.call
  obtain ⟨pairs', fields', hgiven', hcall', hlookup'⟩ := hother.call
  obtain rfl := hgiven.unique hgiven'
  have hread : ∀ fields : Fields Json, (CallData.raw (.obj fields)).params.result =
      .ok (CallParams.ofFields fields) := CallParams.ofJson_obj
  rw [hcall, hcall', hread, hread]
  simp only [CallParams.ofFields, hlookup, hlookup']

theorem slug_eq (h : r.Asks settings use) (hother : r.Asks settings other) :
    use.slug = other.slug := by
  obtain ⟨mode, slug, hmode, hfind, hslug⟩ := h.slug
  obtain ⟨mode', slug', hmode', hfind', hslug'⟩ := hother.slug
  obtain rfl : mode = mode' := Json.str.inj (hmode.symm.trans hmode')
  obtain rfl : slug = slug' := Option.some.inj (hfind.symm.trans hfind')
  rw [hslug, hslug']

/-- **All uses that a request asks about are decided alike.** -/
theorem check_eq (h : r.Asks settings use) (hother : r.Asks settings other) (custom : List Mode) :
    (use.check custom).result = (other.check custom).result :=
  ToolUse.check_result_congr (h.tool.trans hother.tool.symm) (h.slug_eq hother) (h.gate_eq hother)
    (h.params_eq hother) custom

theorem wellStated (h : r.Asks settings use) : use.WellStated := by
  obtain ⟨flags, hflags, -⟩ := h.experiments
  obtain ⟨pairs, fields, -, hcall, -⟩ := h.call
  exact ⟨⟨_, h.tool⟩, .inr ⟨flags, hflags⟩, ⟨_, hcall, .inr ⟨fields, rfl⟩⟩⟩

/-- With loaded settings the use is decided, or it comes to a crossed match. -/
theorem answers (h : r.Asks settings use) (hloaded : settings.Loaded) :
    (use.check settings.customModes).Answers (use.Crossed settings.customModes) :=
  ToolUse.check_answers h.wellStated fun _ _ hmeets => hloaded.sound.isPattern_of_meets hmeets

end CheckRequest.Asks

/-! ## The use that the command checks -/

theorem lookup_mapValues {α β : Type} (f : α → β) (fields : Fields α) (key : String) :
    (fields.mapValues f).lookup key = (fields.lookup key).map f := by
  unfold Fields.mapValues
  induction fields with
  | nil => rfl
  | cons field fields ih =>
    rw [List.map_cons, Fields.lookup_cons, ih, Fields.lookup_cons]
    split <;> rfl

theorem toFields_set {flags : FlagTable} (hflags : ∀ flag ∈ flags, flag.1.isStr = true)
    (name : String) (value : Json) :
    (flags.set (.str name) value).toFields = flags.toFields.set name value := by
  induction flags with
  | nil => rfl
  | cons flag flags ih =>
    obtain ⟨hflag, hrest⟩ := List.forall_mem_cons.mp hflags
    obtain ⟨⟨key, v⟩, rfl⟩ : ∃ f : Json × Json, f = flag := ⟨flag, rfl⟩
    obtain ⟨other, rfl⟩ : ∃ other, key = .str other := Json.exists_str hflag
    have hkey : ∀ s, (Json.str s).keyText = s := fun _ => rfl
    have hset := ih hrest
    unfold FlagTable.toFields at hset ⊢
    by_cases hname : other = name
    · simp [FlagTable.set, Fields.set, Json.same, hkey, hname]
    · simp [FlagTable.set, Fields.set, Json.same, hkey, hname, hset]

theorem isStr_set {flags : FlagTable} (hflags : ∀ flag ∈ flags, flag.1.isStr = true)
    (name : String) (value : Json) :
    ∀ flag ∈ flags.set (.str name) value, flag.1.isStr = true := by
  induction flags with
  | nil => exact List.forall_mem_singleton.mpr rfl
  | cons flag flags ih =>
    obtain ⟨hflag, hrest⟩ := List.forall_mem_cons.mp hflags
    unfold FlagTable.set
    split
    · exact List.forall_mem_cons.mpr ⟨hflag, hrest⟩
    · exact List.forall_mem_cons.mpr ⟨hflag, ih hrest⟩

/-- Switching experiments on sets their flags and no others. -/
theorem lookup_switchOn (names : List String) (key : String) :
    ∀ {flags : FlagTable}, (∀ flag ∈ flags, flag.1.isStr = true) →
      (switchOn flags names).toFields.lookup key =
        if key ∈ names then some (.bool true) else flags.toFields.lookup key := by
  induction names with
  | nil => intro flags _; simp [switchOn]
  | cons name names ih =>
    intro flags hflags
    have hrest := ih (isStr_set hflags name (.bool true))
    rw [toFields_set hflags, Fields.lookup_set] at hrest
    refine hrest.trans ?_
    by_cases hkey : key = name <;> simp [hkey]

theorem entry?_turnedOff (names : List String) (name : String) :
    Requirements.entry? (.str name) (names.map fun name => (.str name, false)) =
      if name ∈ names then some false else none := by
  induction names with
  | nil => rfl
  | cons other names ih =>
    unfold Requirements.entry? at ih ⊢
    by_cases hname : other = name
    · simp [hname, Json.same]
    · have hne : name ≠ other := Ne.symm hname
      simpa [hname, hne, Json.same] using ih

theorem requirements_required {q : Requirements} (h : r.requirements = .ok q) : r.Requires q := by
  unfold CheckRequest.requirements at h
  cases hoff : r.noTools with
  | true =>
    obtain rfl : Requirements.allOff = q := by simpa [hoff] using h
    exact hoff
  | false =>
    by_cases hmissing : none ∈ r.disabled
    · rw [hoff, givenNames_missing hmissing] at h
      exact absurd h (by simp [Functor.map, Except.map])
    obtain ⟨names, hnames⟩ := exists_names hmissing
    rw [hoff, hnames, givenNames_some] at h
    obtain rfl : Requirements.turningOff names = q := Except.ok.inj h
    cases names with
    | nil => exact ⟨hoff, hnames⟩
    | cons name names =>
      refine ⟨hoff, by simp [hnames], fun other => ?_⟩
      rw [entry?_turnedOff, hnames]
      simp

/-- The slug that is given, or else that of the settings; a decision takes `code` if both are
empty. -/
theorem slug_eq_str {mode : String} (hmode : settings.mode = .str mode) :
    ∃ given, r.slug settings = .str given ∧
      [r.mode.getD "", mode, "code"].find? (· ≠ "") = some (if given = "" then "code" else given) := by
  have hslug : r.slug settings =
      .str (if r.mode.getD "" = "" then mode else r.mode.getD "") := by
    unfold CheckRequest.slug
    rw [hmode]
    cases r.mode with
    | none => rfl
    | some slug => by_cases hempty : slug = "" <;> simp [Json.orElse, Json.truthy, hempty]
  refine ⟨_, hslug, ?_⟩
  by_cases hgiven : r.mode.getD "" = ""
  · by_cases hempty : mode = "" <;> simp [hgiven, hempty]
  · simp [hgiven]

theorem asks_toolUse (hloaded : settings.Loaded) {pairs : List (String × String)}
    (hgiven : Given r.params pairs) {names : List String} (hnames : r.experiments = names.map some)
    {q : Requirements} (hrequired : r.requirements = .ok q) :
    r.Asks settings ((Profile.ofSettings
      { settings with experiments := switchOn settings.experiments names }).toolUse (.str r.tool)
        (r.slug settings) (.raw (.obj ((Fields.ofList pairs).mapValues .str))) q) where
  tool := rfl
  slug := by
    obtain ⟨mode, hmode⟩ := hloaded.mode
    obtain ⟨given, hslug, hfind⟩ := slug_eq_str (r := r) hmode
    refine ⟨mode, _, hmode, hfind, ?_⟩
    show (r.slug settings).orElse Mode.fallbackSlug = _
    rw [hslug]
    by_cases hempty : given = ""
    · rw [hempty]
      rfl
    · simp [Json.orElse, Json.truthy, hempty]
  requirements := requirements_required hrequired
  call := by
    refine ⟨pairs, _, hgiven, rfl, fun key => ?_⟩
    rw [lookup_mapValues, Fields.lookup_ofList]
  experiments := by
    refine ⟨_, rfl, fun name => ?_⟩
    have hlookup := lookup_switchOn names name hloaded.names
    simpa [hnames, Profile.ofSettings] using hlookup

/-! ## How the command ends -/

open Console.Markup (ClosesBetween isBracket)

/-- What keeps the command from reporting: an option was given no text that it needs, the use comes to
a crossed match, or it is denied and the line that would say so holds a tag that closes nothing. -/
inductive CheckRequest.Stops (r : CheckRequest) (settings : Settings) : Prop where
  | experiment (h : none ∈ r.experiments)
  | parameter (h : FirstNotGiven r.params none)
  | disabled (hparams : ∃ pairs, Given r.params pairs) (hoff : r.noTools = false)
      (h : none ∈ r.disabled)
  | crossed (use : ToolUse) (h : r.Asks settings use) (hcrossed : use.Crossed settings.customModes)
  | markup (use : ToolUse) (slug : String) (why : Denial) (h : r.Asks settings use)
      (hslug : use.slug = .str slug)
      (hdenied : (use.check settings.customModes).result = .ok (.denied why))
      (hmarkup : ClosesBetween r.tool slug)

theorem checkTool_experiment (h : none ∈ r.experiments) :
    (checkTool settings r).result = .error (.misuse .unsuitable) := by
  have hprofile : r.profile settings = .error .unsuitable := by
    unfold CheckRequest.profile
    rw [givenNames_missing h]
    rfl
  unfold checkTool
  rw [Report.result_bind, Report.result_lift_misuse, hprofile]
  rfl

variable {names : List String} {pairs : List (String × String)}

theorem profile_named (hnames : r.experiments = names.map some) :
    r.profile settings = .ok (.ofSettings
      { settings with experiments := switchOn settings.experiments names }) := by
  unfold CheckRequest.profile
  rw [hnames, givenNames_some]
  rfl

theorem checkTool_missing (hnames : r.experiments = names.map some)
    (h : FirstNotGiven r.params none) :
    (checkTool settings r).result = .error (.misuse .fieldless) := by
  unfold checkTool
  rw [Report.result_bind, Report.result_lift_misuse, profile_named hnames, parseGivenPairs_missing h]
  rfl

theorem checkTool_malformed (settings : Settings) (hnames : r.experiments = names.map some)
    {text : String} (h : FirstNotGiven r.params (some text)) :
    ∃ lines, (checkTool settings r).result = .ok { status := statusUsage, lines } := by
  obtain ⟨lines, hlines⟩ := errorLines_succeed (BadValue.parameter text).message
  refine ⟨lines, ?_⟩
  unfold checkTool
  rw [Report.result_bind, Report.result_lift_misuse, profile_named hnames, parseGivenPairs_malformed h]
  simp [hlines]

theorem checkTool_given (hnames : r.experiments = names.map some) (hgiven : Given r.params pairs) :
    (checkTool settings r).result = (r.requirements.mapError Failure.misuse).bind fun q =>
      (((Profile.ofSettings
        { settings with experiments := switchOn settings.experiments names }).toolUse (.str r.tool)
          (r.slug settings) (.raw (.obj ((Fields.ofList pairs).mapValues .str))) q).check
            settings.customModes).result.bind fun decision =>
        (decisionLines r.tool (r.slug settings).plain decision).bind fun lines =>
          .ok { status := decisionStatus decision, lines } := by
  unfold checkTool
  rw [Report.result_bind, Report.result_lift_misuse, profile_named hnames,
    parseGivenPairs_given hgiven]
  simp [Profile.check, Profile.ofSettings]

theorem exists_requirements (h : r.noTools = true ∨ none ∉ r.disabled) :
    ∃ q, r.requirements = .ok q := by
  unfold CheckRequest.requirements
  cases hoff : r.noTools with
  | true => exact ⟨.allOff, by simp⟩
  | false =>
    obtain ⟨names, hnames⟩ := exists_names (h.resolve_left (by simp [hoff]))
    exact ⟨.turningOff names, by rw [hnames, givenNames_some]; rfl⟩

/-- The command decides on any use that the request asks about, and shows the decision. -/
theorem checkTool_asked (hloaded : settings.Loaded) (h : r.Asks settings use)
    (hexperiments : none ∉ r.experiments) (hdisabled : r.noTools = true ∨ none ∉ r.disabled) :
    (checkTool settings r).result = (use.check settings.customModes).result.bind fun decision =>
      (decisionLines r.tool (r.slug settings).plain decision).bind fun lines =>
        .ok { status := decisionStatus decision, lines } := by
  obtain ⟨names, hnames⟩ := exists_names hexperiments
  obtain ⟨pairs, -, hgiven, -⟩ := h.call
  obtain ⟨q, hrequired⟩ := exists_requirements hdisabled
  rw [checkTool_given hnames hgiven, hrequired, mapError_ok, ok_bind,
    (asks_toolUse hloaded hgiven hnames hrequired).check_eq h]

/-- No closing tag ends in a slug that stands for another one. -/
theorem closesBetween_slug (h : r.Asks settings use) {slug : String} (hslug : use.slug = .str slug)
    (tool : String) :
    ClosesBetween tool (r.slug settings).plain ↔ ClosesBetween tool slug := by
  obtain ⟨mode, found, hmode, hfind, hfound⟩ := h.slug
  obtain ⟨given, hgiven, hfind'⟩ := slug_eq_str (r := r) hmode
  obtain rfl : found = slug := Json.str.inj (hfound.symm.trans hslug)
  obtain rfl := Option.some.inj (hfind.symm.trans hfind')
  have hplain : (r.slug settings).plain = given := by rw [hgiven]; rfl
  rw [hplain]
  by_cases hempty : given = ""
  · -- neither the empty slug nor `code` has a bracket
    have hnone : ∀ s : String, ']' ∉ s.toList → ¬ ClosesBetween tool s := by
      rintro s hs ⟨before, name, more, after, -, hs', -⟩
      exact hs (by simp [hs'])
    rw [hempty]
    exact iff_of_false (hnone _ (by simp)) (hnone _ (by simp))
  · rw [if_neg hempty]

/-- Tools that are granted have plain names. -/
theorem plain_of_allowed (h : r.Asks settings use) {group : Option ToolGroup} {custom : List Mode}
    (hallowed : (use.check custom).result = .ok (.allowed group)) : '[' ∉ r.tool.toList := by
  have halways : ∀ name ∈ alwaysAvailableTools, '[' ∉ name.toList := by decide
  have hgroup : ∀ g : ToolGroup, ∀ name ∈ g.tools, '[' ∉ name.toList := by
    intro g
    cases g <;> decide
  rcases (ToolUse.check_granted_iff h.tool hallowed).mp trivial with
    hmem | ⟨-, m, -, entry, -, hmem⟩
  · exact halways _ hmem
  · exact hgroup _ _ hmem

/-- The tools that are turned off have names, if that matters and nothing stops the command. -/
theorem Given.names_of_runs (h : Given r.params pairs) (hruns : ¬ r.Stops settings) :
    r.noTools = true ∨ none ∉ r.disabled := by
  by_contra hnot
  obtain ⟨hoff, hmissing⟩ : r.noTools = false ∧ none ∈ r.disabled := by simpa using hnot
  exact hruns (.disabled ⟨pairs, h⟩ hoff hmissing)

theorem checkTool_reports (hloaded : settings.Loaded) (h : r.Asks settings use)
    (hruns : ¬ r.Stops settings) : ∃ decision lines,
      (use.check settings.customModes).result = .ok decision ∧
      (checkTool settings r).result = .ok { status := decisionStatus decision, lines } := by
  obtain ⟨pairs, -, hgiven, -⟩ := h.call
  have hresult := checkTool_asked hloaded h (fun hmissing => hruns (.experiment hmissing))
    (hgiven.names_of_runs hruns)
  obtain ⟨decision, hdecision⟩ := (h.answers hloaded).answer fun hcrossed =>
    hruns (.crossed use h hcrossed)
  have hlines : ∃ lines, decisionLines r.tool (r.slug settings).plain decision = .ok lines := by
    cases decision with
    | allowed group => exact decisionLines_allowed (plain_of_allowed h hdecision) _ group
    | violation v => exact decisionLines_violation _ _ v
    | denied why =>
      obtain ⟨mode, slug, -, -, hslug⟩ := h.slug
      refine decisionLines_denied (fun hcloses => ?_) why
      exact hruns (.markup use slug why h hslug hdecision ((closesBetween_slug h hslug _).mp hcloses))
  obtain ⟨lines, hlines⟩ := hlines
  exact ⟨decision, lines, hdecision, by rw [hresult, hdecision, ok_bind, hlines, ok_bind]⟩

theorem checkTool_disabled (hnames : r.experiments = names.map some) (hgiven : Given r.params pairs)
    (hoff : r.noTools = false) (h : none ∈ r.disabled) :
    (checkTool settings r).result = .error (.misuse .unsuitable) := by
  have hrequired : r.requirements = .error .unsuitable := by
    unfold CheckRequest.requirements
    rw [hoff, givenNames_missing h]
    rfl
  rw [checkTool_given hnames hgiven, hrequired]
  rfl

theorem checkTool_stops (hloaded : settings.Loaded) (h : r.Stops settings) :
    ∃ why, (checkTool settings r).result = .error why ∧ explain why = .error why := by
  by_cases hexperiment : none ∈ r.experiments
  · exact ⟨_, checkTool_experiment hexperiment, rfl⟩
  obtain ⟨names, hnames⟩ := exists_names hexperiment
  have hparams : FirstNotGiven r.params none ∨ ∃ pairs, Given r.params pairs := by
    cases h with
    | experiment h => exact absurd h hexperiment
    | parameter h => exact .inl h
    | disabled h => exact .inr h
    | crossed use h => exact .inr (h.call.imp fun pairs ⟨_, hgiven, _⟩ => hgiven)
    | markup use slug why h => exact .inr (h.call.imp fun pairs ⟨_, hgiven, _⟩ => hgiven)
  rcases hparams with hmissing | ⟨pairs, hgiven⟩
  · exact ⟨_, checkTool_missing hnames hmissing, rfl⟩
  by_cases hdisabled : r.noTools = true ∨ none ∉ r.disabled
  swap
  · obtain ⟨hoff, hmissing⟩ : r.noTools = false ∧ none ∈ r.disabled := by simpa using hdisabled
    exact ⟨_, checkTool_disabled hnames hgiven hoff hmissing, rfl⟩
  cases h with
  | experiment h => exact absurd h hexperiment
  | parameter h => exact absurd h (hgiven.not_firstNotGiven none)
  | disabled _ hoff hmissing => exact absurd hdisabled (by simp [hoff, hmissing])
  | crossed use h hcrossed =>
    refine ⟨.crossedGroup, ?_, rfl⟩
    rw [checkTool_asked hloaded h hexperiment hdisabled, (h.answers hloaded).stop hcrossed, error_bind]
  | markup use slug why h hslug hdenied hmarkup =>
    have hcloses := (closesBetween_slug h hslug _).mpr hmarkup
    obtain ⟨stray, hstray⟩ := decisionLines_denied_stray hcloses why
    refine ⟨.strayTag stray, ?_, rfl⟩
    rw [checkTool_asked hloaded h hexperiment hdisabled, hdenied, ok_bind, hstray, error_bind]

/-- The request is about some use, if the parameters are there and none is malformed. -/
theorem exists_asks (hloaded : settings.Loaded) (hruns : ¬ r.Stops settings)
    (hgiven : Given r.params pairs) : ∃ use, r.Asks settings use := by
  obtain ⟨names, hnames⟩ := exists_names fun hmissing => hruns (.experiment hmissing)
  obtain ⟨q, hrequired⟩ := exists_requirements (hgiven.names_of_runs hruns)
  exact ⟨_, asks_toolUse hloaded hgiven hnames hrequired⟩

/-- The status tells what was decided: 0 that the call is allowed, 1 that it is denied, and 2 that it
edits a file outside the permitted ones. -/
structure Reports (outcome : Outcome) (result : Except Failure Decision) : Prop where
  allowed : outcome.status = 0 ↔ ∃ group, result = .ok (.allowed group)
  denied : outcome.status = 1 ↔ ∃ why, result = .ok (.denied why)
  violation : outcome.status = 2 ↔ ∃ v, result = .ok (.violation v)
  decided : outcome.status ∈ [0, 1, 2]

theorem reports_decision (decision : Decision) (lines : List String) :
    Reports { status := decisionStatus decision, lines } (.ok decision) := by
  refine ⟨?_, ?_, ?_, ?_⟩ <;> cases decision <;>
    simp [decisionStatus, statusAllowed, statusDenied, statusViolation]

theorem checkTool_ends (hloaded : settings.Loaded) (r : CheckRequest) :
    EndsUnless (r.Stops settings) (checkTool settings r) := by
  refine ⟨fun hruns => ?_, fun hstops => ?_⟩
  · rcases given_or_not r.params with ⟨pairs, hgiven⟩ | ⟨param, hfirst⟩
    · obtain ⟨use, hasks⟩ := exists_asks hloaded hruns hgiven
      obtain ⟨decision, lines, -, hresult⟩ := checkTool_reports hloaded hasks hruns
      refine ⟨_, recover_ok hresult, ?_⟩
      cases decision <;> simp [decisionStatus]
    · cases param with
      | none => exact absurd (.parameter hfirst) hruns
      | some text =>
        obtain ⟨names, hnames⟩ := exists_names fun hmissing => hruns (.experiment hmissing)
        obtain ⟨lines, hresult⟩ := checkTool_malformed settings hnames hfirst
        exact ⟨_, recover_ok hresult, by simp⟩
  · obtain ⟨why, hresult, hwhy⟩ := checkTool_stops hloaded hstops
    exact ⟨why, (recover_error hresult).trans hwhy⟩

/-- A call whose tool and slug are brackets of one closing tag. -/
def bracketedCheck : CheckRequest := { tool := "[/a", mode := some "b]" }

/-- The arguments of that call. -/
def bracketedArguments : List String := ["check", "[/a", "--mode", "b]"]

/-- The use that it asks about. -/
def bracketedUse : ToolUse :=
  { tool := .str "[/a", slug := .str "b]", call := .raw (.obj []), experiments := .obj [] }

end CommandLine

end ModePolicy
