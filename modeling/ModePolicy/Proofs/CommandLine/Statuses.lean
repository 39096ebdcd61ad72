import ModePolicy.Proofs.CommandLine.Ending

/-!
# What the statuses tell

The status 2 is that of an edit outside the permitted files, and the status 3 that of a command that
cannot be run. But wrong arguments end a run before there is a command, and they have a status of their
own, which is 2 as well.

> `status_two_iff`: a run ends with the status 2 exactly if its arguments are wrong
> (`WrongArguments`) or the call that it checks is a violation (`FindsViolation`). All wrong arguments
> end with it; what is wrong with a command that the arguments do make (`Unusable`) ends with the
> status 3.

Of the commands only the one that checks a call ends with the status 2 (`commandReport_status_two_iff`),
and a failure that is explained never does (`status_of_recover`).
-/

namespace ModePolicy.CommandLine

variable {settings : Settings} {s : Surroundings} {r : CheckRequest} {outcome : Outcome}

/-! ## The commands -/

theorem status_of_explain {why : Failure} (h : explain why = .ok outcome) :
    outcome.status = 3 := by
  have htitled : ∀ title, titled title why = .ok outcome → outcome.status = 3 := by
    intro title htitled
    obtain ⟨lines, -, hend⟩ := bind_succeeds.mp htitled
    cases hend
    rfl
  cases why with
  | badSettings | badMode | unreadable => exact htitled _ h
  | _ => exact absurd h (by simp [explain])

/-- An operation whose failures are explained has its own outcome or ends with the status 3. -/
theorem status_of_recover {x : Report Outcome} (h : (x.recover explain).result = .ok outcome) :
    x.result = .ok outcome ∨ outcome.status = 3 := by
  cases hx : x.result with
  | ok own => exact .inl ((recover_ok hx).symm.trans h)
  | error why => exact .inr (status_of_explain ((recover_error hx).symm.trans h))

theorem status_of_listModes {p : Profile} (h : listModes p = .ok outcome) : outcome.status = 0 := by
  obtain ⟨table, -, hend⟩ := bind_succeeds.mp h
  cases hend
  rfl

theorem status_of_showMode {p : Profile} {slug : String} {workspace language : Option String}
    (h : (showMode s p slug workspace language).result = .ok outcome) :
    outcome.status = 0 ∨ outcome.status = 3 := by
  unfold showMode at h
  split at h
  · obtain ⟨lines, -, hend⟩ := Report.bind_succeeds.mp h
    cases hend
    exact .inr rfl
  · obtain ⟨m, -, h⟩ := Report.bind_succeeds.mp h
    obtain ⟨tools, -, h⟩ := Report.bind_succeeds.mp h
    obtain ⟨lines, -, hend⟩ := Report.bind_succeeds.mp h
    cases hend
    exact .inl rfl

/-- A check ends with the status 2 exactly if a use that it asks about is a violation. -/
theorem checkTool_status_two_iff (hloaded : settings.Loaded)
    (h : ((checkTool settings r).recover explain).result = .ok outcome) :
    outcome.status = 2 ↔
      ∃ use v, r.Asks settings use ∧ (use.check settings.customModes).result = .ok (.violation v) := by
  have hruns : ¬ r.Stops settings := fun hstops => by
    obtain ⟨why, hwhy⟩ := (checkTool_ends hloaded r).fails hstops
    exact absurd (h.symm.trans hwhy) (by simp)
  rcases given_or_not r.params with ⟨pairs, hgiven⟩ | ⟨param, hfirst⟩
  · obtain ⟨use, hasks⟩ := exists_asks hloaded hruns hgiven
    obtain ⟨decision, lines, hdecision, hresult⟩ := checkTool_reports hloaded hasks hruns
    obtain rfl := Except.ok.inj ((recover_ok hresult).symm.trans h)
    rw [(reports_decision decision lines).violation]
    constructor
    · rintro ⟨v, hv⟩
      exact ⟨use, v, hasks, hdecision.trans hv⟩
    · rintro ⟨other, v, hother, hv⟩
      rw [hother.check_eq hasks, hdecision] at hv
      exact ⟨v, hv⟩
  · -- a parameter that is not well formed is reported, and no use is asked about
    have hnone : ¬ ∃ use v, r.Asks settings use ∧
        (use.check settings.customModes).result = .ok (.violation v) := by
      rintro ⟨use, v, hasks, -⟩
      obtain ⟨pairs, fields, hgiven, -⟩ := hasks.call
      exact hgiven.not_firstNotGiven param hfirst
    cases param with
    | none => exact absurd (.parameter hfirst) hruns
    | some text =>
      obtain ⟨names, hnames⟩ := exists_names fun hmissing => hruns (.experiment hmissing)
      obtain ⟨lines, hresult⟩ := checkTool_malformed settings hnames hfirst
      obtain rfl := Except.ok.inj ((recover_ok hresult).symm.trans h)
      exact iff_of_false (show ¬ statusUsage = 2 by decide) hnone

/-- **Only the command that checks a call ends with the status 2**, and only on a violation. -/
theorem commandReport_status_two_iff (hloaded : settings.Loaded) {command : Command}
    (h : ((commandReport s settings command).recover explain).result = .ok outcome) :
    outcome.status = 2 ↔ ∃ r use v, command = .checkTool r ∧ r.Asks settings use ∧
      (use.check settings.customModes).result = .ok (.violation v) := by
  cases command with
  | listModes =>
    refine iff_of_false (fun htwo => ?_) (by simp)
    rcases status_of_recover h with hown | hstatus
    · simp [status_of_listModes hown] at htwo
    · simp [hstatus] at htwo
  | showMode slug workspace language =>
    refine iff_of_false (fun htwo => ?_) (by simp)
    rcases status_of_recover h with hown | hstatus
    · rcases status_of_showMode hown with hstatus | hstatus <;> simp [hstatus] at htwo
    · simp [hstatus] at htwo
  | checkTool r =>
    rw [checkTool_status_two_iff hloaded h]
    simp

/-! ## The runs -/

/-- The arguments make no command, nor do they ask for help or the version. -/
def WrongArguments (arguments : List String) : Prop :=
  ∃ program why, parseArguments arguments = .error (.wrong program why)

/-- The arguments ask to check a call, and a use that they ask about is a violation. -/
inductive FindsViolation (s : Surroundings) (arguments : List String) : Prop where
  | intro (request : Request) (r : CheckRequest) (settings : Settings) (use : ToolUse)
      (v : PathViolation) (hparse : parseArguments arguments = .ok request)
      (hcommand : request.command = .checkTool r)
      (hload : (loadSettings s.files request.state).result = .ok settings)
      (hasks : r.Asks settings use)
      (hviolation : (use.check settings.customModes).result = .ok (.violation v))

/-- What users can mend in a command: the settings file is rejected, there is no mode of the slug that
is to be shown, or the first parameter that is not written from a key and a value is malformed. -/
inductive Unusable (s : Surroundings) (request : Request) : Prop where
  | file (name : String) (hstate : request.state = some name) (hname : name ≠ "")
      (hnul : (Path.ofString name).hasNul = false) (h : Rejected s.files (.ofString name))
  | mode (slug : String) (workspace language : Option String) (settings : Settings)
      (hcommand : request.command = .showMode slug workspace language)
      (hload : (loadSettings s.files request.state).result = .ok settings)
      (h : Mode.find? (.str slug) settings.customModes = none)
  | parameter (r : CheckRequest) (settings : Settings) (text : String)
      (hcommand : request.command = .checkTool r)
      (hload : (loadSettings s.files request.state).result = .ok settings)
      (hnamed : none ∉ r.experiments) (h : FirstNotGiven r.params (some text))

variable {arguments : List String} {request : Request}

theorem run_wrong {program : String} {why : UsageProblem}
    (h : parseArguments arguments = .error (.wrong program why)) :
    (run s arguments).result = .ok { status := 2, complaint := reportLine program why } := by
  unfold run
  rw [h]
  rfl

theorem run_unusable (hparse : parseArguments arguments = .ok request) (h : Unusable s request) :
    ∃ outcome, (run s arguments).result = .ok outcome ∧ outcome.status = 3 := by
  cases h with
  | file name hstate hname hnul h =>
    obtain ⟨why, lines, hwhy, hshown⟩ := loadSettings_rejected hname hnul h
    rw [← hstate] at hwhy
    exact ⟨_, (result_run_unloaded hparse hwhy).trans hshown, rfl⟩
  | mode slug workspace language settings hcommand hload h =>
    obtain ⟨lines, hlines⟩ : ∃ lines,
        (showMode s (.ofSettings settings) slug workspace language).result =
          .ok { status := statusUsage, lines } := showMode_unknown h
    have hrun : (run s arguments).result = .ok { status := statusUsage, lines } := by
      rw [result_run_loaded hparse hload, hcommand]
      exact recover_ok hlines
    exact ⟨_, hrun, rfl⟩
  | parameter r settings text hcommand hload hnamed h =>
    obtain ⟨names, hnames⟩ := exists_names hnamed
    obtain ⟨lines, hlines⟩ := checkTool_malformed settings hnames h
    have hrun : (run s arguments).result = .ok { status := statusUsage, lines } := by
      rw [result_run_loaded hparse hload, hcommand]
      exact recover_ok hlines
    exact ⟨_, hrun, rfl⟩

/-- A run that is asked for a command ends with the status 2 exactly if it finds a violation. -/
theorem run_status_two_iff (hparse : parseArguments arguments = .ok request)
    (h : (run s arguments).result = .ok outcome) :
    outcome.status = 2 ↔ FindsViolation s arguments := by
  cases hload : (loadSettings s.files request.state).result with
  | error why =>
    rw [result_run_unloaded hparse hload] at h
    refine iff_of_false (by simp [status_of_explain h]) fun hfinds => ?_
    obtain ⟨other, -, settings, -, -, hother, -, hloaded, -, -⟩ := hfinds
    obtain rfl := Except.ok.inj (hparse.symm.trans hother)
    exact absurd (hload.symm.trans hloaded) (by simp)
  | ok settings =>
    rw [result_run_loaded hparse hload] at h
    rw [commandReport_status_two_iff (loaded_of_loadSettings hload) h]
    constructor
    · rintro ⟨r, use, v, hcommand, hasks, hv⟩
      exact ⟨request, r, settings, use, v, hparse, hcommand, hload, hasks, hv⟩
    · rintro ⟨other, r, settings', use, v, hother, hcommand, hloaded, hasks, hv⟩
      obtain rfl := Except.ok.inj (hparse.symm.trans hother)
      obtain rfl := Except.ok.inj (hload.symm.trans hloaded)
      exact ⟨r, use, v, hcommand, hasks, hv⟩

/-- An edit of a program in the mode that writes notes. -/
def programCheck : CheckRequest where
  tool := "write_to_file"
  mode := some "architect"
  params := [some "path=a.py", some "content=x"]

/-- The arguments that ask to check it. -/
def programArguments : List String :=
  ["check", "write_to_file", "--mode", "architect", "--param", "path=a.py", "--param", "content=x"]

/-- The use that is asked about. -/
def programUse : ToolUse where
  tool := .str "write_to_file"
  slug := .str "architect"
  call := .raw (.obj [("content", .str "x"), ("path", .str "a.py")])
  experiments := .obj []

end ModePolicy.CommandLine
