import ModePolicy.Proofs.CommandLine.Checking
import ModePolicy.Proofs.Instructions.Sections
import ModePolicy.Proofs.Mode.Grammar
import ModePolicy.Proofs.Mode.Overrides

/-!
# How runs end

A run that is asked for a command ends with a status, unless its settings file stops it (`Stops`) or its
command does (`CommandStops`): a denial cannot be reported, a mode cannot be listed because its name or
its grants are read as markup, or it cannot be shown because an override gives it instructions that are
no text.

> `run_ends_with_status`: a run ends with one of the four statuses exactly if nothing stops it
> (`RunStops`), and with the status 3 if its settings file is rejected.

Each command is told by one lemma (`listModes_ends`, `showMode_ends`, `checkTool_ends`), which says of
all settings that can be loaded when it ends and what stops it.
-/

namespace ModePolicy.CommandLine

open Console.Markup

variable {settings : Settings} {s : Surroundings}

/-! ## Listing the modes -/

theorem displayTable_succeeds_iff {header : List String} {rows : List (List String)} :
    (∃ table, Console.displayTable header rows = .ok table) ↔
      ∀ row ∈ header :: rows, ∀ cell ∈ row, Showable cell := by
  have hcell : ∀ cell, (∃ cs, (Console.clean <$> plain? cell) = .ok cs) ↔ Showable cell := by
    intro cell
    rw [showable_iff]
    cases plain? cell with
    | ok cs => exact iff_of_true ⟨_, rfl⟩ ⟨cs, rfl⟩
    | error stray => exact iff_of_false (by simp [Functor.map, Except.map]) (by simp)
  have hrows : (∃ cells, (header :: rows).mapM (fun row => row.mapM fun cell =>
      Console.clean <$> plain? cell) = .ok cells) ↔
      ∀ row ∈ header :: rows, ∀ cell ∈ row, Showable cell := by
    rw [exists_mapM_iff]
    refine forall₂_congr fun row _ => ?_
    rw [exists_mapM_iff]
    exact forall₂_congr fun cell _ => hcell cell
  rw [← hrows]
  unfold Console.displayTable
  constructor
  · rintro ⟨table, htable⟩
    obtain ⟨cells, hcells, -⟩ := bind_succeeds.mp htable
    exact ⟨cells, hcells⟩
  · rintro ⟨cells, hcells⟩
    exact ⟨_, by rw [hcells]; rfl⟩

/-- The name and the grants of a mode can be shown as they stand in the list. -/
def Listable (m : Mode) : Prop := Showable m.name.plain ∧ Showable (grantsText m)

theorem builtins_listable : ∀ m ∈ Mode.builtins, Listable m := by
  have hchecked : (Mode.builtins.all fun m => (strayFrom [] 0 m.name.plain.toList).isNone &&
      (strayFrom [] 0 (grantsText m).toList).isNone) = true := by
    decide +kernel
  intro m hm
  simpa [Listable, Showable] using List.all_eq_true.mp hchecked m hm

/-- Slugs hold no brackets. -/
theorem showable_slug {m : Mode} (h : m.Valid) : Showable m.slug.plain := by
  obtain ⟨slug, hslug, hplain⟩ := ModeFlaw.ofSlug_eq_nil.mp h.slug
  have hplainText : m.slug.plain = slug := by rw [hslug]; rfl
  rw [hplainText]
  refine strayFrom_eq_none fun hmem => ?_
  exact absurd (hplain.plain '[' hmem) (by decide)

variable {p : Profile}

theorem valid_of_listed (h : p.Sound) {m : Mode} (hm : m ∈ p.modes) : m.Valid := by
  rcases Mode.mem_resolved h.isStr hm with hcustom | hbuiltin
  · exact h.valid m hcustom
  · exact Mode.builtins_valid m hbuiltin

/-- Every custom mode is listed. -/
theorem listed_of_mem (h : p.Sound) {m : Mode} (hm : m ∈ p.customModes) : m ∈ p.modes := by
  refine (h.listed_iff.mpr (Mode.find_eq_ok.mpr (?_ : Mode.find? m.slug p.customModes = some m))).1
  rw [Mode.find?_eq_or]
  exact (Profile.find?_or_builtin h).mpr (.inl ⟨hm, rfl⟩)

/-- The table of modes can be shown exactly if every custom mode can be shown in it. -/
theorem rows_showable_iff (h : p.Sound) :
    (∃ table, Console.displayTable ["Slug", "Name", "Groups", "Source"] (p.modes.map (modeRow p))
      = .ok table) ↔ ∀ m ∈ p.customModes, Listable m := by
  have hheader : ∀ cell ∈ ["Slug", "Name", "Groups", "Source"], Showable cell := by
    simp only [List.forall_mem_cons, List.not_mem_nil, false_imp_iff, implies_true, and_true]
    exact ⟨rfl, rfl, rfl, rfl⟩
  have hrow : ∀ m ∈ p.modes, (∀ cell ∈ modeRow p m, Showable cell) ↔ Listable m := by
    intro m hm
    have hsource : Showable (if p.isCustom m.slug then "custom" else "built-in") := by
      split <;> rfl
    simp only [modeRow, List.forall_mem_cons, List.not_mem_nil, false_imp_iff, implies_true,
      hsource, showable_slug (valid_of_listed h hm), true_and, and_true, Listable]
  rw [displayTable_succeeds_iff, List.forall_mem_cons, List.forall_mem_map]
  constructor
  · rintro ⟨-, hrows⟩ m hm
    have hlisted := listed_of_mem h hm
    exact (hrow m hlisted).mp (hrows m hlisted)
  · intro hcustom
    refine ⟨hheader, fun m hm => (hrow m hm).mpr ?_⟩
    rcases Mode.mem_resolved h.isStr hm with hmem | hbuiltin
    · exact hcustom m hmem
    · exact builtins_listable m hbuiltin

theorem listModes_ends (h : p.Sound) :
    EndsUnless (∃ m ∈ p.customModes, ¬ Listable m) (liftM (listModes p)) := by
  refine ⟨fun hruns => ?_, fun hstops => ?_⟩
  · obtain ⟨table, htable⟩ := (rows_showable_iff h).mpr fun m hm =>
      by_contra fun hnot => hruns ⟨m, hm, hnot⟩
    refine ⟨{ status := statusAllowed, lines := ["Modes"], table }, recover_ok ?_, by simp⟩
    rw [Report.result_lift, listModes, htable]
    rfl
  · obtain ⟨m, hm, hnot⟩ := hstops
    cases htable : Console.displayTable ["Slug", "Name", "Groups", "Source"]
        (p.modes.map (modeRow p)) with
    | ok table => exact absurd ((rows_showable_iff h).mp ⟨table, htable⟩ m hm) hnot
    | error stray =>
      have hresult : (liftM (listModes p) : Report Outcome).result = .error (.strayTag stray) := by
        rw [Report.result_lift, listModes, htable]
        rfl
      exact ⟨_, recover_error hresult⟩

/-! ## Showing a mode -/

/-- The instructions of a mode under an override are a text, unless the override sets another
value. -/
theorem instructions_isStr_iff {own set : Json} (hown : own.isOptionalStr = true) :
    ((set.orElse own).orElse (.str "")).isStr = true ↔ (set.truthy = true → set.isStr = true) := by
  have htext : ∀ v : Json, v.isOptionalStr = true → (v.orElse (.str "")).isStr = true := by
    intro v hv
    rcases Json.isOptionalStr_cases hv with rfl | ⟨text, rfl⟩
    · rfl
    · by_cases hempty : text = "" <;> simp [Json.orElse, Json.truthy, Json.isStr, hempty]
  cases hset : set.truthy with
  | true =>
    have hkept : (set.orElse own).orElse (.str "") = set := by simp [Json.orElse, hset]
    simp [hkept]
  | false =>
    have hdropped : set.orElse own = own := by simp [Json.orElse, hset]
    simp [hdropped, htext own hown]

/-- The instructions that a mode is shown with, before they are extended. -/
def shownInstructions (p : Profile) (slug : String) (m : Mode) : Json :=
  (((p.prompts.lookup slug).getD {}).instructions.orElse m.instructions).orElse (.str "")

theorem shownInstructions_isStr_iff {m : Mode} (hm : m.instructions.isOptionalStr = true)
    (p : Profile) (slug : String) :
    (shownInstructions p slug m).isStr = true ↔ ¬ ∃ override, p.prompts.lookup slug = some override ∧
      override.instructions.truthy = true ∧ override.instructions.isStr = false := by
  unfold shownInstructions
  rw [instructions_isStr_iff hm]
  cases p.prompts.lookup slug with
  | none => simp [Json.truthy]
  | some override => simp

/-- What the instructions of a mode are extended to where it is shown. -/
def shownExtended (s : Surroundings) (p : Profile) (slug : String) (m : Mode)
    (workspace language : Option String) : Report Json :=
  extendInstructions (Instructions.aggregate s.files s.globalRules) (.str slug)
    (shownInstructions p slug m) (contextOf workspace language)

variable {slug : String} {m : Mode} {workspace language : Option String}

/-- A mode that is found is shown if its instructions can be extended. -/
theorem showMode_found (hp : p.Sound) (hm : Mode.find? (.str slug) p.customModes = some m)
    (s : Surroundings) (workspace language : Option String) :
    (∀ text, (shownExtended s p slug m workspace language).result = .ok text →
      ∃ lines, (showMode s p slug workspace language).result =
        .ok { status := statusAllowed, lines }) ∧
    (∀ why, (shownExtended s p slug m workspace language).result = .error why →
      (showMode s p slug workspace language).result = .error why) := by
  have hfind : p.find (.str slug) = .ok m := Mode.find_eq_ok.mpr hm
  have hslug : m.slug = .str slug := (Mode.slug_of_lookup hp.isStr hm).2
  have htools : p.toolsFor m.slug = .ok m.tools := by
    rw [Profile.toolsFor, hslug, hfind]
    rfl
  have hprompt : (PromptTable.read p.prompts).find? (.str slug) = .ok (p.prompts.lookup slug) := rfl
  have heffective : (p.effective (.str slug) (contextOf workspace language)
      (Instructions.aggregate s.files s.globalRules)).result =
      (shownExtended s p slug m workspace language).result.bind fun extended => .ok { m with
        role := ((p.prompts.lookup slug).getD {}).role.orElse m.role, instructions := extended } := by
    unfold Profile.effective Mode.effective
    simp only [Report.result_bind, Mode.result_findOrFallback, hm, Option.getD_some, ok_bind,
      Report.result_lift_misuse, hprompt, mapError_ok]
    rfl
  have hshow : (showMode s p slug workspace language).result =
      (p.effective (.str slug) (contextOf workspace language)
        (Instructions.aggregate s.files s.globalRules)).result.bind fun shown =>
          (p.toolsFor shown.slug).bind fun tools => (modeLines shown tools).bind fun lines =>
            .ok { status := statusAllowed, lines } := by
    unfold showMode
    rw [hfind]
    simp
  constructor
  · intro text htext
    obtain ⟨lines, hlines⟩ := modeLines_succeed { m with
      role := ((p.prompts.lookup slug).getD {}).role.orElse m.role, instructions := text } m.tools
    refine ⟨lines, ?_⟩
    rw [hshow, heffective, htext, ok_bind, ok_bind, htools, ok_bind, hlines, ok_bind]
  · intro why hwhy
    rw [hshow, heffective, hwhy, error_bind, error_bind]

/-- Without a directory the instructions stay as they are. -/
theorem shownExtended_nowhere (h : ∀ path ∈ workspace, path = "") :
    (shownExtended s p slug m workspace language).result = .ok (shownInstructions p slug m) := by
  have hcontext : contextOf workspace language = none := by
    cases workspace with
    | none => rfl
    | some path => simp [contextOf, h path rfl]
  unfold shownExtended
  rw [hcontext]
  rfl

/-- In a directory, instructions that are a text are extended by what the files say, if the system sees
the paths; otherwise that is a failure that is shown. Other instructions stop the run. -/
theorem shownExtended_somewhere (hfiles : s.files.root.IsTree) {path : String} (hpath : path ≠ "")
    (p : Profile) (slug : String) (m : Mode) (language : Option String) :
    (¬ Rules.SeesAll s.files s.globalRules (.ofString path) slug → ∃ why,
      (shownExtended s p slug m (some path) language).result = .error (.unreadable why)) ∧
    (Rules.SeesAll s.files s.globalRules (.ofString path) slug →
      ((shownInstructions p slug m).isStr = true → ∃ text,
        (shownExtended s p slug m (some path) language).result = .ok text) ∧
      ((shownInstructions p slug m).isStr = false →
        (shownExtended s p slug m (some path) language).result = .error (.misuse .fieldless))) := by
  have hextended : (shownExtended s p slug m (some path) language).result =
      (Instructions.aggregate s.files s.globalRules
        { instructions := shownInstructions p slug m, globalInstructions := .str "",
          workspace := .str path, slug := .str slug,
          language := (language.map .str).getD .null }).result := by
    have hcontext : contextOf (some path) language =
        some { workspace := .str path, language := (language.map Json.str).getD .null } := by
      simp [contextOf, hpath]
    unfold shownExtended extendInstructions
    rw [hcontext]
    simp [Json.truthy, hpath, Json.orElse, Json.plain]
  have haggregate : (shownExtended s p slug m (some path) language).result =
      (Instructions.loadRules s.files s.globalRules (.ofString path) (.str slug)).result.bind
        fun loaded => ((Instructions.requireText (shownInstructions p slug m)).mapError .misuse).bind
          fun text => .ok (.str (Instructions.ofSections
            (Instructions.languageSection ((language.map .str).getD .null) ++
              Instructions.textSection "Global Instructions" "" ++
              Instructions.textSection "Mode-specific Instructions" text ++
              Instructions.rulesSection (loaded.1 ++ loaded.2)))) := by
    rw [hextended]
    unfold Instructions.aggregate
    simp [Instructions.requirePath, Instructions.requireText]
  rw [haggregate]
  refine ⟨fun hunseen => ?_, fun hsees => ⟨fun htext => ?_, fun hother => ?_⟩⟩
  · obtain ⟨p, -, hload⟩ := Instructions.loadRules_stops hfiles hunseen
    exact ⟨_, by rw [hload, error_bind]⟩
  · obtain ⟨modeRules, globals, locals, -, hload⟩ := Instructions.loadRules_loads hfiles hsees
    obtain ⟨text, htext⟩ := Json.exists_str htext
    exact ⟨_, by rw [hload, ok_bind, htext]; rfl⟩
  · obtain ⟨modeRules, globals, locals, -, hload⟩ := Instructions.loadRules_loads hfiles hsees
    rw [hload, ok_bind]
    cases hinstructions : shownInstructions p slug m with
    | str text => exact absurd hother (by simp [hinstructions, Json.isStr])
    | _ => rfl

/-- What keeps a mode from being shown: it is shown in a directory whose rules are loaded, and the
override for its slug sets instructions that are no text. -/
structure ShowStops (s : Surroundings) (p : Profile) (slug : String) (workspace : Option String) :
    Prop where
  found : ∃ m, Mode.find? (.str slug) p.customModes = some m
  directory : ∃ path, workspace = some path ∧ path ≠ "" ∧
    Rules.SeesAll s.files s.globalRules (.ofString path) slug
  override : ∃ override, p.prompts.lookup slug = some override ∧
    override.instructions.truthy = true ∧ override.instructions.isStr = false

/-- A mode that there is not is an error that is shown. -/
theorem showMode_unknown (hm : Mode.find? (.str slug) p.customModes = none) :
    ∃ lines, (showMode s p slug workspace language).result =
      .ok { status := statusUsage, lines } := by
  have hfind : p.find (.str slug) = .error (.modeNotFound (.str slug)) := by
    unfold Profile.find Mode.find
    rw [hm]
  obtain ⟨lines, hlines⟩ := errorLines_succeed (Failure.modeNotFound (.str slug)).message
  refine ⟨lines, ?_⟩
  unfold showMode
  rw [hfind]
  simp [hlines]

/-- Showing a mode ends with a status unless its override stops it. -/
theorem showMode_ends (hfiles : s.files.root.IsTree) (hp : p.Sound) :
    EndsUnless (ShowStops s p slug workspace) (showMode s p slug workspace language) := by
  cases hm : Mode.find? (.str slug) p.customModes with
  | none =>
    obtain ⟨lines, hlines⟩ := showMode_unknown hm
    refine .of_ok (fun hstops => ?_) hlines (by simp)
    obtain ⟨m, hfound⟩ := hstops.found
    exact absurd (hm.symm.trans hfound) (by simp)
  | some m =>
    obtain ⟨hshows, hfails⟩ := showMode_found hp hm s workspace language
    by_cases hnowhere : ∀ path ∈ workspace, path = ""
    · obtain ⟨lines, hlines⟩ := hshows _ (shownExtended_nowhere hnowhere)
      refine .of_ok (fun hstops => ?_) hlines (by simp)
      obtain ⟨path, hpath, hne, -⟩ := hstops.directory
      exact hne (hnowhere path hpath)
    obtain ⟨path, hworkspace, hpath⟩ : ∃ path, workspace = some path ∧ path ≠ "" := by
      simpa using hnowhere
    subst hworkspace
    obtain ⟨hunseen, hseen⟩ := shownExtended_somewhere hfiles hpath p slug m language
    by_cases hsees : Rules.SeesAll s.files s.globalRules (.ofString path) slug
    swap
    · obtain ⟨why, hwhy⟩ := hunseen hsees
      obtain ⟨lines, hlines⟩ := explain_shows (.inr (.inr ⟨why, rfl⟩))
      refine .of_shown (fun hstops => ?_) (hfails _ hwhy) hlines
      obtain ⟨path', hpath', -, hsees'⟩ := hstops.directory
      obtain rfl : path = path' := Option.some.inj hpath'
      exact hsees hsees'
    obtain ⟨htexts, hothers⟩ := hseen hsees
    have hother := shownInstructions_isStr_iff (hp.find?_valid hm).instructions p slug
    cases hstr : (shownInstructions p slug m).isStr with
    | true =>
      obtain ⟨text, hextended⟩ := htexts hstr
      obtain ⟨lines, hlines⟩ := hshows _ hextended
      exact .of_ok (fun hstops => hother.mp hstr hstops.override) hlines (by simp)
    | false =>
      have hoverride := not_not.mp (mt hother.mpr (by simp [hstr]))
      exact .of_error ⟨⟨m, hm⟩, ⟨path, rfl, hpath, hsees⟩, hoverride⟩ (hfails _ (hothers hstr)) rfl

/-! ## Runs -/

/-- What stops a command, given the settings: in the list of modes, a custom mode whose name or grants
hold a tag that closes nothing; and what keeps a mode from being shown and a decision from being
reported. -/
def CommandStops (s : Surroundings) (settings : Settings) : Command → Prop
  | .listModes => ∃ m ∈ settings.customModes, ¬ Listable m
  | .showMode slug workspace _ => ShowStops s (.ofSettings settings) slug workspace
  | .checkTool r => r.Stops settings

theorem commandReport_ends (hfiles : s.files.root.IsTree) (hloaded : settings.Loaded)
    (command : Command) : EndsUnless (CommandStops s settings command)
      (commandReport s settings command) := by
  cases command with
  | listModes => exact listModes_ends hloaded.sound
  | showMode slug workspace language => exact showMode_ends hfiles hloaded.sound
  | checkTool r => exact checkTool_ends hloaded r

/-- A run is stopped by its settings file, or by its command under the settings. -/
inductive RunStops (s : Surroundings) (request : Request) : Prop where
  | file (name : String) (hstate : request.state = some name) (hname : name ≠ "")
      (h : Stops s.files (.ofString name))
  | command (settings : Settings) (hload : (loadSettings s.files request.state).result = .ok settings)
      (h : CommandStops s settings request.command)

variable {arguments : List String} {request : Request}

theorem run_ends_or_stops (hfiles : s.files.root.IsTree)
    (hparse : parseArguments arguments = .ok request) :
    (¬ RunStops s request ∧ ∃ outcome, (run s arguments).result = .ok outcome
      ∧ outcome.status ∈ [statusAllowed, statusDenied, statusViolation, statusUsage]) ∨
    (RunStops s request ∧ ∃ why, (run s arguments).result = .error why) := by
  cases hload : (loadSettings s.files request.state).result with
  | ok settings =>
    have hends := commandReport_ends hfiles (loaded_of_loadSettings hload) request.command
    rw [result_run_loaded hparse hload]
    by_cases hstops : CommandStops s settings request.command
    · exact .inr ⟨.command settings hload hstops, hends.fails hstops⟩
    refine .inl ⟨fun hrun => ?_, hends.ends hstops⟩
    cases hrun with
    | file name hstate hname h =>
      obtain ⟨why, hwhy, -⟩ := loadSettings_stops hname h
      rw [hstate, hwhy] at hload
      exact absurd hload (by simp)
    | command settings' hload' h =>
      obtain rfl := Except.ok.inj (hload.symm.trans hload')
      exact hstops h
  | error why =>
    obtain ⟨name, hstate, hname⟩ := exists_name_of_unloaded hload
    rw [result_run_unloaded hparse hload]
    rw [hstate] at hload
    by_cases hstops : Stops s.files (.ofString name)
    · obtain ⟨why', hwhy, hunexplained⟩ := loadSettings_stops hname hstops
      obtain rfl := Except.error.inj (hload.symm.trans hwhy)
      exact .inr ⟨.file name hstate hname hstops, why, hunexplained⟩
    by_cases hrejected : Rejected s.files (.ofString name)
    swap
    · obtain ⟨settings, hsettings, -⟩ := loadSettings_loads hname hstops hrejected
      exact absurd (hload.symm.trans hsettings) (by simp)
    have hnul : (Path.ofString name).hasNul = false :=
      Bool.eq_false_iff.mpr fun h => hstops (.nul h)
    obtain ⟨why', lines, hwhy, hshown⟩ := loadSettings_rejected hname hnul hrejected
    obtain rfl := Except.error.inj (hload.symm.trans hwhy)
    refine .inl ⟨fun hrun => ?_, _, hshown, by simp⟩
    cases hrun with
    | file name' hstate' hname' h =>
      obtain rfl : name = name' := Option.some.inj (hstate.symm.trans hstate')
      exact hstops h
    | command settings hload' h =>
      rw [hstate, hload] at hload'
      exact absurd hload' (by simp)

/-- A settings file with a byte that no text begins with. -/
def latinTree : FileTree where
  root := .directory [("s.json", .file [0xFF])]

theorem latinTree_isTree : latinTree.root.IsTree := by
  repeat' apply FileNode.IsTree.entry
  all_goals first | exact .file _ | exact .empty | decide

/-- The modes under the settings of a file. -/
def listingArguments (file : String) : List String := ["modes", "--state", file]

/-- A run with that file and no rules. -/
def latinSurroundings : Surroundings where
  files := latinTree
  globalRules := .ofString "rules"

end ModePolicy.CommandLine
