import ModePolicy.Proofs.CommandLine.Lines
import ModePolicy.Proofs.Profile.Checks
import ModePolicy.Proofs.Text.Utf8

/-!
# The settings that a run loads

A run without a settings file, or with an empty name for one, has the default settings. With a file it
depends on what the file holds:

> `loadSettings_loads`, `loadSettings_rejected`, `loadSettings_stops`: the settings are loaded unless
> the file is rejected (`Rejected`: it cannot be read, holds no JSON, or data with flaws), which the
> run reports with a status, or loading stops in a way that no run deals with (`Stops`: the bytes are
> no text, an expression in the data cannot be judged, or the name has a NUL in it).

How a run ends is told in the same two words (`EndsUnless`): it ends with a status unless something
stops it, and then nothing it says is shown.
-/

namespace ModePolicy

/-! ## How operations end -/

namespace CommandLine

/-- The operation ends with one of the four statuses unless something stops it, and then it fails even
when failures that users can mend are dealt with. -/
structure EndsUnless (stops : Prop) (x : Report Outcome) : Prop where
  ends : ¬ stops → ∃ outcome, (x.recover explain).result = .ok outcome
    ∧ outcome.status ∈ [statusAllowed, statusDenied, statusViolation, statusUsage]
  fails : stops → ∃ why, (x.recover explain).result = .error why

section Recover

variable {x : Report Outcome} {stops : Prop}

theorem recover_ok {outcome : Outcome} (h : x.result = .ok outcome) :
    (x.recover explain).result = .ok outcome := by
  rw [Report.recover, h]

theorem recover_error {why : Failure} (h : x.result = .error why) :
    (x.recover explain).result = explain why := by
  rw [Report.recover, h]

/-- Failures that users can mend are shown, with the status of a command that cannot be run. -/
theorem explain_shows {why : Failure}
    (h : (∃ r, why = .badSettings r) ∨ (∃ r, why = .badMode r) ∨ ∃ e, why = .unreadable e) :
    ∃ lines, explain why = .ok { status := statusUsage, lines } := by
  rcases h with ⟨r, rfl⟩ | ⟨r, rfl⟩ | ⟨e, rfl⟩
  · exact titled_succeeds (by simp) _
  · exact titled_succeeds (by simp) _
  · exact titled_succeeds (by simp) _

theorem EndsUnless.of_ok {outcome : Outcome} (hruns : ¬ stops) (h : x.result = .ok outcome)
    (hstatus : outcome.status ∈ [statusAllowed, statusDenied, statusViolation, statusUsage]) :
    EndsUnless stops x :=
  ⟨fun _ => ⟨outcome, recover_ok h, hstatus⟩, fun hstops => absurd hstops hruns⟩

theorem EndsUnless.of_shown {why : Failure} {lines : List String} (hruns : ¬ stops)
    (h : x.result = .error why) (hshown : explain why = .ok { status := statusUsage, lines }) :
    EndsUnless stops x :=
  ⟨fun _ => ⟨_, (recover_error h).trans hshown, by simp⟩, fun hstops => absurd hstops hruns⟩

theorem EndsUnless.of_error {why : Failure} (hstops : stops) (h : x.result = .error why)
    (hwhy : explain why = .error why) : EndsUnless stops x :=
  ⟨fun hruns => absurd hstops hruns, fun _ => ⟨why, (recover_error h).trans hwhy⟩⟩

end Recover

end CommandLine

/-! ## Loaded settings -/

/-- Settings as a run can have them: the custom modes are valid and of distinct slugs, the mode is a
text, and the experiments have texts for names. -/
structure Settings.Loaded (settings : Settings) : Prop where
  sound : (Profile.ofSettings settings).Sound
  mode : ∃ slug, settings.mode = .str slug
  names : ∀ flag ∈ settings.experiments, flag.1.isStr = true

theorem Settings.loaded_default : Settings.Loaded {} :=
  ⟨⟨List.forall_mem_nil _, List.nodup_nil⟩, ⟨"code", rfl⟩, List.forall_mem_nil _⟩

/-- Imported settings are such settings. -/
theorem Settings.loaded_of_ofText {text : String} {settings : Settings}
    (h : (ofText text).result = .ok settings) : settings.Loaded := by
  have hsound := Profile.sound_ofSettings h
  obtain ⟨data, -, hflawless, hread⟩ := ofText_succeeds.mp h
  cases data with
  | obj fields =>
    obtain ⟨-, hmode, hmodes, hprompts, hexperiments⟩ := flaws_obj_eq_nil.mp hflawless
    obtain ⟨items, modes, hitems, hmodes⟩ := SettingsFlaw.ofModes_eq_nil.mp hmodes
    obtain ⟨entries, hentries, hprompts⟩ := SettingsFlaw.ofPrompts_eq_nil.mp hprompts
    obtain ⟨flags, hflags, -⟩ := SettingsFlaw.ofExperiments_eq_nil.mp hexperiments
    obtain ⟨prompts, hoverrides, -⟩ := readPrompts_objects entries fun e he =>
      SettingsFlaw.obj_of_ofPrompt (hprompts e he)
    obtain rfl := Except.ok.inj
      (hread.symm.trans (ofJson_obj hitems hmodes hentries hoverrides hflags))
    refine ⟨hsound, Json.exists_str (SettingsFlaw.ofMode_eq_nil.mp hmode), fun flag hflag => ?_⟩
    obtain ⟨field, -, rfl⟩ := List.mem_map.mp hflag
    rfl
  | _ => exact absurd hflawless (by simp [flaws])

namespace CommandLine

/-! ## Settings files -/

/-- The file holds a text: its bytes encode it, but for the ends of lines. -/
def HoldsText (files : FileTree) (path : Path) (text : String) : Prop :=
  ∃ cs, files.read path = .ok (cs.flatMap String.utf8EncodeChar)
    ∧ text = String.ofList (Text.normalizeLineEnds cs)

/-- The file cannot be read, or what it holds is no JSON, or has flaws. -/
inductive Rejected (files : FileTree) (path : Path) : Prop where
  | unreadable (why : FileError) (h : files.read path = .error why)
  | malformed (text : String) (why : Json.ReadError) (h : HoldsText files path text)
      (hparse : Json.parse text = .error why)
  | flawed (text : String) (data : Json) (flaw : SettingsFlaw) (flaws : List SettingsFlaw)
      (h : HoldsText files path text) (hparse : Json.parse text = .ok data)
      (hflaws : Settings.flaws data = .ok (flaw :: flaws))

/-- Loading fails in a way that is not dealt with: the path has a NUL in it, the bytes in the file
encode no text, or an expression in its data cannot be judged. -/
inductive Stops (files : FileTree) (path : Path) : Prop where
  | nul (h : path.hasNul = true)
  | undecodable (bytes : List UInt8) (h : files.read path = .ok bytes)
      (hbytes : ∀ cs : List Char, bytes ≠ cs.flatMap String.utf8EncodeChar)
  | unjudged (text : String) (data : Json) (h : HoldsText files path text)
      (hparse : Json.parse text = .ok data) (hdata : ¬ Settings.Judgeable data)

variable {files : FileTree} {path : Path} {text : String}

theorem readText_of_holds (hnul : path.hasNul = false) (h : HoldsText files path text) :
    readText files path = .ok text := by
  obtain ⟨cs, hread, rfl⟩ := h
  have hdecode := Text.Utf8.decode_eq_ok_iff.mpr (rfl : cs.flatMap String.utf8EncodeChar = _)
  unfold readText
  simp [hnul, hread, hdecode]

theorem readText_nul (h : path.hasNul = true) :
    readText files path = .error (.badValue .nulInPath) := by
  unfold readText
  rw [if_pos h]
  rfl

theorem readText_unreadable {why : FileError} (hnul : path.hasNul = false)
    (h : files.read path = .error why) : readText files path = .error (.unreadable why) := by
  unfold readText
  simp only [hnul, h, Bool.false_eq_true, if_false]
  rfl

theorem readText_undecodable {bytes : List UInt8} (hnul : path.hasNul = false)
    (h : files.read path = .ok bytes)
    (hbytes : ∀ cs : List Char, bytes ≠ cs.flatMap String.utf8EncodeChar) :
    ∃ why, readText files path = .error (.undecodable why) := by
  cases hdecode : Text.Utf8.decode bytes with
  | ok cs => exact absurd (Text.Utf8.decode_eq_ok_iff.mp hdecode) (hbytes cs)
  | error why =>
    refine ⟨why, ?_⟩
    unfold readText
    simp only [hnul, h, hdecode, Bool.false_eq_true, if_false]
    rfl

theorem result_loadSettings {name : String} (hname : name ≠ "") :
    (loadSettings files (some name)).result =
      (readText files (.ofString name)).bind fun text => (Settings.ofText text).result := by
  unfold loadSettings
  split
  · next h => exact absurd h (by simp)
  · next h => exact absurd (Option.some.inj h) hname
  · next h =>
    obtain rfl := Option.some.inj h
    simp

variable {name : String}

/-- A settings file is read as what is imported from its text. -/
theorem result_loadSettings_of_holds (hname : name ≠ "") (hnul : (Path.ofString name).hasNul = false)
    (h : HoldsText files (.ofString name) text) :
    (loadSettings files (some name)).result = (Settings.ofText text).result := by
  rw [result_loadSettings hname, readText_of_holds hnul h, ok_bind]

theorem loadSettings_rejected (hname : name ≠ "") (hnul : (Path.ofString name).hasNul = false)
    (h : Rejected files (.ofString name)) :
    ∃ why lines, (loadSettings files (some name)).result = .error why
      ∧ explain why = .ok { status := statusUsage, lines } := by
  cases h with
  | unreadable why hread =>
    obtain ⟨lines, hlines⟩ := explain_shows (.inr (.inr ⟨why, rfl⟩))
    refine ⟨_, lines, ?_, hlines⟩
    rw [result_loadSettings hname, readText_unreadable hnul hread, error_bind]
  | malformed text why hholds hparse =>
    obtain ⟨lines, hlines⟩ := explain_shows (.inl ⟨.malformed why, rfl⟩)
    refine ⟨_, lines, ?_, hlines⟩
    rw [result_loadSettings_of_holds hname hnul hholds, Settings.ofText_malformed hparse]
  | flawed text data flaw flaws hholds hparse hflaws =>
    rcases Settings.ofText_cases hparse with ⟨hnone, -⟩ | ⟨found, -, hend⟩ | ⟨why, hstop, -⟩
    · exact absurd (hflaws.symm.trans hnone) (by simp)
    · obtain ⟨lines, hlines⟩ := explain_shows (.inl ⟨.flawed found, rfl⟩)
      refine ⟨_, lines, ?_, hlines⟩
      rw [result_loadSettings_of_holds hname hnul hholds, hend]
    · exact absurd (hflaws.symm.trans hstop) (by simp)

/-- The validator stops with failures that are not dealt with. -/
theorem flaws_stop_unexplained {data : Json} {why : Failure}
    (h : Settings.flaws data = .error why) : explain why = .error why := by
  obtain ⟨place, source, defect, -, -, hwhy⟩ := (Settings.flaws_checks data).stops why h
  cases defect with
  | syntaxError why => exact absurd hwhy (by simp [Failure.ofDefect])
  | repeatTooLarge =>
    obtain rfl : Failure.repeatTooLarge = why := Option.some.inj hwhy
    rfl
  | flagConflict =>
    obtain rfl : Failure.badValue .flagConflict = why := Option.some.inj hwhy
    rfl

theorem loadSettings_stops (hname : name ≠ "") (h : Stops files (.ofString name)) :
    ∃ why, (loadSettings files (some name)).result = .error why ∧ explain why = .error why := by
  cases hnul : (Path.ofString name).hasNul with
  | true => exact ⟨_, by rw [result_loadSettings hname, readText_nul hnul, error_bind], rfl⟩
  | false =>
    cases h with
    | nul h => exact absurd (hnul.symm.trans h) (by simp)
    | undecodable bytes hread hbytes =>
      obtain ⟨why, hwhy⟩ := readText_undecodable hnul hread hbytes
      exact ⟨_, by rw [result_loadSettings hname, hwhy, error_bind], rfl⟩
    | unjudged text data hholds hparse hdata =>
      rw [result_loadSettings_of_holds hname hnul hholds]
      rcases Settings.ofText_cases hparse with ⟨hnone, -⟩ | ⟨found, hfound, -⟩ | ⟨why, hstop, hend⟩
      · exact absurd (Settings.flaws_ends_iff.mp ⟨_, hnone⟩) hdata
      · exact absurd (Settings.flaws_ends_iff.mp ⟨_, hfound⟩) hdata
      · exact ⟨why, hend, flaws_stop_unexplained hstop⟩

theorem loadSettings_loads (hname : name ≠ "") (hstops : ¬ Stops files (.ofString name))
    (hrejected : ¬ Rejected files (.ofString name)) :
    ∃ settings, (loadSettings files (some name)).result = .ok settings ∧ settings.Loaded := by
  have hnul : (Path.ofString name).hasNul = false := Bool.eq_false_iff.mpr fun h => hstops (.nul h)
  cases hread : files.read (.ofString name) with
  | error why => exact absurd (.unreadable why hread) hrejected
  | ok bytes =>
    obtain ⟨cs, rfl⟩ : ∃ cs : List Char, bytes = cs.flatMap String.utf8EncodeChar := by
      by_contra hnone
      exact hstops (.undecodable bytes hread fun cs h => hnone ⟨cs, h⟩)
    have hholds : HoldsText files (.ofString name) _ := ⟨cs, hread, rfl⟩
    rw [result_loadSettings_of_holds hname hnul hholds]
    cases hparse : Json.parse (String.ofList (Text.normalizeLineEnds cs)) with
    | error why => exact absurd (.malformed _ why hholds hparse) hrejected
    | ok data =>
      cases hflaws : Settings.flaws data with
      | error why =>
        refine absurd (.unjudged _ data hholds hparse fun hjudged => ?_) hstops
        obtain ⟨found, hfound⟩ := Settings.flaws_ends_iff.mpr hjudged
        exact absurd (hfound.symm.trans hflaws) (by simp)
      | ok found =>
        cases found with
        | cons flaw flaws => exact absurd (.flawed _ data flaw flaws hholds hparse hflaws) hrejected
        | nil =>
          obtain ⟨settings, hread, -⟩ := Settings.ofJson_of_flawless hflaws
          have hsettings := Settings.ofText_succeeds.mpr ⟨data, hparse, hflaws, hread⟩
          exact ⟨settings, hsettings, Settings.loaded_of_ofText hsettings⟩

variable {state : Option String}

/-- Without a file, or with an empty name for one, the settings are the default ones. -/
theorem loadSettings_default (h : ∀ name ∈ state, name = "") :
    (loadSettings files state).result = .ok {} := by
  cases state with
  | none => rfl
  | some name =>
    obtain rfl : name = "" := h name rfl
    rfl

/-- Only a file can keep settings from being loaded. -/
theorem exists_name_of_unloaded {why : Failure}
    (h : (loadSettings files state).result = .error why) :
    ∃ name, state = some name ∧ name ≠ "" := by
  by_contra hnone
  have hdefault : ∀ name ∈ state, name = "" := by simpa using hnone
  exact absurd ((loadSettings_default hdefault).symm.trans h) (by simp)

/-- Whatever settings a run has, they are as loaded. -/
theorem loaded_of_loadSettings {settings : Settings}
    (h : (loadSettings files state).result = .ok settings) : settings.Loaded := by
  by_cases hdefault : ∀ name ∈ state, name = ""
  · obtain rfl := Except.ok.inj ((loadSettings_default hdefault).symm.trans h)
    exact Settings.loaded_default
  · obtain ⟨name, rfl, hname⟩ : ∃ name, state = some name ∧ name ≠ "" := by simpa using hdefault
    rw [result_loadSettings hname] at h
    obtain ⟨text, -, htext⟩ := bind_succeeds.mp h
    exact Settings.loaded_of_ofText htext

/-! ## Runs -/

/-- What a command does, given the settings. -/
def commandReport (s : Surroundings) (settings : Settings) : Command → Report Outcome
  | .listModes => listModes (.ofSettings settings)
  | .showMode slug workspace language => showMode s (.ofSettings settings) slug workspace language
  | .checkTool check => checkTool settings check

variable {s : Surroundings} {arguments : List String} {request : Request}

/-- A run that has its settings ends as its command does. -/
theorem result_run_loaded {settings : Settings} (hparse : parseArguments arguments = .ok request)
    (hload : (loadSettings s.files request.state).result = .ok settings) :
    (run s arguments).result =
      ((commandReport s settings request.command).recover explain).result := by
  have hcommand : (runCommand s request).result =
      (commandReport s settings request.command).result := by
    unfold runCommand
    rw [Report.result_bind, hload, ok_bind]
    cases request.command <;> rfl
  unfold run
  rw [hparse]
  simp only [Report.recover, hcommand]
  cases (commandReport s settings request.command).result <;> rfl

/-- A run without settings ends with what becomes of that failure. -/
theorem result_run_unloaded {why : Failure} (hparse : parseArguments arguments = .ok request)
    (hload : (loadSettings s.files request.state).result = .error why) :
    (run s arguments).result = explain why := by
  have hcommand : (runCommand s request).result = .error why := by
    unfold runCommand
    rw [Report.result_bind, hload, error_bind]
  unfold run
  rw [hparse]
  exact recover_error hcommand

end CommandLine

end ModePolicy
