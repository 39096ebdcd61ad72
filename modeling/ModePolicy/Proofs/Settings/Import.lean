import ModePolicy.Proofs.Settings.RoundTrip

/-!
# How the import of a text ends

A text is parsed, the data in it are validated, and then they are read. The import gives settings
or rejects the text, with one kind of exception:

> `Settings.rejects_iff_judgeable`: the import ends with settings or with a rejection exactly if all
> file expressions that the validator comes to are *judgeable*, which means that whatever is wrong
> with one of them is its syntax.

The validator asks for the syntax of an expression only. A repetition count that cannot be
represented, or flags that exclude each other, are no syntax errors, and such an expression stops
the validator itself. `lavishRepetition_stops_import` is a text on which that happens.

What a validator does about expressions is the same at every level of the data, from one expression
up to the settings: it stops at one that cannot be judged, and lists the syntax errors of the others
(`Pattern.Checks`). There is one lemma for each function of the validator.
-/

namespace ModePolicy

/-! ## Checking expressions -/

/-- How a check of expressions, each at a place, ends. It stops only at one with a defect other than
its syntax, and with the failure that this defect is. If it does not stop, then all defects are
syntax errors, and they are among the flaws that it has found. -/
structure Pattern.Checks {ι φ : Type} (checked : ι → String → Prop) (report : ι → SyntaxError → φ)
    (outcome : Except Failure (List φ)) : Prop where
  stops : ∀ failure, outcome = .error failure → ∃ place source defect, checked place source ∧
    compile source = .error defect ∧ Failure.ofDefect defect = some failure
  lists : ∀ flaws, outcome = .ok flaws → ∀ place source defect, checked place source →
    compile source = .error defect → ∃ why, defect = .syntaxError why ∧ report place why ∈ flaws

namespace Pattern.Checks

variable {ι κ φ ψ : Type} {checked : ι → String → Prop} {report : ι → SyntaxError → φ}
  {outcome : Except Failure (List φ)}

/-- Where there is no expression, any flaws may be found. -/
theorem none (h : ∀ place source, ¬ checked place source) (flaws : List φ) :
    Checks checked report (.ok flaws) :=
  ⟨fun _ hstop => by simp at hstop, fun _ _ place source _ hmem => absurd hmem (h place source)⟩

theorem congr {other : ι → String → Prop}
    (hsame : ∀ place source, other place source ↔ checked place source)
    (h : Checks checked report outcome) : Checks other report outcome := by
  constructor
  · intro failure hfailure
    obtain ⟨place, source, defect, hmem, hrest⟩ := h.stops failure hfailure
    exact ⟨place, source, defect, (hsame place source).mpr hmem, hrest⟩
  · intro flaws hflaws place source defect hmem
    exact h.lists flaws hflaws place source defect ((hsame place source).mp hmem)

/-- The flaws found may be put among others. -/
theorem among {combine : List φ → List φ} (hkeep : ∀ flaws, flaws ⊆ combine flaws)
    (h : Checks checked report outcome) :
    Checks checked report (outcome.bind fun flaws => .ok (combine flaws)) := by
  cases outcome with
  | error failure => exact h
  | ok found =>
    refine ⟨fun _ hstop => by simp at hstop, ?_⟩
    intro flaws hflaws place source defect hmem hdefect
    obtain ⟨why, hwhy, hlisted⟩ := h.lists found rfl place source defect hmem hdefect
    obtain rfl : combine found = flaws := Except.ok.inj hflaws
    exact ⟨why, hwhy, hkeep found hlisted⟩

/-- One check after another: the places of the first are places of the whole under other names. -/
theorem andThen {first : κ → String → Prop} {firstReport : κ → SyntaxError → ψ}
    {x : Except Failure (List ψ)} {combine : List ψ → List φ → List φ} (place : κ → ι)
    (hx : Checks first firstReport x) (h : Checks checked report outcome)
    (hfirst : ∀ k why found later, firstReport k why ∈ found →
      report (place k) why ∈ combine found later)
    (hlater : ∀ found later, later ⊆ combine found later) :
    Checks (fun i source => (∃ k, i = place k ∧ first k source) ∨ checked i source) report
      (x.bind fun found => outcome.bind fun later => .ok (combine found later)) := by
  cases x with
  | error failure =>
    refine ⟨fun e he => ?_, fun _ hok => by simp at hok⟩
    obtain ⟨k, source, defect, hmem, hrest⟩ := hx.stops e (by simpa using he)
    exact ⟨place k, source, defect, Or.inl ⟨k, rfl, hmem⟩, hrest⟩
  | ok found =>
    cases outcome with
    | error failure =>
      refine ⟨fun e he => ?_, fun _ hok => by simp at hok⟩
      obtain ⟨i, source, defect, hmem, hrest⟩ := h.stops e (by simpa using he)
      exact ⟨i, source, defect, Or.inr hmem, hrest⟩
    | ok later =>
      refine ⟨fun _ hstop => by simp at hstop, ?_⟩
      intro flaws hflaws i source defect hmem hdefect
      obtain rfl : combine found later = flaws := Except.ok.inj hflaws
      rcases hmem with ⟨k, rfl, hmem⟩ | hmem
      · obtain ⟨why, hwhy, hlisted⟩ := hx.lists found rfl k source defect hmem hdefect
        exact ⟨why, hwhy, hfirst k why found later hlisted⟩
      · obtain ⟨why, hwhy, hlisted⟩ := h.lists later rfl i source defect hmem hdefect
        exact ⟨why, hwhy, hlater found later hlisted⟩

end Pattern.Checks

/-! ## The expressions of a mode -/

/-- The data are those of a grant under options, with this file expression. -/
def GroupEntry.PatternIn (data : Json) (source : String) : Prop :=
  ∃ entry options, GroupEntry.ofJson data = .ok entry ∧ entry.options? = some options ∧
    options.fileRegex = .str source

/-- The data of a mode have all required fields, and in their groups a grant with this file
expression under this index. -/
def Mode.PatternIn (data : Json) (index : Nat) (source : String) : Prop :=
  ∃ fields items item, data = .obj fields ∧ ModeField.lackingIn fields = [] ∧
    fields.lookup "groups" = some (.arr items) ∧ items[index]? = some item ∧
    GroupEntry.PatternIn item source

namespace ModeFlaw

theorem ofFileRegex_checks (index : Nat) (v : Json) :
    Pattern.Checks (fun place source => place = index ∧ v = .str source) badFileRegex
      (ofFileRegex index v) := by
  cases v with
  | str source =>
    cases hc : Pattern.compile source with
    | ok regex =>
      have hend : ofFileRegex index (.str source) = .ok [] := by simp [ofFileRegex, hc]
      rw [hend]
      refine ⟨fun _ hstop => by simp at hstop, fun _ _ place other defect hmem hdefect => ?_⟩
      obtain rfl : source = other := Json.str.inj hmem.2
      exact absurd (hc.symm.trans hdefect) (by simp)
    | error defect =>
      cases defect with
      | syntaxError why =>
        have hend : ofFileRegex index (.str source) = .ok [.badFileRegex index why] := by
          simp [ofFileRegex, hc]
        rw [hend]
        refine ⟨fun _ hstop => by simp at hstop, ?_⟩
        intro flaws hflaws place other defect hmem hdefect
        obtain ⟨rfl, hsource⟩ := hmem
        obtain rfl : source = other := Json.str.inj hsource
        obtain rfl := Except.error.inj (hc.symm.trans hdefect)
        obtain rfl := Except.ok.inj hflaws
        exact ⟨why, rfl, List.mem_singleton_self _⟩
      | repeatTooLarge =>
        have hend : ofFileRegex index (.str source) = .error .repeatTooLarge := by
          simp [ofFileRegex, hc]
        rw [hend]
        refine ⟨fun failure hstop => ?_, fun _ hok => by simp at hok⟩
        exact ⟨index, source, _, ⟨rfl, rfl⟩, hc, congrArg some (Except.error.inj hstop)⟩
      | flagConflict =>
        have hend : ofFileRegex index (.str source) = .error (.badValue .flagConflict) := by
          simp [ofFileRegex, hc]
        rw [hend]
        refine ⟨fun failure hstop => ?_, fun _ hok => by simp at hok⟩
        exact ⟨index, source, _, ⟨rfl, rfl⟩, hc, congrArg some (Except.error.inj hstop)⟩
  | _ => exact Pattern.Checks.none (by simp) _

theorem ofOptions_checks (index : Nat) (options : Option GroupOptions) :
    Pattern.Checks
      (fun place source => place = index ∧ ∃ o, options = some o ∧ o.fileRegex = .str source)
      badFileRegex (ofOptions index options) := by
  cases options with
  | none => exact Pattern.Checks.none (by simp) _
  | some o =>
    refine Pattern.Checks.congr ?_ ((ofFileRegex_checks index o.fileRegex).among
      fun flaws => List.subset_append_left flaws _)
    simp

/-- The places from an index on are that index and the places after it. -/
theorem exists_place {place index : Nat} {p : Nat → Prop} :
    (∃ k, place = index + k ∧ p k) ↔
      (place = index ∧ p 0) ∨ ∃ k, place = index + 1 + k ∧ p (k + 1) := by
  rw [← Nat.or_exists_add_one]
  simp only [Nat.add_zero, Nat.add_assoc, Nat.add_comm 1]

/-- An expression among the items of groups belongs to the first item or to a later one. -/
theorem exists_getElem_cons {item : Json} {rest : List Json} {index place : Nat} {p : Json → Prop} :
    (∃ k x, place = index + k ∧ (item :: rest)[k]? = some x ∧ p x) ↔
      (place = index ∧ p item) ∨ ∃ k x, place = index + 1 + k ∧ rest[k]? = some x ∧ p x := by
  simp only [exists_and_left]
  rw [exists_place]
  simp

theorem ofEntries_checks (items : List Json) : ∀ (index : Nat) (seen : List ToolGroup),
    Pattern.Checks
      (fun place source =>
        ∃ k item, place = index + k ∧ items[k]? = some item ∧ GroupEntry.PatternIn item source)
      badFileRegex (ofEntries index seen items) := by
  induction items with
  | nil => exact fun index seen => Pattern.Checks.none (by simp) _
  | cons item rest ih =>
    intro index seen
    unfold ofEntries
    cases hitem : GroupEntry.ofJson item with
    | error why =>
      refine Pattern.Checks.congr (fun place source => ?_) ((ih (index + 1) seen).among
        fun flaws => List.subset_cons_self (.badEntry index why) flaws)
      rw [exists_getElem_cons]
      simp [GroupEntry.PatternIn, hitem]
    | ok entry =>
      refine Pattern.Checks.congr (fun place source => ?_)
        ((ofOptions_checks index entry.options?).andThen id (ih (index + 1) (entry.group :: seen))
          (fun k why found later hmem => ?_) fun found later => ?_)
      · rw [exists_getElem_cons]
        simp [GroupEntry.PatternIn, hitem]
      · exact List.mem_append_left _ (List.mem_append_right _ hmem)
      · exact List.subset_append_right _ _

theorem ofGroups_checks (v : Json) :
    Pattern.Checks
      (fun place source =>
        ∃ items item, v = .arr items ∧ items[place]? = some item ∧ GroupEntry.PatternIn item source)
      badFileRegex (ofGroups v) := by
  cases v with
  | arr items =>
    refine Pattern.Checks.congr (fun place source => ?_) (ofEntries_checks items 0 [])
    simp
  | _ => exact Pattern.Checks.none (by simp) _

end ModeFlaw

theorem Mode.flaws_checks (data : Json) :
    Pattern.Checks (Mode.PatternIn data) ModeFlaw.badFileRegex (Mode.flaws data) := by
  cases data with
  | obj fields =>
    cases hlacking : ModeField.lackingIn fields with
    | nil =>
      have hend : Mode.flaws (.obj fields) = ModeFlaw.ofFields fields := by
        simp [Mode.flaws, hlacking]
      rw [hend]
      refine Pattern.Checks.congr (fun place source => ?_)
        ((ModeFlaw.ofGroups_checks ((fields.lookup "groups").getD .null)).among fun flaws => ?_)
      · cases hgroups : fields.lookup "groups" <;> simp [Mode.PatternIn, hlacking, hgroups]
      · exact fun flaw hmem => List.mem_append_left _ (List.mem_append_right _ hmem)
    | cons f lacking =>
      have hend : Mode.flaws (.obj fields) = .ok ((f :: lacking).map .missing) := by
        simp [Mode.flaws, hlacking]
      rw [hend]
      exact Pattern.Checks.none (by simp [Mode.PatternIn, hlacking]) _
  | _ => exact Pattern.Checks.none (by simp [Mode.PatternIn]) _

/-! ## The expressions of settings -/

namespace Settings

/-- The data of settings have, among their custom modes, one with this file expression. The place is
the index of the mode and that of the grant. -/
def PatternIn (data : Json) (place : Nat × Nat) (source : String) : Prop :=
  ∃ fields items item, data = .obj fields ∧ fields.lookup "customModes" = some (.arr items) ∧
    items[place.1]? = some item ∧ Mode.PatternIn item place.2 source

/-- The report of a syntax error at a place. -/
def badPattern (place : Nat × Nat) (why : Pattern.SyntaxError) : SettingsFlaw :=
  .badMode place.1 (.badFileRegex place.2 why)

end Settings

theorem SettingsFlaw.ofModeItems_checks (items : List Json) : ∀ (index : Nat) (seen : List String),
    Pattern.Checks
      (fun place source =>
        ∃ k item, place.1 = index + k ∧ items[k]? = some item ∧ Mode.PatternIn item place.2 source)
      Settings.badPattern (SettingsFlaw.ofModeItems index seen items) := by
  induction items with
  | nil => exact fun index seen => Pattern.Checks.none (by simp) _
  | cons item rest ih =>
    intro index seen
    unfold SettingsFlaw.ofModeItems
    refine Pattern.Checks.congr (fun place source => ?_)
      ((Mode.flaws_checks item).andThen (fun k => (index, k))
        (ih (index + 1) ((SettingsFlaw.slugText? item).toList ++ seen))
        (fun k why found later hmem => ?_) fun found later => ?_)
    · rw [ModeFlaw.exists_getElem_cons]
      obtain ⟨i, j⟩ := place
      simp [Prod.mk.injEq, and_comm, and_assoc]
    · exact List.mem_append_left _ (List.mem_append_left _ (List.mem_map_of_mem hmem))
    · exact List.subset_append_right _ _

theorem SettingsFlaw.ofModes_checks (field : Option Json) :
    Pattern.Checks
      (fun place source => ∃ items item, field = some (.arr items) ∧ items[place.1]? = some item ∧
        Mode.PatternIn item place.2 source)
      Settings.badPattern (SettingsFlaw.ofModes field) := by
  cases field with
  | none => exact Pattern.Checks.none (by simp) _
  | some v =>
    cases v with
    | arr items =>
      refine Pattern.Checks.congr (fun place source => ?_)
        (SettingsFlaw.ofModeItems_checks items 0 [])
      simp
    | _ => exact Pattern.Checks.none (by simp) _

namespace Settings

theorem flaws_checks (data : Json) : Pattern.Checks (PatternIn data) badPattern (flaws data) := by
  cases data with
  | obj fields =>
    refine Pattern.Checks.congr (fun place source => ?_)
      ((SettingsFlaw.ofModes_checks (fields.lookup "customModes")).among fun flaws => ?_)
    · simp [PatternIn]
    · exact fun flaw hmem =>
        List.mem_append_left _ (List.mem_append_left _ (List.mem_append_right _ hmem))
  | _ => exact Pattern.Checks.none (by simp [PatternIn]) _

/-! ## The import -/

/-- The steps of the import that can fail: parsing, validating and reading. -/
theorem result_ofText (text : String) :
    (ofText text).result = (parseText text).bind fun data => (flaws data).bind fun found =>
      if found.isEmpty then (ofJson data).result else .error (.badSettings (.flawed found)) := by
  unfold ofText
  rw [Report.result_bind, Report.result_lift]
  congr 1
  funext data
  rw [Report.result_bind, result_validate]
  congr 1
  funext found
  cases found <;> simp

/-- A text is imported exactly if it holds data without flaws, as the settings that they are read
as. -/
theorem ofText_succeeds {text : String} {s : Settings} :
    (ofText text).result = .ok s ↔
      ∃ data, Json.parse text = .ok data ∧ flaws data = .ok [] ∧ (ofJson data).result = .ok s := by
  have hparse : ∀ data, parseText text = .ok data ↔ Json.parse text = .ok data := by
    intro data
    unfold parseText
    cases Json.parse text <;> simp
  rw [result_ofText]
  constructor
  · intro h
    obtain ⟨data, hdata, h⟩ := bind_succeeds.mp h
    obtain ⟨found, hfound, h⟩ := bind_succeeds.mp h
    cases found with
    | nil => exact ⟨data, (hparse data).mp hdata, hfound, h⟩
    | cons flaw found => exact absurd h (by simp)
  · intro h
    obtain ⟨data, hdata, hfound, hread⟩ := h
    exact bind_succeeds.mpr ⟨data, (hparse data).mpr hdata, bind_succeeds.mpr ⟨[], hfound, hread⟩⟩

/-- Data without flaws are read as settings, whose custom modes are valid and of distinct slugs. -/
theorem ofJson_of_flawless {data : Json} (h : flaws data = .ok []) :
    ∃ s, (ofJson data).result = .ok s ∧ (∀ m ∈ s.customModes, m.Valid) ∧
      (s.customModes.map (·.slug)).Nodup := by
  cases data with
  | obj fields =>
    obtain ⟨-, -, hmodes, hprompts, hexperiments⟩ := flaws_obj_eq_nil.mp h
    obtain ⟨items, modes, hitems, hread⟩ := SettingsFlaw.ofModes_eq_nil.mp hmodes
    obtain ⟨entries, hentries, hflawless⟩ := SettingsFlaw.ofPrompts_eq_nil.mp hprompts
    obtain ⟨flags, hflags, -⟩ := SettingsFlaw.ofExperiments_eq_nil.mp hexperiments
    obtain ⟨prompts, hoverrides, -⟩ := readPrompts_objects entries fun e he =>
      SettingsFlaw.obj_of_ofPrompt (hflawless e he)
    exact ⟨_, ofJson_obj hitems hread hentries hoverrides hflags, hread.valid, hread.distinct⟩
  | _ => exact absurd h (by simp [flaws])

/-- The custom modes of imported settings are valid and of distinct slugs. -/
theorem customModes_of_ofText {text : String} {s : Settings} (h : (ofText text).result = .ok s) :
    (∀ m ∈ s.customModes, m.Valid) ∧ (s.customModes.map (·.slug)).Nodup := by
  obtain ⟨data, -, hflawless, hread⟩ := ofText_succeeds.mp h
  obtain ⟨s', hread', hvalid, hdistinct⟩ := ofJson_of_flawless hflawless
  obtain rfl : s = s' := Except.ok.inj (hread.symm.trans hread')
  exact ⟨hvalid, hdistinct⟩

/-- Every expression that the validator comes to in these data can be judged: what is wrong with it,
if anything is, is its syntax. -/
def Judgeable (data : Json) : Prop :=
  ∀ place source defect, PatternIn data place source → Pattern.compile source = .error defect →
    ∃ why, defect = .syntaxError why

/-- The validator comes to an end exactly if all expressions can be judged. -/
theorem flaws_ends_iff {data : Json} : (∃ found, flaws data = .ok found) ↔ Judgeable data := by
  have hchecks := flaws_checks data
  constructor
  · intro h place source defect hmem hdefect
    obtain ⟨found, hfound⟩ := h
    obtain ⟨why, hwhy, -⟩ := hchecks.lists found hfound place source defect hmem hdefect
    exact ⟨why, hwhy⟩
  · intro h
    cases hflaws : flaws data with
    | ok found => exact ⟨found, rfl⟩
    | error failure =>
      obtain ⟨place, source, defect, hmem, hdefect, hfailure⟩ := hchecks.stops failure hflaws
      obtain ⟨why, rfl⟩ := h place source defect hmem hdefect
      exact absurd hfailure (by simp [Failure.ofDefect])

/-- A text that is no JSON is rejected. -/
theorem ofText_malformed {text : String} {why : Json.ReadError} (h : Json.parse text = .error why) :
    (ofText text).result = .error (.badSettings (.malformed why)) := by
  have hdata : parseText text = .error (.badSettings (.malformed why)) := by simp [parseText, h]
  rw [result_ofText, hdata]
  rfl

/-- How the import of a text that holds data ends: with settings, with a rejection for the flaws
found, or where the validator stops. -/
theorem ofText_cases {text : String} {data : Json} (hparse : Json.parse text = .ok data) :
    (flaws data = .ok [] ∧ ∃ s, (ofText text).result = .ok s) ∨
    (∃ found, flaws data = .ok found ∧
      (ofText text).result = .error (.badSettings (.flawed found))) ∨
    ∃ failure, flaws data = .error failure ∧ (ofText text).result = .error failure := by
  have hdata : parseText text = .ok data := by simp [parseText, hparse]
  rw [result_ofText, hdata]
  cases hflaws : flaws data with
  | error failure => exact Or.inr (Or.inr ⟨failure, rfl, by simp [hflaws]⟩)
  | ok found =>
    cases found with
    | nil =>
      obtain ⟨s, hread, -⟩ := ofJson_of_flawless hflaws
      exact Or.inl ⟨rfl, s, by simp [hflaws, hread]⟩
    | cons flaw found => exact Or.inr (Or.inl ⟨_, rfl, by simp [hflaws]⟩)

/-- The validator does not stop with a rejection. -/
theorem flaws_ne_rejection {data : Json} {why : SettingsRejection} :
    flaws data ≠ .error (.badSettings why) := by
  intro h
  obtain ⟨place, source, defect, -, -, hfailure⟩ := (flaws_checks data).stops _ h
  cases defect <;> simp [Failure.ofDefect] at hfailure

/-- **The import of a text fails only as a rejection of the settings in it, exactly if every file
expression in the data can be judged.** Any other failure is that of an expression whose defect is
not its syntax. An expression with a syntax error is never imported: if the import ends with a
rejection, then this error is among the flaws that the rejection lists. -/
theorem rejects_iff_judgeable (text : String) :
    (((∃ s, (ofText text).result = .ok s) ∨
        ∃ why, (ofText text).result = .error (.badSettings why)) ↔
      ∀ data, Json.parse text = .ok data → Judgeable data) ∧
    (∀ failure, (ofText text).result = .error failure → (∃ why, failure = .badSettings why) ∨
      ∃ data place source defect, Json.parse text = .ok data ∧ PatternIn data place source ∧
        Pattern.compile source = .error defect ∧ Failure.ofDefect defect = some failure) ∧
    ∀ data place source why, Json.parse text = .ok data → PatternIn data place source →
      Pattern.compile source = .error (.syntaxError why) →
      ∃ failure, (ofText text).result = .error failure ∧ ∀ reason, failure = .badSettings reason →
        ∃ found, reason = .flawed found ∧ badPattern place why ∈ found := by
  refine ⟨⟨fun h data hparse => ?_, fun h => ?_⟩, fun failure hfailure => ?_,
    fun data place source why hparse hmem hsyntax => ?_⟩
  · -- settings and rejections both mean that the validator has come to an end
    rw [← flaws_ends_iff]
    rcases ofText_cases hparse with ⟨hflaws, -⟩ | ⟨found, hflaws, -⟩ | ⟨failure, hflaws, hend⟩
    · exact ⟨[], hflaws⟩
    · exact ⟨found, hflaws⟩
    · rcases h with ⟨s, hs⟩ | ⟨why, hwhy⟩
      · exact absurd (hend.symm.trans hs) (by simp)
      · rw [Except.error.inj (hend.symm.trans hwhy)] at hflaws
        exact absurd hflaws flaws_ne_rejection
  · cases hparse : Json.parse text with
    | error why => exact Or.inr ⟨_, ofText_malformed hparse⟩
    | ok data =>
      obtain ⟨found, hfound⟩ := flaws_ends_iff.mpr (h data hparse)
      rcases ofText_cases hparse with ⟨-, hs⟩ | ⟨found, -, hend⟩ | ⟨failure, hflaws, -⟩
      · exact Or.inl hs
      · exact Or.inr ⟨_, hend⟩
      · exact absurd (hfound.symm.trans hflaws) (by simp)
  · cases hparse : Json.parse text with
    | error why =>
      exact Or.inl ⟨_, Except.error.inj (hfailure.symm.trans (ofText_malformed hparse))⟩
    | ok data =>
      rcases ofText_cases hparse with ⟨-, s, hs⟩ | ⟨found, -, hend⟩ | ⟨stopped, hflaws, hend⟩
      · exact absurd (hs.symm.trans hfailure) (by simp)
      · exact Or.inl ⟨_, Except.error.inj (hfailure.symm.trans hend)⟩
      · obtain rfl : stopped = failure := Except.error.inj (hend.symm.trans hfailure)
        obtain ⟨place, source, defect, hrest⟩ := (flaws_checks data).stops stopped hflaws
        exact Or.inr ⟨data, place, source, defect, rfl, hrest⟩
  · -- if the validator ends, it has listed the error; so it has found something
    have hlisted : ∀ found, flaws data = .ok found → badPattern place why ∈ found := by
      intro found hfound
      obtain ⟨why', hwhy, hlisted⟩ :=
        (flaws_checks data).lists found hfound place source _ hmem hsyntax
      obtain rfl := Pattern.Defect.syntaxError.inj hwhy
      exact hlisted
    rcases ofText_cases hparse with ⟨hflaws, -⟩ | ⟨found, hflaws, hend⟩ | ⟨failure, hflaws, hend⟩
    · exact absurd (hlisted [] hflaws) List.not_mem_nil
    · refine ⟨_, hend, fun reason hreason => ⟨found, ?_, hlisted found hflaws⟩⟩
      exact (Failure.badSettings.inj hreason).symm
    · refine ⟨failure, hend, fun reason hreason => ?_⟩
      rw [hreason] at hflaws
      exact absurd hflaws flaws_ne_rejection

/-- A mode that may edit the files that an expression matches. -/
def editingMode (source : String) : Mode :=
  { slug := .str "docs", name := .str "Docs", role := .str "You write.",
    groups := [.restricted .edit { fileRegex := .str source }] }

/-- Settings with that mode. -/
def editingSettings (source : String) : Settings := { customModes := [editingMode source] }

theorem parse_editingSettings (source : String) :
    Json.parse (editingSettings source).saved = .ok (editingSettings source).toJson := by
  have hslug : Mode.fallbackSlug = .str "code" := rfl
  refine Json.parse_pretty _ ?_
  simp [toJson, editingSettings, editingMode, Mode.toJson, GroupEntry.toJson, GroupOptions.toJson,
    optionalField, Json.isNull, Fields.mapValues, FlagTable.toFields, hslug, Json.Textual,
    Json.TextualFields, Json.TextualItems, Fields.names]

/-- Settings with an expression that compiles are imported from the text that they are saved as. -/
theorem ofText_editingSettings {source : String} {regex : Regex}
    (h : Pattern.compile source = .ok regex) :
    (ofText (editingSettings source).saved).result = .ok (editingSettings source) := by
  have hmode : (editingMode source).Valid := by
    refine ⟨rfl, rfl, rfl, rfl, fun e he o ho => ?_, by simp [editingMode]⟩
    rw [List.mem_singleton.mp he] at ho
    obtain rfl := Option.some.inj ho
    exact ⟨Or.inr ⟨source, regex, rfl, h⟩, rfl⟩
  have hmodes : ∀ m ∈ (editingSettings source).customModes, m.Valid :=
    List.forall_mem_singleton.mpr hmode
  have hslugs : ((editingSettings source).customModes.map (·.slug)).Nodup := List.nodup_singleton _
  refine ofText_succeeds.mpr ⟨_, parse_editingSettings source, flaws_toJson.mpr ?_, ?_⟩
  · exact ⟨rfl, hmodes, hslugs, by simp [editingSettings], by simp [editingSettings]⟩
  · exact ofJson_toJson hmodes hslugs (by simp [editingSettings])

theorem patternIn_editingSettings (source : String) :
    PatternIn (editingSettings source).toJson (0, 0) source := by
  refine ⟨_, _, _, rfl, rfl, rfl, ?_⟩
  refine ⟨_, _, _, rfl, ?_, rfl, rfl, ?_⟩
  · simp [ModeField.lackingIn, ModeField.all, ModeField.keys, List.lookup]
  · exact ⟨_, _, GroupEntry.ofJson_toJson _, rfl, rfl⟩

/-- A repetition count that cannot be represented: the import ends with neither settings nor a
rejection. -/
theorem lavishRepetition_stops_import :
    Pattern.compile "a\x7b99999999999\x7d" = .error .repeatTooLarge ∧
    ¬ ((∃ s, (ofText (editingSettings "a\x7b99999999999\x7d").saved).result = .ok s) ∨
      ∃ why, (ofText (editingSettings "a\x7b99999999999\x7d").saved).result =
        .error (.badSettings why)) := by
  have hdefect : Pattern.compile "a\x7b99999999999\x7d" = .error .repeatTooLarge := rfl
  refine ⟨hdefect, fun h => ?_⟩
  have hjudgeable := (rejects_iff_judgeable _).1.mp h _ (parse_editingSettings _)
  obtain ⟨why, hwhy⟩ := hjudgeable _ _ _ (patternIn_editingSettings _) hdefect
  exact absurd hwhy (by simp)

end Settings

end ModePolicy
