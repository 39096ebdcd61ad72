import ModePolicy.Instructions.Aggregation
import ModePolicy.Proofs.Instructions.Loading
import ModePolicy.Proofs.Instructions.Merging

/-!
# The sections of the instructions

Instructions are put together from four sources: the language, the global text, the text of the mode
and the rule files. `Instructions.sections` says of each what its section is, if it has one, and the
main theorem is about all four:

> `aggregate_joins_sections`: the whole is the header and the sections that there are, in order, with
> one empty line between them; and it is empty exactly if none of the sources has anything.

What the rule files are is told by the directories and single files that they are in
(`Rules.AreEither`, `Rules.AreOf`). Whatever has been loaded has something to say, so the section on the
rules is there exactly if some file is a rule (`Rules.noneUsable_iff`). As with all loading, the
system has to see the paths; where it finds one too long there are no instructions at all.
-/

namespace ModePolicy

/-! ## The rules that are loaded -/

/-- What is said is not blank. -/
theorem Says.not_blank {bytes : List UInt8} {content : String} (h : Says bytes content) :
    Text.isBlankText content = false := by
  obtain ⟨text, -, hsaid, rfl⟩ := h
  rw [Text.isBlankText, String.toList_ofList, all_isBlank_normalizeLineEnds]
  exact hsaid

namespace Rules

section Alternatives

variable {t : FileTree} {directory single : Path} {source : String} {rules : List RuleFile}

theorem AreOf.not_blank (h : AreOf t directory source rules) :
    ∀ r ∈ rules, Text.isBlankText r.content = false := by
  intro r hr
  obtain ⟨name, content, ⟨-, bytes, -, -, htext⟩, rfl⟩ := (h.mem_iff r).mp hr
  exact htext.not_blank

theorem AreEither.not_blank (h : AreEither t directory single source rules) :
    ∀ r ∈ rules, Text.isBlankText r.content = false := by
  rcases h with ⟨hare, -⟩ | ⟨-, ⟨content, ⟨bytes, -, htext⟩, rfl⟩ | ⟨-, rfl⟩⟩
  · exact hare.not_blank
  · exact List.forall_mem_singleton.mpr htext.not_blank
  · exact List.forall_mem_nil _

/-- There are no rules exactly if the directory holds none. -/
theorem AreOf.eq_nil_iff (h : AreOf t directory source rules) :
    rules = [] ↔ ∀ name content, ¬ t.HoldsRule directory name content := by
  rw [← @areOf_nil_iff t directory source]
  constructor
  · intro hnil
    exact hnil ▸ h
  · intro hnil
    exact h.unique hnil

/-- There are no rules exactly if neither the directory holds one nor the single file says one. -/
theorem AreEither.eq_nil_iff (h : AreEither t directory single source rules) :
    rules = [] ↔
      (∀ name content, ¬ t.HoldsRule directory name content) ∧ ∀ content, ¬ t.SaysAt single content := by
  rcases h with ⟨hare, hne⟩ | ⟨hnil, ⟨content, hsays, rfl⟩ | ⟨hnone, rfl⟩⟩
  · exact iff_of_false hne fun h => hne (hare.eq_nil_iff.mpr h.1)
  · exact iff_of_false (List.cons_ne_nil _ _) fun h => h.2 content hsays
  · exact iff_of_true rfl ⟨areOf_nil_iff.mp hnil, hnone⟩

theorem readEither_stops (ht : t.root.IsTree) (h : ¬ SeesEither t directory single)
    (source : String) :
    ∃ p, ¬ t.Sees p ∧
      (readEither t directory single source).result = .error (.unreadable ⟨.nameTooLong, p⟩) := by
  unfold readEither
  by_cases hlists : t.Lists directory
  · -- the directory holds no rules, and the single file is not seen
    obtain ⟨hnone, hsees⟩ : (∀ name content, ¬ t.HoldsRule directory name content) ∧ ¬ t.Sees single := by
      rw [SeesEither, not_and] at h
      simpa using h hlists
    have hread := (readDirectory_eq_ok_iff ht).mpr ⟨hlists, @areOf_nil_iff t directory source |>.mpr hnone⟩
    refine ⟨single, hsees, ?_⟩
    rw [Report.result_bind, hread]
    exact readSingle_stops hsees
  · obtain ⟨p, hsees, -, hstop⟩ := @readDirectory_stops t directory source hlists
    refine ⟨p, hsees, ?_⟩
    rw [Report.result_bind, hstop]
    rfl

end Alternatives

section Workspaces

variable {t : FileTree} {globalDirectory workspace : Path} {slug : String}

theorem general_stops (ht : t.root.IsTree) (h : ¬ SeesGeneral t globalDirectory workspace) :
    ∃ p, ¬ t.Sees p ∧
      (general t globalDirectory workspace).result = .error (.unreadable ⟨.nameTooLong, p⟩) := by
  unfold general
  by_cases hlists : t.Lists globalDirectory
  · obtain ⟨globals, hglobals, -⟩ := @readDirectory_loads t globalDirectory "global" ht hlists
    obtain ⟨p, hsees, hstop⟩ := readEither_stops ht (mt (And.intro hlists) h) "local"
    refine ⟨p, hsees, ?_⟩
    rw [Report.result_bind, hglobals, ok_bind, Report.result_bind, hstop]
    rfl
  · obtain ⟨p, hsees, -, hstop⟩ := @readDirectory_stops t globalDirectory "global" hlists
    refine ⟨p, hsees, ?_⟩
    rw [Report.result_bind, hstop]
    rfl

/-- The system sees all files that may have rules for a mode or for every mode. -/
def SeesAll (t : FileTree) (globalDirectory workspace : Path) (slug : String) : Prop :=
  SeesEither t (workspace.join (modeDirectory slug)) (workspace.join (modeSingleFile slug)) ∧
    SeesGeneral t globalDirectory workspace

/-- No file is a rule, neither for the mode nor for every mode: the three directories hold none, and
the two single files say none. -/
structure NoneUsable (t : FileTree) (globalDirectory workspace : Path) (slug : String) : Prop where
  modeDirectory : ∀ name content, ¬ t.HoldsRule (workspace.join (modeDirectory slug)) name content
  modeSingle : ∀ content, ¬ t.SaysAt (workspace.join (modeSingleFile slug)) content
  globalDirectory : ∀ name content, ¬ t.HoldsRule globalDirectory name content
  directory : ∀ name content, ¬ t.HoldsRule (workspace.join directory) name content
  single : ∀ content, ¬ t.SaysAt (workspace.join singleFile) content

/-- The rules for a mode, those of the global directory and those of the workspace. -/
structure AreAll (t : FileTree) (globalDirectory workspace : Path) (slug : String)
    (modeRules globals locals : List RuleFile) : Prop where
  mode : AreEither t (workspace.join (Rules.modeDirectory slug))
    (workspace.join (Rules.modeSingleFile slug)) "mode" modeRules
  globals : AreOf t globalDirectory "global" globals
  locals : AreEither t (workspace.join Rules.directory) (workspace.join Rules.singleFile) "local" locals

variable {modeRules globals locals : List RuleFile}

theorem AreAll.not_blank (h : AreAll t globalDirectory workspace slug modeRules globals locals) :
    ∀ r ∈ modeRules ++ (globals ++ locals), Text.isBlankText r.content = false :=
  List.forall_mem_append.mpr ⟨h.mode.not_blank,
    List.forall_mem_append.mpr ⟨h.globals.not_blank, h.locals.not_blank⟩⟩

/-- There are no rules exactly if no file is one. -/
theorem AreAll.eq_nil_iff (h : AreAll t globalDirectory workspace slug modeRules globals locals) :
    modeRules ++ (globals ++ locals) = [] ↔ NoneUsable t globalDirectory workspace slug := by
  rw [List.append_eq_nil_iff, List.append_eq_nil_iff, h.mode.eq_nil_iff, h.globals.eq_nil_iff,
    h.locals.eq_nil_iff]
  exact ⟨fun ⟨hmode, hglobal, hlocal⟩ => ⟨hmode.1, hmode.2, hglobal, hlocal.1, hlocal.2⟩,
    fun h => ⟨⟨h.modeDirectory, h.modeSingle⟩, h.globalDirectory, h.directory, h.single⟩⟩

end Workspaces

end Rules

namespace Instructions

variable {t : FileTree} {globalDirectory : Path} {slug : String}

theorem loadRules_loads {workspace : Path} (ht : t.root.IsTree)
    (h : Rules.SeesAll t globalDirectory workspace slug) : ∃ modeRules globals locals,
      Rules.AreAll t globalDirectory workspace slug modeRules globals locals ∧
      (loadRules t globalDirectory workspace (.str slug)).result =
        .ok (modeRules, globals ++ locals) := by
  obtain ⟨modeRules, hmode⟩ := h.1.exists_rules ht "mode"
  obtain ⟨general, hgeneral⟩ := h.2.exists_rules ht
  have hforMode : (Rules.forMode t workspace slug).result = .ok modeRules :=
    (Rules.readEither_eq_ok_iff ht).mpr ⟨h.1, hmode⟩
  have hall := (Rules.general_eq_ok_iff ht).mpr ⟨h.2, hgeneral⟩
  obtain ⟨globals, locals, hglobals, hlocals, rfl⟩ := hgeneral
  refine ⟨modeRules, globals, locals, ⟨hmode, hglobals, hlocals⟩, ?_⟩
  simp [loadRules, Json.plain, hforMode, hall]

theorem loadRules_stops {workspace : Path} (ht : t.root.IsTree)
    (h : ¬ Rules.SeesAll t globalDirectory workspace slug) : ∃ p, ¬ t.Sees p ∧
      (loadRules t globalDirectory workspace (.str slug)).result =
        .error (.unreadable ⟨.nameTooLong, p⟩) := by
  by_cases hmode : Rules.SeesEither t (workspace.join (Rules.modeDirectory slug))
      (workspace.join (Rules.modeSingleFile slug))
  · obtain ⟨modeRules, hrules⟩ := hmode.exists_rules ht "mode"
    have hforMode : (Rules.forMode t workspace slug).result = .ok modeRules :=
      (Rules.readEither_eq_ok_iff ht).mpr ⟨hmode, hrules⟩
    obtain ⟨p, hsees, hstop⟩ := Rules.general_stops ht (mt (And.intro hmode) h)
    exact ⟨p, hsees, by simp [loadRules, Json.plain, hforMode, hstop]⟩
  · obtain ⟨p, hsees, hstop⟩ := Rules.readEither_stops ht hmode "mode"
    have hforMode : (Rules.forMode t workspace slug).result = .error (.unreadable ⟨.nameTooLong, p⟩) :=
      hstop
    exact ⟨p, hsees, by simp [loadRules, Json.plain, hforMode]⟩

/-! ## Sections -/

/-- The section of each source, if it has one: the language, the global text, the text of the mode and
the rules. -/
def sections (language : Option String) (globalText modeText : String) (rules : List RuleFile) :
    List (Option String) :=
  [(language.filter (· ≠ "")).map fun name =>
      "Language Preference:\nYou should always speak and think in the \"" ++ name ++ "\" language.",
    if Text.isBlankText globalText then none
      else some ("Global Instructions:\n" ++ Text.strip globalText),
    if Text.isBlankText modeText then none
      else some ("Mode-specific Instructions:\n" ++ Text.strip modeText),
    if rules = [] then none
      else some ("Rules:\n\n" ++ "\n\n".intercalate (rules.map fun r =>
        "# Rules from " ++ r.source ++ ": " ++ r.path.name ++ "\n" ++ Text.strip r.content))]

variable {language : Option String} {globalText modeText : String} {rules : List RuleFile}

theorem languageSection_eq (language : Option String) :
    languageSection ((language.map .str).getD .null) =
      ((language.filter (· ≠ "")).map fun name =>
        "Language Preference:\nYou should always speak and think in the \"" ++ name ++
          "\" language.").toList := by
  cases language with
  | none => rfl
  | some name =>
    by_cases hname : name = "" <;>
      simp [languageSection, Json.truthy, Json.plain, hname, Option.filter]

theorem textSection_eq (title text : String) :
    textSection title text = (if Text.isBlankText text then none
      else some (title ++ ":\n" ++ Text.strip text)).toList := by
  unfold textSection
  cases Text.isBlankText text <;> rfl

theorem rulesSection_eq (h : ∀ r ∈ rules, Text.isBlankText r.content = false) :
    rulesSection rules = (if rules = [] then none
      else some ("Rules:\n\n" ++ RuleFile.joined rules)).toList := by
  have hempty : (RuleFile.joined rules).isEmpty = true ↔ rules = [] := by
    rw [String.isEmpty_iff, RuleFile.joined_eq_empty_iff h]
  unfold rulesSection
  rw [RuleFile.merge_eq_joined h]
  by_cases hrules : rules = []
  · rw [if_pos (hempty.mpr hrules), if_pos hrules]
    rfl
  · rw [if_neg (mt hempty.mp hrules), if_neg hrules]
    rfl

/-- The sections that there are. -/
theorem sections_reduceOption (h : ∀ r ∈ rules, Text.isBlankText r.content = false) :
    languageSection ((language.map .str).getD .null) ++ textSection "Global Instructions" globalText ++
        textSection "Mode-specific Instructions" modeText ++ rulesSection rules =
      (sections language globalText modeText rules).reduceOption := by
  have hconcat : ∀ a b c d : Option String,
      a.toList ++ b.toList ++ c.toList ++ d.toList = [a, b, c, d].reduceOption := by
    intro a b c d
    cases a <;> cases b <;> cases c <;> cases d <;> rfl
  rw [languageSection_eq, textSection_eq, textSection_eq, rulesSection_eq h, hconcat]
  rfl

/-- There are no sections exactly if no source has anything. -/
theorem sections_reduceOption_eq_nil_iff :
    (sections language globalText modeText rules).reduceOption = [] ↔
      (language = none ∨ language = some "") ∧ Text.isBlankText globalText = true ∧
        Text.isBlankText modeText = true ∧ rules = [] := by
  have hlanguage : (∀ name, language = some name → name = "") ↔
      language = none ∨ language = some "" := by
    cases language <;> simp
  simp [sections, List.reduceOption, List.filterMap_eq_nil_iff, hlanguage]

theorem ofSections_eq (texts : List String) :
    ofSections texts = if texts = [] then "" else header ++ "\n\n" ++ "\n\n".intercalate texts := by
  cases texts <;> simp [ofSections]

theorem ofSections_eq_empty_iff {texts : List String} : ofSections texts = "" ↔ texts = [] := by
  rw [ofSections_eq]
  split
  · next hnil => exact iff_of_true rfl hnil
  · next hne =>
    refine iff_of_false (fun h => ?_) hne
    rw [← String.toList_inj, String.toList_append, String.toList_append] at h
    simp at h

/-- A request for instructions that are given as texts. -/
def textRequest (language : Option String) (globalText modeText workspace slug : String) :
    AggregationRequest where
  instructions := .str modeText
  globalInstructions := .str globalText
  workspace := .str workspace
  slug := .str slug
  language := (language.map .str).getD .null

/-- What is put together once the rules are loaded. -/
theorem result_aggregate (t : FileTree) (globalDirectory : Path) (language : Option String)
    (globalText modeText workspace slug : String) :
    (aggregate t globalDirectory (textRequest language globalText modeText workspace slug)).result =
      (loadRules t globalDirectory (.ofString workspace) (.str slug)).result.map fun loaded =>
        .str (ofSections (languageSection ((language.map .str).getD .null) ++
          textSection "Global Instructions" globalText ++
          textSection "Mode-specific Instructions" modeText ++
          rulesSection (loaded.1 ++ loaded.2))) := by
  unfold aggregate textRequest
  cases hload : (loadRules t globalDirectory (.ofString workspace) (.str slug)).result <;>
    simp [requirePath, requireText, hload, Except.map]

/-- **The instructions are the header and the sections that there are**, in order and with one empty
line between them: the language, the global text, the text of the mode, and the rules, first those of
the mode, then the global ones, then those of the workspace. They are empty exactly if no language is
given, both texts are blank and no file is a rule. That holds wherever the system sees the paths of the
files; where it finds one too long, putting the instructions together fails with that path. -/
theorem aggregate_joins_sections (ht : t.root.IsTree) (language : Option String)
    (globalText modeText workspace slug : String) :
    (Rules.SeesAll t globalDirectory (.ofString workspace) slug →
      ∃ modeRules globals locals text,
        Rules.AreAll t globalDirectory (.ofString workspace) slug modeRules globals locals ∧
        (aggregate t globalDirectory
          (textRequest language globalText modeText workspace slug)).result = .ok (.str text) ∧
        (text = "" ↔ (language = none ∨ language = some "") ∧ Text.isBlankText globalText = true ∧
          Text.isBlankText modeText = true ∧
          Rules.NoneUsable t globalDirectory (.ofString workspace) slug) ∧
        (text ≠ "" → text = header ++ "\n\n" ++ "\n\n".intercalate
          (sections language globalText modeText (modeRules ++ (globals ++ locals))).reduceOption)) ∧
    (¬ Rules.SeesAll t globalDirectory (.ofString workspace) slug → ∃ p, ¬ t.Sees p ∧
      (aggregate t globalDirectory
        (textRequest language globalText modeText workspace slug)).result =
          .error (.unreadable ⟨.nameTooLong, p⟩)) := by
  constructor
  · intro hsees
    obtain ⟨modeRules, globals, locals, hall, hload⟩ := loadRules_loads ht hsees
    have hresult := result_aggregate t globalDirectory language globalText modeText workspace slug
    rw [hload, Except.map, sections_reduceOption hall.not_blank] at hresult
    refine ⟨modeRules, globals, locals, _, hall, hresult, ?_, fun hne => ?_⟩
    · rw [ofSections_eq_empty_iff, sections_reduceOption_eq_nil_iff, hall.eq_nil_iff]
    · rw [ofSections_eq, if_neg (mt ofSections_eq_empty_iff.mpr hne)]
  · intro hunseen
    obtain ⟨p, hp, hload⟩ := loadRules_stops ht hunseen
    refine ⟨p, hp, ?_⟩
    rw [result_aggregate, hload]
    rfl

/-- Two rules for the mode `code`, one in the global directory, and a single file of the workspace. -/
def guideTree : FileTree where
  root := .directory [("home", .directory [("g.md", .file [71])]), ("work", .directory
    [(".modeguardrules", .file [76]), (".modeguard", .directory
      [("rules-code", .directory [("b.md", .file [66]), ("a.md", .file [65])])])])]

theorem guideTree_isTree : guideTree.root.IsTree := by
  repeat' apply FileNode.IsTree.entry
  all_goals first | exact .file _ | exact .empty | decide

theorem guideTree_sections :
    guideTree.root.IsTree ∧ Rules.SeesAll guideTree ⟨"", ["home"]⟩ (.ofString "work") "code" ∧
    ∃ modeRules globals locals,
      Rules.AreAll guideTree ⟨"", ["home"]⟩ (.ofString "work") "code" modeRules globals locals ∧
      (aggregate guideTree ⟨"", ["home"]⟩
        (textRequest (some "French") "" " Be brief.\n" "work" "code")).result =
          .ok (.str (header ++ "\n\n" ++ "\n\n".intercalate (sections (some "French") ""
            " Be brief.\n" (modeRules ++ (globals ++ locals))).reduceOption)) := by
  have hmode : guideTree.probe ((Path.ofString "work").join (Rules.modeDirectory "code")) =
      .ok (some (.directory [("b.md", .file [66]), ("a.md", .file [65])])) := rfl
  have hglobal : guideTree.probe ⟨"", ["home"]⟩ =
      .ok (some (.directory [("g.md", .file [71])])) := rfl
  have hlocal : guideTree.probe ((Path.ofString "work").join Rules.directory) = .ok none := rfl
  have hsees : Rules.SeesAll guideTree ⟨"", ["home"]⟩ (.ofString "work") "code" := by
    refine ⟨⟨⟨⟨_, hmode⟩, fun entries hdir e he => ?_⟩, fun _ => ⟨_, rfl⟩⟩,
      ⟨⟨_, hglobal⟩, fun entries hdir e he => ?_⟩,
      ⟨⟨_, hlocal⟩, fun entries hdir => ?_⟩, fun _ => ⟨_, rfl⟩⟩
    · obtain rfl : _ = entries := by simpa [hmode] using hdir
      have hshort : ∀ name ∈ ["b.md", "a.md"], (((Path.ofString "work").join
          (Rules.modeDirectory "code")).child name).toString.utf8ByteSize ≤ 4095 := by decide
      exact (FileTree.sees_child_iff guideTree_isTree hmode he).mpr
        (hshort _ (List.mem_map_of_mem he))
    · obtain rfl : _ = entries := by simpa [hglobal] using hdir
      have hshort : ∀ name ∈ ["g.md"],
          (Path.child ⟨"", ["home"]⟩ name).toString.utf8ByteSize ≤ 4095 := by decide
      exact (FileTree.sees_child_iff guideTree_isTree hglobal he).mpr
        (hshort _ (List.mem_map_of_mem he))
    · exact absurd (hlocal.symm.trans hdir) (by simp)
  obtain ⟨modeRules, globals, locals, text, hall, hresult, hempty, htext⟩ :=
    (aggregate_joins_sections guideTree_isTree (some "French") "" " Be brief.\n" "work" "code").1 hsees
  have hne : text ≠ "" := fun h => absurd (hempty.mp h).1 (by simp)
  exact ⟨guideTree_isTree, hsees, modeRules, globals, locals, hall, htext hne ▸ hresult⟩

end Instructions

end ModePolicy
