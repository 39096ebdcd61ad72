import ModePolicy.Proofs.Instructions.Directory
import ModePolicy.Proofs.Instructions.Locations

/-!
# Which rules are loaded

The rules for every mode are those of the global directory and then those of the workspace, where a
single file stands in for a directory without rules; for one mode there are only those of the
workspace. `Rules.AreEither` and `Rules.AreGeneral` say which rules these are, by what the directories
hold and the single files say, and there is just one such list (`AreEither.unique`,
`AreGeneral.unique`). So files that are no rules make no difference, and neither does the order in
which the system lists files.

The main theorem is `usable_files_load`. It is bounded by what the system sees: a path that it finds
too long is not taken for a missing one, and loading fails there.
-/

namespace ModePolicy

/-! ## A directory or a single file -/

namespace FileTree

/-- A path names a regular file that says something. -/
def SaysAt (t : FileTree) (path : Path) (content : String) : Prop :=
  ∃ bytes, t.probe path = .ok (some (.file bytes)) ∧ Says bytes content

theorem SaysAt.unique {t : FileTree} {path : Path} {content other : String}
    (h : t.SaysAt path content) (h' : t.SaysAt path other) : content = other := by
  obtain ⟨bytes, hprobe, htext⟩ := h
  obtain ⟨bytes', hprobe', htext'⟩ := h'
  obtain rfl : bytes = bytes' := by simpa [hprobe] using hprobe'
  exact htext.unique htext'

end FileTree

namespace Rules

section Alternatives

variable {t t' : FileTree} {directory single : Path} {source : String}

/-- The rules are that of a single file, if it says something. -/
def AreSingle (t : FileTree) (single : Path) (source : String) (rules : List RuleFile) : Prop :=
  (∃ content, t.SaysAt single content ∧ rules = [⟨single, content, source⟩]) ∨
    (∀ content, ¬ t.SaysAt single content) ∧ rules = []

/-- The rules of a single file are told by what it says, also in another tree. -/
theorem AreSingle.unique {rules others : List RuleFile} (h : AreSingle t single source rules)
    (h' : AreSingle t' single source others)
    (halike : ∀ content, t.SaysAt single content ↔ t'.SaysAt single content) : rules = others := by
  rcases h with ⟨content, htext, rfl⟩ | ⟨hnone, rfl⟩ <;>
    rcases h' with ⟨content', htext', rfl⟩ | ⟨hnone', rfl⟩
  · rw [((halike content).mp htext).unique htext']
  · exact absurd ((halike content).mp htext) (hnone' content)
  · exact absurd ((halike content').mpr htext') (hnone content')
  · rfl

theorem readSingle_loads (h : t.Sees single) :
    ∃ rules, (readSingle t single source).result = .ok rules ∧ AreSingle t single source rules := by
  obtain ⟨found, hfound⟩ := h
  unfold readSingle
  rw [Report.result_bind, Report.result_lift, probe_of_found hfound]
  rcases found with _ | (bytes | entries)
  · exact ⟨[], rfl, Or.inr ⟨by simp [FileTree.SaysAt, hfound], rfl⟩⟩
  · have htext : ∀ content, t.SaysAt single content ↔ Says bytes content := by
      simp [FileTree.SaysAt, hfound]
    refine ⟨(fileRule? single source bytes).toList, by simp [result_readFile], ?_⟩
    cases hrule : fileRule? single source bytes with
    | some rule =>
      obtain ⟨content, hcontent, rfl⟩ := fileRule?_eq_some_iff.mp hrule
      exact Or.inl ⟨content, (htext content).mpr hcontent, rfl⟩
    | none =>
      have hnone := fileRule?_eq_none_iff.mp hrule
      exact Or.inr ⟨fun content hcontent => hnone content ((htext content).mp hcontent), rfl⟩
  · exact ⟨[], rfl, Or.inr ⟨by simp [FileTree.SaysAt, hfound], rfl⟩⟩

theorem readSingle_stops (h : ¬ t.Sees single) :
    (readSingle t single source).result = .error (.unreadable ⟨.nameTooLong, single⟩) := by
  rw [readSingle, Report.result_bind, Report.result_lift, probe_of_unseen h]
  rfl

theorem readSingle_eq_ok_iff {rules : List RuleFile} :
    (readSingle t single source).result = .ok rules ↔
      t.Sees single ∧ AreSingle t single source rules := by
  constructor
  · intro h
    have hsees : t.Sees single := by
      by_contra hnot
      exact absurd (h.symm.trans (readSingle_stops hnot)) (by simp)
    obtain ⟨others, hothers, hare⟩ := @readSingle_loads t single source hsees
    obtain rfl := Except.ok.inj (h.symm.trans hothers)
    exact ⟨hsees, hare⟩
  · intro h
    obtain ⟨others, hothers, hare⟩ := @readSingle_loads t single source h.1
    rw [hothers, hare.unique h.2 fun _ => Iff.rfl]

/-- The rules are those of a directory, or if it holds none that of a single file. -/
def AreEither (t : FileTree) (directory single : Path) (source : String) (rules : List RuleFile) :
    Prop :=
  (AreOf t directory source rules ∧ rules ≠ []) ∨
    AreOf t directory source [] ∧ AreSingle t single source rules

/-- The system sees the files of a directory and, if there are no rules in them, a single file. -/
def SeesEither (t : FileTree) (directory single : Path) : Prop :=
  t.Lists directory ∧ ((∀ name content, ¬ t.HoldsRule directory name content) → t.Sees single)

theorem SeesEither.exists_rules (ht : t.root.IsTree) (h : SeesEither t directory single)
    (source : String) : ∃ rules, AreEither t directory single source rules := by
  obtain ⟨rules, -, hare⟩ := @readDirectory_loads t directory source ht h.1
  by_cases hnil : rules = []
  · subst hnil
    obtain ⟨rules, -, hone⟩ := @readSingle_loads t single source (h.2 (areOf_nil_iff.mp hare))
    exact ⟨rules, Or.inr ⟨hare, hone⟩⟩
  · exact ⟨rules, Or.inl ⟨hare, hnil⟩⟩

theorem readEither_eq_ok_iff (ht : t.root.IsTree) {rules : List RuleFile} :
    (readEither t directory single source).result = .ok rules ↔
      SeesEither t directory single ∧ AreEither t directory single source rules := by
  unfold readEither
  rw [Report.bind_succeeds]
  constructor
  · intro h
    obtain ⟨held, hheld, hrest⟩ := h
    obtain ⟨hlists, hare⟩ := (readDirectory_eq_ok_iff ht).mp hheld
    cases held with
    | cons rule rest =>
      obtain rfl : rule :: rest = rules := Except.ok.inj hrest
      refine ⟨⟨hlists, fun hnone => ?_⟩, Or.inl ⟨hare, by simp⟩⟩
      exact absurd (hare.unique (areOf_nil_iff.mpr hnone)) (by simp)
    | nil =>
      obtain ⟨hsees, hone⟩ := readSingle_eq_ok_iff.mp hrest
      exact ⟨⟨hlists, fun _ => hsees⟩, Or.inr ⟨hare, hone⟩⟩
  · intro h
    obtain ⟨⟨hlists, hsees⟩, ⟨hare, hne⟩ | ⟨hnil, hone⟩⟩ := h
    · refine ⟨rules, (readDirectory_eq_ok_iff ht).mpr ⟨hlists, hare⟩, ?_⟩
      rw [if_neg (by simpa using hne)]
      rfl
    · exact ⟨[], (readDirectory_eq_ok_iff ht).mpr ⟨hlists, hnil⟩,
        readSingle_eq_ok_iff.mpr ⟨hsees (areOf_nil_iff.mp hnil), hone⟩⟩

/-- A single file that says something contributes its rule exactly if the directory holds none. -/
theorem AreEither.single_mem_iff {rules : List RuleFile} {content : String}
    (h : AreEither t directory single source rules) (htext : t.SaysAt single content)
    (hother : ∀ name, single ≠ directory.child name) :
    ⟨single, content, source⟩ ∈ rules ↔ ∀ name content, ¬ t.HoldsRule directory name content := by
  rcases h with ⟨hare, hne⟩ | ⟨hnil, hone⟩
  · refine iff_of_false (fun hmem => ?_) fun hnone => hne ?_
    · obtain ⟨name, _, -, hrule⟩ := (hare.mem_iff _).mp hmem
      exact hother name (congrArg RuleFile.path hrule)
    · exact hare.unique (areOf_nil_iff.mpr hnone)
  · refine iff_of_true ?_ (areOf_nil_iff.mp hnil)
    rcases hone with ⟨content', htext', rfl⟩ | ⟨hnone, -⟩
    · rw [htext.unique htext']
      exact List.mem_singleton_self _
    · exact absurd htext (hnone content)

/-- What is read has rules alike in both trees: the directory holds the same and the single file says
the same. The order of files, blank files, files that are not UTF-8 and directories in the directory
may differ. -/
structure RulesAlike (t t' : FileTree) (directory single : Path) : Prop where
  held : ∀ name content, t.HoldsRule directory name content ↔ t'.HoldsRule directory name content
  said : ∀ content, t.SaysAt single content ↔ t'.SaysAt single content

theorem AreEither.unique {rules others : List RuleFile}
    (h : AreEither t directory single source rules) (h' : AreEither t' directory single source others)
    (halike : RulesAlike t t' directory single) : rules = others := by
  rcases h with ⟨hare, hne⟩ | ⟨hnil, hone⟩ <;> rcases h' with ⟨hare', hne'⟩ | ⟨hnil', hone'⟩
  · exact (hare.congr halike.held).unique hare'
  · exact absurd ((hare.congr halike.held).unique hnil') hne
  · exact absurd (hare'.unique (hnil.congr halike.held)) hne'
  · exact hone.unique hone' halike.said

end Alternatives

/-! ## The rules of a workspace -/

section Workspaces

variable {t t' : FileTree} {globalDirectory workspace : Path} {slug : String}
  {rules others : List RuleFile}

/-- The rules for every mode are those that the global directory holds, followed by those of the
workspace. -/
def AreGeneral (t : FileTree) (globalDirectory workspace : Path) (rules : List RuleFile) : Prop :=
  ∃ globals locals, AreOf t globalDirectory "global" globals ∧
    AreEither t (workspace.join directory) (workspace.join singleFile) "local" locals ∧
    rules = globals ++ locals

/-- The system sees the files that may have rules for every mode. -/
def SeesGeneral (t : FileTree) (globalDirectory workspace : Path) : Prop :=
  t.Lists globalDirectory ∧ SeesEither t (workspace.join directory) (workspace.join singleFile)

theorem general_eq_ok_iff (ht : t.root.IsTree) :
    (general t globalDirectory workspace).result = .ok rules ↔
      SeesGeneral t globalDirectory workspace ∧ AreGeneral t globalDirectory workspace rules := by
  unfold general AreGeneral SeesGeneral
  simp only [Report.bind_succeeds, readDirectory_eq_ok_iff ht, readEither_eq_ok_iff ht]
  constructor
  · intro h
    obtain ⟨globals, ⟨hlists, hglobal⟩, locals, ⟨hsees, hlocal⟩, hrules⟩ := h
    exact ⟨⟨hlists, hsees⟩, globals, locals, hglobal, hlocal, (Except.ok.inj hrules).symm⟩
  · intro h
    obtain ⟨⟨hlists, hsees⟩, globals, locals, hglobal, hlocal, rfl⟩ := h
    exact ⟨globals, ⟨hlists, hglobal⟩, locals, ⟨hsees, hlocal⟩, rfl⟩

theorem SeesGeneral.exists_rules (ht : t.root.IsTree) (h : SeesGeneral t globalDirectory workspace) :
    ∃ rules, AreGeneral t globalDirectory workspace rules := by
  obtain ⟨globals, -, hglobal⟩ := @readDirectory_loads t globalDirectory "global" ht h.1
  obtain ⟨locals, hlocal⟩ := h.2.exists_rules ht "local"
  exact ⟨_, globals, locals, hglobal, hlocal, rfl⟩

/-- The single file with rules for every mode is used exactly if the directory holds none. -/
theorem AreGeneral.single_mem_iff {content : String} (h : AreGeneral t globalDirectory workspace rules)
    (htext : t.SaysAt (workspace.join singleFile) content) :
    ⟨workspace.join singleFile, content, "local"⟩ ∈ rules ↔
      ∀ name content, ¬ t.HoldsRule (workspace.join directory) name content := by
  obtain ⟨globals, locals, hglobal, hlocal, rfl⟩ := h
  have hnot : ⟨workspace.join singleFile, content, "local"⟩ ∉ globals := by
    intro hmem
    obtain ⟨_, _, -, hrule⟩ := (hglobal.mem_iff _).mp hmem
    exact absurd (congrArg RuleFile.source hrule) (by simp)
  rw [List.mem_append, or_iff_right hnot]
  exact hlocal.single_mem_iff htext fun _ => singleFile_not_child

theorem AreGeneral.unique (h : AreGeneral t globalDirectory workspace rules)
    (h' : AreGeneral t' globalDirectory workspace others)
    (hglobal : ∀ name content,
      t.HoldsRule globalDirectory name content ↔ t'.HoldsRule globalDirectory name content)
    (hlocal : RulesAlike t t' (workspace.join directory) (workspace.join singleFile)) :
    rules = others := by
  obtain ⟨globals, locals, hglobals, hlocals, rfl⟩ := h
  obtain ⟨globals', locals', hglobals', hlocals', rfl⟩ := h'
  rw [(hglobals.congr hglobal).unique hglobals', hlocals.unique hlocals' hlocal]

/-- **Rule directories load exactly their usable files**, as far as the system sees their paths: in
ascending order of their names, and nothing where there is no directory. What is loaded for every mode
and for one mode is told by the rules that are held by the directories and said by the single files,
and a single file that says something is used exactly if the directory holds no rule. -/
theorem usable_files_load (ht : t.root.IsTree) (ht' : t'.root.IsTree) :
    -- a directory: its rules, or the path that is too long
    (∀ directory source,
      (t.Lists directory → ∃ rules, (readDirectory t directory source).result = .ok rules ∧
        AreOf t directory source rules) ∧
      (¬ t.Lists directory → ∃ p, ¬ t.Sees p ∧ (p = directory ∨ ∃ name, p = directory.child name) ∧
        (readDirectory t directory source).result = .error (.unreadable ⟨.nameTooLong, p⟩)) ∧
      (t.Sees directory → (∀ entries, t.probe directory ≠ .ok (some (.directory entries))) →
        (readDirectory t directory source).result = .ok [])) ∧
    -- rules for every mode: two trees, and the single file
    (∀ globalDirectory workspace, SeesGeneral t globalDirectory workspace →
      (SeesGeneral t' globalDirectory workspace →
        (∀ name content,
          t.HoldsRule globalDirectory name content ↔ t'.HoldsRule globalDirectory name content) →
        RulesAlike t t' (workspace.join directory) (workspace.join singleFile) →
        ∃ rules, (general t globalDirectory workspace).result = .ok rules ∧
          (general t' globalDirectory workspace).result = .ok rules) ∧
      ∀ content, t.SaysAt (workspace.join singleFile) content →
        ∃ rules, (general t globalDirectory workspace).result = .ok rules ∧
          (⟨workspace.join singleFile, content, "local"⟩ ∈ rules ↔
            ∀ name content, ¬ t.HoldsRule (workspace.join directory) name content)) ∧
    -- rules for one mode: the same
    (∀ workspace slug,
      SeesEither t (workspace.join (modeDirectory slug)) (workspace.join (modeSingleFile slug)) →
      (SeesEither t' (workspace.join (modeDirectory slug)) (workspace.join (modeSingleFile slug)) →
        RulesAlike t t' (workspace.join (modeDirectory slug)) (workspace.join (modeSingleFile slug)) →
        ∃ rules, (forMode t workspace slug).result = .ok rules ∧
          (forMode t' workspace slug).result = .ok rules) ∧
      ∀ content, t.SaysAt (workspace.join (modeSingleFile slug)) content →
        ∃ rules, (forMode t workspace slug).result = .ok rules ∧
          (⟨workspace.join (modeSingleFile slug), content, "mode"⟩ ∈ rules ↔
            ∀ name content, ¬ t.HoldsRule (workspace.join (modeDirectory slug)) name content)) := by
  refine ⟨fun directory source => ⟨readDirectory_loads ht, readDirectory_stops, fun hsees hnone => ?_⟩,
    fun globalDirectory workspace hsees => ⟨fun hsees' hglobal hlocal => ?_, fun content htext => ?_⟩,
    fun workspace slug hsees => ⟨fun hsees' halike => ?_, fun content htext => ?_⟩⟩
  · -- where there is no directory, there are no paths in it to be seen
    exact (readDirectory_eq_ok_iff ht).mpr
      ⟨⟨hsees, fun entries hdir => absurd hdir (hnone entries)⟩, areOf_nil hnone⟩
  · obtain ⟨rules, hare⟩ := hsees.exists_rules ht
    obtain ⟨others, hare'⟩ := hsees'.exists_rules ht'
    obtain rfl := hare.unique hare' hglobal hlocal
    exact ⟨rules, (general_eq_ok_iff ht).mpr ⟨hsees, hare⟩, (general_eq_ok_iff ht').mpr ⟨hsees', hare'⟩⟩
  · obtain ⟨rules, hare⟩ := hsees.exists_rules ht
    exact ⟨rules, (general_eq_ok_iff ht).mpr ⟨hsees, hare⟩, hare.single_mem_iff htext⟩
  · obtain ⟨rules, hare⟩ := hsees.exists_rules ht "mode"
    obtain ⟨others, hare'⟩ := hsees'.exists_rules ht' "mode"
    obtain rfl := hare.unique hare' halike
    exact ⟨rules, (readEither_eq_ok_iff ht).mpr ⟨hsees, hare⟩,
      (readEither_eq_ok_iff ht').mpr ⟨hsees', hare'⟩⟩
  · obtain ⟨rules, hare⟩ := hsees.exists_rules ht "mode"
    exact ⟨rules, (readEither_eq_ok_iff ht).mpr ⟨hsees, hare⟩,
      hare.single_mem_iff htext fun _ => modeSingleFile_not_child⟩

end Workspaces

/-- Two rules for a mode among files that are no rules, and a single file for the same mode. -/
def crowdedTree : FileTree where
  root := .directory [(".modeguardrules-code", .file [67]), (".modeguard", .directory
    [("rules-code", .directory [("b.md", .file [66]), ("blank.md", .file [10]),
      ("more", .directory []), ("a.md", .file [65]), ("odd.md", .file [255])])])]

/-- The two rules in the other order, and the single file. -/
def tidyTree : FileTree where
  root := .directory [(".modeguardrules-code", .file [67]), (".modeguard", .directory
    [("rules-code", .directory [("a.md", .file [65]), ("b.md", .file [66])])])]

theorem crowdedTree_isTree : crowdedTree.root.IsTree := by
  repeat' apply FileNode.IsTree.entry
  all_goals first | exact .file _ | exact .empty | decide

theorem tidyTree_isTree : tidyTree.root.IsTree := by
  repeat' apply FileNode.IsTree.entry
  all_goals first | exact .file _ | exact .empty | decide

theorem crowdedTree_loads_as_tidyTree : ∃ rules,
    (forMode crowdedTree {} "code").result = .ok rules ∧
      (forMode tidyTree {} "code").result = .ok rules := by
  have hcrowded : crowdedTree.probe (Path.join {} (modeDirectory "code")) =
      .ok (some (.directory [("b.md", .file [66]), ("blank.md", .file [10]), ("more", .directory []),
        ("a.md", .file [65]), ("odd.md", .file [255])])) := rfl
  have htidy : tidyTree.probe (Path.join {} (modeDirectory "code")) =
      .ok (some (.directory [("a.md", .file [65]), ("b.md", .file [66])])) := rfl
  have hsingle : crowdedTree.probe (Path.join {} (modeSingleFile "code")) =
      .ok (some (.file [67])) := rfl
  have hsingle' : tidyTree.probe (Path.join {} (modeSingleFile "code")) =
      .ok (some (.file [67])) := rfl
  have hshort : ∀ name ∈ ["b.md", "blank.md", "more", "a.md", "odd.md"],
      ((Path.join {} (modeDirectory "code")).child name).toString.utf8ByteSize ≤ 4095 := by
    decide
  have hblank : ∀ content, ¬ Says [10] content :=
    (@fileRule?_eq_none_iff {} "" _).mp rfl
  have hodd : ∀ content, ¬ Says [255] content :=
    (@fileRule?_eq_none_iff {} "" _).mp rfl
  have hlists : crowdedTree.Lists (Path.join {} (modeDirectory "code")) := by
    refine ⟨⟨_, hcrowded⟩, fun entries hdir e he => ?_⟩
    obtain rfl : _ = entries := by simpa [hcrowded] using hdir
    exact (FileTree.sees_child_iff crowdedTree_isTree hcrowded he).mpr
      (hshort _ (List.mem_map_of_mem he))
  have hlists' : tidyTree.Lists (Path.join {} (modeDirectory "code")) := by
    refine ⟨⟨_, htidy⟩, fun entries hdir e he => ?_⟩
    obtain rfl : _ = entries := by simpa [htidy] using hdir
    have hnames : ["a.md", "b.md"] ⊆ ["b.md", "blank.md", "more", "a.md", "odd.md"] := by decide
    exact (FileTree.sees_child_iff tidyTree_isTree htidy he).mpr
      (hshort _ (hnames (List.mem_map_of_mem he)))
  refine ((usable_files_load crowdedTree_isTree tidyTree_isTree).2.2 {} "code"
    ⟨hlists, fun _ => ⟨_, hsingle⟩⟩).1 ⟨hlists', fun _ => ⟨_, hsingle'⟩⟩ ⟨?_, ?_⟩
  · intro name content
    rw [holdsRule_listed_iff hcrowded, holdsRule_listed_iff htidy]
    simp [or_and_right, exists_or, and_assoc, hblank, hodd, or_comm]
  · intro content
    simp only [FileTree.SaysAt, hsingle, hsingle']

end Rules
end ModePolicy
