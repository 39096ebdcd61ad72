import ModePolicy.Instructions.Rules
import ModePolicy.Proofs.Files.Tree
import ModePolicy.Proofs.Text.Utf8

/-!
# Which rules a directory has

A file in a directory is a rule if it is a regular file whose bytes are UTF-8 and whose text is not
blank; its content is the text with line feeds at the ends of its lines (`Says`). Reading a file never
fails, whatever is in it (`Rules.result_readFile`), so files do not stand in each other's way: what a
directory has is told file by file (`FileTree.HoldsRule`), and the order in which the system lists the
files does not count, since they are sorted by their names.

> `Rules.readDirectory_eq_ok_iff`: reading a directory gives the rules that it holds, in ascending
> order of their names, exactly if the system sees its path and the paths of the files in it.

Where the system finds a path too long, reading fails with that path (`Rules.readDirectory_stops`).
-/

namespace ModePolicy

/-! ## Usable files -/

/-- The bytes say something as a rule: they are the UTF-8 form of a text that is not blank, and it is
that text with line feeds at the ends of its lines. -/
def Says (bytes : List UInt8) (content : String) : Prop :=
  ∃ text : String, bytes = text.toList.flatMap String.utf8EncodeChar ∧
    Text.isBlankText text = false ∧ content = String.ofList (Text.normalizeLineEnds text.toList)

theorem Says.unique {bytes : List UInt8} {content other : String} (h : Says bytes content)
    (h' : Says bytes other) : content = other := by
  obtain ⟨text, hbytes, -, rfl⟩ := h
  obtain ⟨text', hbytes', -, rfl⟩ := h'
  have hdecode := Text.Utf8.decode_eq_ok_iff.mpr hbytes
  have hdecode' := Text.Utf8.decode_eq_ok_iff.mpr hbytes'
  rw [Except.ok.inj (hdecode.symm.trans hdecode')]

/-- Line ends are blank in either form. -/
theorem all_isBlank_normalizeLineEnds (cs : List Char) :
    (Text.normalizeLineEnds cs).all Text.isBlank = cs.all Text.isBlank := by
  have hfeed : Text.isBlank '\n' = true := rfl
  have hreturn : Text.isBlank '\r' = true := rfl
  fun_induction Text.normalizeLineEnds cs with
  | case1 => rfl
  | case2 rest ih => simp [ih, hfeed, hreturn]
  | case3 rest hother ih => simp [ih, hfeed, hreturn]
  | case4 c rest hother hreturn ih => simp [ih]

namespace Rules

/-- The rule that reading a file gives, if the bytes have one in them. -/
def fileRule? (path : Path) (source : String) (bytes : List UInt8) : Option RuleFile :=
  (readFile path source bytes).result.toOption.join

/-- Reading a file always succeeds. -/
theorem result_readFile (path : Path) (source : String) (bytes : List UInt8) :
    (readFile path source bytes).result = .ok (fileRule? path source bytes) := by
  unfold fileRule? readFile
  cases Text.Utf8.decode bytes with
  | ok cs => rfl
  | error why => rfl

/-- It gives a rule exactly if the bytes say something. -/
theorem fileRule?_eq_some_iff {path : Path} {source : String} {bytes : List UInt8} {rule : RuleFile} :
    fileRule? path source bytes = some rule ↔
      ∃ content, Says bytes content ∧ rule = ⟨path, content, source⟩ := by
  have hblank : ∀ cs, Text.isBlankText (String.ofList (Text.normalizeLineEnds cs)) =
      cs.all Text.isBlank := by
    intro cs
    rw [Text.isBlankText, String.toList_ofList, all_isBlank_normalizeLineEnds]
  constructor
  · intro h
    cases hdecode : Text.Utf8.decode bytes with
    | error why => exact absurd h (by simp [fileRule?, readFile, hdecode, Except.toOption])
    | ok cs =>
      have hread : (if cs.all Text.isBlank = true then none else
          some ⟨path, String.ofList (Text.normalizeLineEnds cs), source⟩) = some rule := by
        rw [← hblank]
        simpa [fileRule?, readFile, hdecode, Except.toOption] using h
      split at hread
      · exact absurd hread (by simp)
      · next hsaid =>
        refine ⟨_, ⟨String.ofList cs, ?_, ?_, ?_⟩, (Option.some.inj hread).symm⟩
        · rw [String.toList_ofList]
          exact Text.Utf8.decode_eq_ok_iff.mp hdecode
        · rw [Text.isBlankText, String.toList_ofList]
          exact Bool.eq_false_iff.mpr hsaid
        · rw [String.toList_ofList]
  · intro h
    obtain ⟨content, ⟨text, hbytes, hsaid, rfl⟩, rfl⟩ := h
    have hdecode := Text.Utf8.decode_eq_ok_iff.mpr hbytes
    have hnot : Text.isBlankText (String.ofList (Text.normalizeLineEnds text.toList)) = false := by
      rw [hblank]
      exact hsaid
    simp [fileRule?, readFile, hdecode, hnot, Except.toOption]

theorem fileRule?_eq_none_iff {path : Path} {source : String} {bytes : List UInt8} :
    fileRule? path source bytes = none ↔ ∀ content, ¬ Says bytes content := by
  rw [Option.eq_none_iff_forall_ne_some]
  constructor
  · intro h content htext
    exact h _ (fileRule?_eq_some_iff.mpr ⟨content, htext, rfl⟩)
  · intro h rule hrule
    obtain ⟨content, htext, -⟩ := fileRule?_eq_some_iff.mp hrule
    exact h content htext

end Rules

/-! ## What is in a directory -/

namespace FileTree

/-- A directory holds a rule under a name: it lists a regular file under it that says something. -/
def HoldsRule (t : FileTree) (directory : Path) (name content : String) : Prop :=
  ∃ entries bytes, t.probe directory = .ok (some (.directory entries)) ∧
    (name, .file bytes) ∈ entries ∧ Says bytes content

/-- The system sees a path and, if it names a directory, the files in it. -/
def Lists (t : FileTree) (directory : Path) : Prop :=
  t.Sees directory ∧ ∀ entries, t.probe directory = .ok (some (.directory entries)) →
    ∀ e ∈ entries, t.Sees (directory.child e.1)

end FileTree

namespace Rules

/-- The rules are those that a directory holds, in ascending order of the names of their files. -/
structure AreOf (t : FileTree) (directory : Path) (source : String) (rules : List RuleFile) : Prop where
  ascending : rules.Pairwise fun r s => r.path.name < s.path.name
  mem_iff : ∀ rule, rule ∈ rules ↔ ∃ name content, t.HoldsRule directory name content ∧
    rule = ⟨directory.child name, content, source⟩

@[simp] theorem name_child (p : Path) (name : String) : (p.child name).name = name := by
  simp [Path.name, Path.child]

theorem AreOf.nodup {t : FileTree} {directory : Path} {source : String} {rules : List RuleFile}
    (h : AreOf t directory source rules) : rules.Nodup := by
  refine h.ascending.imp fun {r s} hlt heq => ?_
  rw [heq] at hlt
  exact String.lt_irrefl _ hlt

/-- The rules in order are told by what the directory holds. -/
theorem AreOf.unique {t : FileTree} {directory : Path} {source : String} {rules others : List RuleFile}
    (h : AreOf t directory source rules) (h' : AreOf t directory source others) : rules = others := by
  have hperm : rules.Perm others := (List.perm_ext_iff_of_nodup h.nodup h'.nodup).mpr
    fun rule => (h.mem_iff rule).trans (h'.mem_iff rule).symm
  exact hperm.eq_of_pairwise (fun r s _ _ hrs hsr => absurd hrs (String.lt_asymm hsr)) h.ascending
    h'.ascending

/-- In another tree in which the directory holds the same. -/
theorem AreOf.congr {t t' : FileTree} {directory : Path} {source : String} {rules : List RuleFile}
    (h : AreOf t directory source rules)
    (hsame : ∀ name content, t.HoldsRule directory name content ↔ t'.HoldsRule directory name content) :
    AreOf t' directory source rules := by
  refine ⟨h.ascending, fun rule => (h.mem_iff rule).trans ?_⟩
  simp only [hsame]

/-- The rule in a file of a directory, if there is one. -/
def entryRule? (files : FileTree) (directory : Path) (source name : String) : Option RuleFile :=
  match files.probe (directory.child name) with
  | .ok (some (.file bytes)) => fileRule? (directory.child name) source bytes
  | _ => none

section Entries

variable {files : FileTree} {path : Path} {source name : String} {names : List String}

theorem probe_of_found {found : Option FileNode} (h : files.probe path = .ok found) :
    probe files path = .ok found := by
  rw [probe, h]
  rfl

theorem probe_of_unseen (h : ¬ files.Sees path) :
    probe files path = .error (.unreadable ⟨.nameTooLong, path⟩) := by
  rw [probe, FileTree.not_sees_iff.mp h]
  rfl

/-- Reading goes on after a file whose path the system sees. -/
theorem readEntries_cons_seen (h : files.Sees (path.child name)) :
    (readEntries files path source (name :: names)).result =
      (readEntries files path source names).result.map
        ((entryRule? files path source name).toList ++ ·) := by
  obtain ⟨found, hfound⟩ := h
  rw [readEntries, Report.result_bind, Report.result_lift, probe_of_found hfound]
  cases hrest : (readEntries files path source names).result with
  | error e =>
    rcases found with _ | (bytes | entries) <;> simp [result_readFile, hrest, Except.map]
  | ok rules =>
    rcases found with _ | (bytes | entries) <;>
      simp [result_readFile, hrest, entryRule?, hfound, Except.map]

/-- And stops at one whose path it does not see. -/
theorem readEntries_cons_unseen (h : ¬ files.Sees (path.child name)) :
    (readEntries files path source (name :: names)).result =
      .error (.unreadable ⟨.nameTooLong, path.child name⟩) := by
  rw [readEntries, Report.result_bind, Report.result_lift, probe_of_unseen h]
  rfl

theorem result_readEntries (h : ∀ name ∈ names, files.Sees (path.child name)) :
    (readEntries files path source names).result =
      .ok (names.filterMap (entryRule? files path source)) := by
  induction names with
  | nil => rfl
  | cons name rest ih =>
    obtain ⟨hname, hrest⟩ := List.forall_mem_cons.mp h
    rw [readEntries_cons_seen hname, ih hrest, List.filterMap_cons]
    cases entryRule? files path source name <;> rfl

theorem readEntries_stops (h : ∃ name ∈ names, ¬ files.Sees (path.child name)) :
    ∃ name ∈ names, ¬ files.Sees (path.child name) ∧
      (readEntries files path source names).result =
        .error (.unreadable ⟨.nameTooLong, path.child name⟩) := by
  induction names with
  | nil => exact absurd h (by simp)
  | cons name rest ih =>
    by_cases hsees : files.Sees (path.child name)
    · have hrest : ∃ name ∈ rest, ¬ files.Sees (path.child name) := by
        obtain ⟨other, hmem, hnot⟩ := h
        rcases List.mem_cons.mp hmem with rfl | hmem
        · exact absurd hsees hnot
        · exact ⟨other, hmem, hnot⟩
      obtain ⟨other, hmem, hnot, hstop⟩ := ih hrest
      refine ⟨other, List.mem_cons_of_mem _ hmem, hnot, ?_⟩
      rw [readEntries_cons_seen hsees, hstop]
      rfl
    · exact ⟨name, List.mem_cons_self .., hsees, readEntries_cons_unseen hsees⟩

end Entries

/-! ## Directories -/

theorem mem_sorted {texts : List String} {text : String} : text ∈ Text.sorted texts ↔ text ∈ texts :=
  (List.mergeSort_perm texts _).mem_iff

/-- Distinct texts are put in strictly ascending order. -/
theorem sorted_ascending {texts : List String} (h : texts.Nodup) :
    (Text.sorted texts).Pairwise (· < ·) := by
  have hsorted := @List.pairwise_mergeSort String (fun a b => decide (a ≤ b))
    (fun a b c hab hbc => by simpa using String.le_trans (by simpa using hab) (by simpa using hbc))
    (fun a b => by simpa using String.le_total a b) texts
  have hdistinct : (Text.sorted texts).Nodup := (List.mergeSort_perm texts _).nodup_iff.mpr h
  refine (hsorted.and hdistinct).imp fun {a b} hab => ?_
  obtain ⟨hle, hne⟩ := hab
  exact lt_of_le_of_ne (by simpa using hle) hne

/-- Distinct texts are put in the same order, whatever order they were in. -/
theorem sorted_congr {texts others : List String} (h : texts.Nodup) (h' : others.Nodup)
    (hsame : ∀ text, text ∈ texts ↔ text ∈ others) : Text.sorted texts = Text.sorted others := by
  have hperm : (Text.sorted texts).Perm (Text.sorted others) :=
    (List.mergeSort_perm texts _).trans <|
      ((List.perm_ext_iff_of_nodup h h').mpr hsame).trans (List.mergeSort_perm others _).symm
  exact hperm.eq_of_pairwise (fun a b _ _ hab hba => absurd hab (String.lt_asymm hba))
    (sorted_ascending h) (sorted_ascending h')

section Directories

variable {t t' : FileTree} {directory single : Path} {source : String}

/-- What a directory holds, told by the files that it lists. -/
theorem holdsRule_listed_iff {entries : List (String × FileNode)}
    (hdir : t.probe directory = .ok (some (.directory entries))) {name content : String} :
    t.HoldsRule directory name content ↔
      ∃ bytes, (name, .file bytes) ∈ entries ∧ Says bytes content := by
  constructor
  · intro h
    obtain ⟨entries', bytes, hdir', hmem, htext⟩ := h
    obtain rfl : entries = entries' := by simpa [hdir] using hdir'
    exact ⟨bytes, hmem, htext⟩
  · intro h
    obtain ⟨bytes, hmem, htext⟩ := h
    exact ⟨entries, bytes, hdir, hmem, htext⟩

/-- What a directory holds, told by the node that it lists. -/
theorem holdsRule_iff (ht : t.root.IsTree) {entries : List (String × FileNode)}
    (hdir : t.probe directory = .ok (some (.directory entries))) {name content : String}
    {node : FileNode} (hmem : (name, node) ∈ entries) :
    t.HoldsRule directory name content ↔ ∃ bytes, node = .file bytes ∧ Says bytes content := by
  cases FileTree.isTree_of_probe ht hdir with
  | directory distinct named inner =>
  rw [holdsRule_listed_iff hdir]
  constructor
  · intro h
    obtain ⟨bytes, hmem', htext⟩ := h
    have hnode := (FileNode.lookup_eq_some_iff distinct).mpr hmem
    have hfile := (FileNode.lookup_eq_some_iff distinct).mpr hmem'
    exact ⟨bytes, Option.some.inj (hnode.symm.trans hfile), htext⟩
  · intro h
    obtain ⟨bytes, rfl, htext⟩ := h
    exact ⟨bytes, hmem, htext⟩

/-- A rule of a directory is in the file under its name. -/
theorem entryRule?_eq_some_iff (ht : t.root.IsTree) {entries : List (String × FileNode)}
    (hdir : t.probe directory = .ok (some (.directory entries)))
    (hsees : ∀ e ∈ entries, t.Sees (directory.child e.1)) {name : String} {rule : RuleFile}
    (hname : name ∈ entries.map (·.1)) :
    entryRule? t directory source name = some rule ↔
      ∃ content, t.HoldsRule directory name content ∧
        rule = ⟨directory.child name, content, source⟩ := by
  obtain ⟨e, hmem, rfl⟩ := List.mem_map.mp hname
  have hprobe := FileTree.probe_child ht hdir hmem (hsees _ hmem)
  simp only [holdsRule_iff ht hdir hmem, entryRule?, hprobe]
  cases e.2 with
  | file bytes => simp [fileRule?_eq_some_iff]
  | directory inner => simp

/-- A rule in a file of a directory has the path of that file. -/
theorem path_of_entryRule? {name : String} {rule : RuleFile}
    (h : entryRule? t directory source name = some rule) : rule.path = directory.child name := by
  unfold entryRule? at h
  split at h
  · obtain ⟨content, -, rfl⟩ := fileRule?_eq_some_iff.mp h
    rfl
  · exact absurd h (by simp)

/-- What a directory holds is held by the names that it lists. -/
theorem HoldsRule.listed {entries : List (String × FileNode)}
    (hdir : t.probe directory = .ok (some (.directory entries))) {name content : String}
    (h : t.HoldsRule directory name content) : name ∈ entries.map (·.1) := by
  obtain ⟨bytes, hmem, -⟩ := (holdsRule_listed_iff hdir).mp h
  exact List.mem_map.mpr ⟨_, hmem, rfl⟩

/-- There are no rules where a directory holds none. -/
theorem areOf_nil_iff :
    AreOf t directory source [] ↔ ∀ name content, ¬ t.HoldsRule directory name content := by
  constructor
  · intro h name content hholds
    exact absurd ((h.mem_iff _).mpr ⟨name, content, hholds, rfl⟩) List.not_mem_nil
  · intro h
    refine ⟨.nil, fun rule => iff_of_false List.not_mem_nil fun hholds => ?_⟩
    obtain ⟨name, content, hholds, -⟩ := hholds
    exact h name content hholds

/-- What is no directory holds no rules. -/
theorem areOf_nil (h : ∀ entries, t.probe directory ≠ .ok (some (.directory entries))) :
    AreOf t directory source [] :=
  areOf_nil_iff.mpr fun _ _ ⟨entries, _, hdir, _⟩ => h entries hdir

/-- The rules in the files that a directory lists, by their names in order, are those it holds. -/
theorem areOf_listed (ht : t.root.IsTree) {entries : List (String × FileNode)}
    (hdir : t.probe directory = .ok (some (.directory entries)))
    (hsees : ∀ e ∈ entries, t.Sees (directory.child e.1)) :
    AreOf t directory source
      ((Text.sorted (entries.map (·.1))).filterMap (entryRule? t directory source)) := by
  refine ⟨?_, fun rule => ?_⟩
  · -- each rule has the name of its file, and the names are in order
    cases FileTree.isTree_of_probe ht hdir with
    | directory distinct named inner =>
    refine (sorted_ascending distinct).filterMap _ fun name other hlt rule hrule rule' hrule' => ?_
    rwa [path_of_entryRule? hrule, path_of_entryRule? hrule', name_child, name_child]
  · rw [List.mem_filterMap]
    constructor
    · intro hmem
      obtain ⟨name, hname, hrule⟩ := hmem
      exact ⟨name, (entryRule?_eq_some_iff ht hdir hsees (mem_sorted.mp hname)).mp hrule⟩
    · intro hholds
      obtain ⟨name, content, hholds, rfl⟩ := hholds
      have hlisted := HoldsRule.listed hdir hholds
      exact ⟨name, mem_sorted.mpr hlisted,
        (entryRule?_eq_some_iff ht hdir hsees hlisted).mpr ⟨content, hholds, rfl⟩⟩

/-- **Loading a directory gives the rules that it holds**, if the system sees the files in it. -/
theorem readDirectory_loads (ht : t.root.IsTree) (h : t.Lists directory) :
    ∃ rules, (readDirectory t directory source).result = .ok rules ∧
      AreOf t directory source rules := by
  obtain ⟨⟨found, hfound⟩, hsees⟩ := h
  unfold readDirectory
  rw [Report.result_bind, Report.result_lift, probe_of_found hfound]
  rcases found with _ | (bytes | entries)
  · exact ⟨[], rfl, areOf_nil (by simp [hfound])⟩
  · exact ⟨[], rfl, areOf_nil (by simp [hfound])⟩
  · have hnames : ∀ name ∈ Text.sorted (entries.map (·.1)), t.Sees (directory.child name) := by
      intro name hname
      obtain ⟨e, he, rfl⟩ := List.mem_map.mp (mem_sorted.mp hname)
      exact hsees entries hfound e he
    exact ⟨_, result_readEntries hnames, areOf_listed ht hfound (hsees entries hfound)⟩

/-- And it stops at a path that the system does not see, if there is one. -/
theorem readDirectory_stops (h : ¬ t.Lists directory) :
    ∃ p, ¬ t.Sees p ∧ (p = directory ∨ ∃ name, p = directory.child name) ∧
      (readDirectory t directory source).result = .error (.unreadable ⟨.nameTooLong, p⟩) := by
  by_cases hsees : t.Sees directory
  · obtain ⟨entries, hdir, e, he, hnot⟩ : ∃ entries, t.probe directory =
        .ok (some (.directory entries)) ∧ ∃ e ∈ entries, ¬ t.Sees (directory.child e.1) := by
      by_contra hnone
      push Not at hnone
      exact h ⟨hsees, hnone⟩
    have hname : ∃ name ∈ Text.sorted (entries.map (·.1)), ¬ t.Sees (directory.child name) :=
      ⟨e.1, mem_sorted.mpr (List.mem_map_of_mem he), hnot⟩
    obtain ⟨name, -, hnot, hstop⟩ := @readEntries_stops t directory source _ hname
    refine ⟨_, hnot, Or.inr ⟨name, rfl⟩, ?_⟩
    unfold readDirectory
    rw [Report.result_bind, Report.result_lift, probe_of_found hdir]
    exact hstop
  · refine ⟨directory, hsees, Or.inl rfl, ?_⟩
    unfold readDirectory
    rw [Report.result_bind, Report.result_lift, probe_of_unseen hsees]
    rfl

/-- **A directory is loaded exactly if the system sees the files in it, and the rules are those that
it holds.** -/
theorem readDirectory_eq_ok_iff (ht : t.root.IsTree) {rules : List RuleFile} :
    (readDirectory t directory source).result = .ok rules ↔
      t.Lists directory ∧ AreOf t directory source rules := by
  constructor
  · intro h
    have hlists : t.Lists directory := by
      by_contra hnot
      obtain ⟨p, -, -, hstop⟩ := @readDirectory_stops t directory source hnot
      exact absurd (h.symm.trans hstop) (by simp)
    obtain ⟨others, hothers, hare⟩ := @readDirectory_loads t directory source ht hlists
    obtain rfl := Except.ok.inj (h.symm.trans hothers)
    exact ⟨hlists, hare⟩
  · intro h
    obtain ⟨others, hothers, hare⟩ := @readDirectory_loads t directory source ht h.1
    rw [hothers, hare.unique h.2]

end Directories

end Rules
end ModePolicy
