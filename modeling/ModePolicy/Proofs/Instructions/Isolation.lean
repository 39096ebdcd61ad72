import ModePolicy.Instructions.Aggregation
import ModePolicy.Proofs.Files.Outside
import ModePolicy.Proofs.Instructions.Directory
import ModePolicy.Proofs.Instructions.Locations
import ModePolicy.Proofs.Mode.Grammar

/-!
# Rules stay with their mode

What is kept at the places with rules for one mode never reaches the instructions of another:

> `Instructions.aggregate_isolated`: for two distinct valid slugs and two trees of files that differ
> only at or below the places of one of them, `Instructions.aggregate` gives the same for the other.

A valid slug has no slashes (`IsSlug.slash_notMem`), so it stands as a whole at the end of the names of
its places, and two slugs never share one, also if one begins with the other
(`Rules.within_modePlaces_iff`). Every path that is looked for then ends outside the places where the
trees differ, and what is read there is the same in both.

The workspace and the global directory may be given by any path. If a path has steps to the parent, it
is asked that it leads to something in both trees, or fails alike in both (`FileTree.GoesAlike`): a path
through the directory of the other mode and out again leads nowhere in a tree without that directory. It
holds of a path that both trees have (`FileTree.goesAlike_of_found`), and of one that comes by no place
where they differ (`FileTree.AlikeOutside.goesAlike_of_avoids`).
-/

namespace ModePolicy

/-- A step that is no misuse is no step at all. -/
theorem Report.bind_of_ok {α β : Type} (a : α) (f : α → Report β) :
    (liftM (Except.ok a : Except Misuse α) >>= f) = f a := rfl

theorem IsSlug.slash_notMem {slug : String} (h : IsSlug slug) : '/' ∉ slug.toList := by
  intro hmem
  exact absurd (h.plain _ hmem) (by decide)

namespace Rules

variable {t t' : FileTree} {path directory single : Path} {source : String} {names : List String}

theorem readSingle_same (h : t.LooksAlike t' single) :
    readSingle t single source = readSingle t' single source := by
  unfold readSingle probe
  rcases h.cases with ⟨e, hfound, hfound'⟩ | ⟨hfound, hfound'⟩ | ⟨bytes, hfound, hfound'⟩ |
    ⟨entries, entries', hfound, hfound'⟩
  all_goals rw [hfound, hfound']
  rfl

theorem readEntries_same (h : ∀ name ∈ names, t.LooksAlike t' (path.child name)) :
    readEntries t path source names = readEntries t' path source names := by
  induction names with
  | nil => rfl
  | cons name rest ih =>
    obtain ⟨hname, hrest⟩ := List.forall_mem_cons.mp h
    unfold readEntries probe
    rw [ih hrest]
    rcases hname.cases with ⟨e, hfound, hfound'⟩ | ⟨hfound, hfound'⟩ | ⟨bytes, hfound, hfound'⟩ |
      ⟨entries, entries', hfound, hfound'⟩
    all_goals rw [hfound, hfound']
    rfl

/-- A directory that is the same in both trees. -/
theorem readDirectory_same (ht : t.root.IsTree) (ht' : t'.root.IsTree) (h : t.SameIn t' directory) :
    readDirectory t directory source = readDirectory t' directory source := by
  unfold readDirectory probe
  rcases h.looks.cases with ⟨e, hfound, hfound'⟩ | ⟨hfound, hfound'⟩ | ⟨bytes, hfound, hfound'⟩ |
    ⟨entries, entries', hfound, hfound'⟩
  · rw [hfound, hfound']
    rfl
  · rw [hfound, hfound']
    rfl
  · rw [hfound, hfound']
    rfl
  · have hsorted : Text.sorted (entries.map (·.1)) = Text.sorted (entries'.map (·.1)) := by
      cases FileTree.isTree_of_probe ht hfound with
      | directory distinct named inner =>
      cases FileTree.isTree_of_probe ht' hfound' with
      | directory distinct' named' inner' =>
      exact sorted_congr distinct distinct' (h.lists entries entries' hfound hfound')
    have hnames : ∀ name ∈ Text.sorted (entries.map (·.1)), t.LooksAlike t' (directory.child name) := by
      intro name hname
      obtain ⟨e, he, rfl⟩ := List.mem_map.mp (mem_sorted.mp hname)
      cases FileTree.isTree_of_probe ht hfound with
      | directory distinct named inner => exact h.inner e.1 (named e he).notParent
    have hread := @readEntries_same t t' directory source _ hnames
    rw [hfound, hfound']
    show readEntries t directory source _ = readEntries t' directory source _
    rw [hread, hsorted]

theorem readEither_same (ht : t.root.IsTree) (ht' : t'.root.IsTree) (h : t.SameIn t' directory)
    (hsingle : t.LooksAlike t' single) :
    readEither t directory single source = readEither t' directory single source := by
  unfold readEither
  rw [readDirectory_same ht ht' h, readSingle_same hsingle]

/-! ## Where the rules of another mode are -/

section Modes

variable {workspace globalDirectory : Path} {slug other : String}

/-- The places of the directory and of the single file with the rules for a mode. -/
def modePlaces (t : FileTree) (workspace : Path) (slug : String) : List (List String) :=
  [t.place (workspace.join (.ofString (".modeguard/rules-" ++ slug))),
    t.place (workspace.join (.ofString (".modeguardrules-" ++ slug)))]

theorem parts_modeDirectory (hslug : IsSlug slug) :
    (modeDirectory slug).parts = [".modeguard", "rules-" ++ slug] := by
  obtain ⟨piece, others, hdirectory, -, hplain⟩ := modePaths_parts slug
  obtain ⟨rfl, rfl⟩ := hplain hslug.slash_notMem
  exact hdirectory

theorem parts_modeSingleFile (hslug : IsSlug slug) :
    (modeSingleFile slug).parts = [".modeguardrules-" ++ slug] := by
  obtain ⟨piece, others, -, hsingle, hplain⟩ := modePaths_parts slug
  obtain ⟨rfl, rfl⟩ := hplain hslug.slash_notMem
  exact hsingle

/-- Neither path has steps to the parent. -/
theorem modeDirectory_plain (hslug : IsSlug slug) : ".." ∉ (modeDirectory slug).parts := by
  rw [parts_modeDirectory hslug]
  simp [← String.toList_inj, String.toList_append]

theorem modeSingleFile_plain (hslug : IsSlug slug) : ".." ∉ (modeSingleFile slug).parts := by
  rw [parts_modeSingleFile hslug]
  simp [← String.toList_inj, String.toList_append]

theorem modePlaces_eq (hslug : IsSlug slug) :
    modePlaces t workspace slug =
      [t.place workspace ++ [".modeguard", "rules-" ++ slug],
        t.place workspace ++ [".modeguardrules-" ++ slug]] := by
  have hdirectory : t.place (workspace.join (modeDirectory slug)) =
      t.place workspace ++ [".modeguard", "rules-" ++ slug] := by
    rw [← parts_modeDirectory hslug]
    exact FileTree.place_join (anchor_modeDirectory slug) (modeDirectory_plain hslug)
  have hsingle : t.place (workspace.join (modeSingleFile slug)) =
      t.place workspace ++ [".modeguardrules-" ++ slug] := by
    rw [← parts_modeSingleFile hslug]
    exact FileTree.place_join (anchor_modeSingleFile slug) (modeSingleFile_plain hslug)
  exact congrArg₂ (fun a b => [a, b]) hdirectory hsingle

/-- A place below the workspace is at or below those of a mode exactly if its first names say so. -/
theorem within_modePlaces_iff (hother : IsSlug other) {first : String} {rest : List String} :
    FileTree.Within (modePlaces t workspace other) (t.place workspace ++ first :: rest) ↔
      (first = ".modeguard" ∧ rest.head? = some ("rules-" ++ other)) ∨
        first = ".modeguardrules-" ++ other := by
  unfold FileTree.Within
  rw [modePlaces_eq hother]
  cases rest <;> simp [List.prefix_append_right_inj, List.cons_prefix_cons, eq_comm]

/-- The directory with general rules and the single file in its stead are elsewhere. -/
theorem general_same (ht : t.root.IsTree) (ht' : t'.root.IsTree) (hother : IsSlug other)
    (hsame : FileTree.AlikeOutside (modePlaces t workspace other) t t')
    (hgoes : t.GoesAlike t' workspace) (hglobal : t.SameIn t' globalDirectory) :
    general t globalDirectory workspace = general t' globalDirectory workspace := by
  have hlocal : t.SameIn t' (workspace.join directory) := by
    refine hsame.sameIn_join hgoes anchor_directory (by simp [parts_directory]) fun name => ?_
    rw [parts_directory, List.append_assoc, List.cons_append, within_modePlaces_iff hother]
    simp [← String.toList_inj, String.toList_append]
  have hsingle : t.LooksAlike t' (workspace.join singleFile) := by
    refine hsame.looksAlike_join hgoes anchor_singleFile (by simp [parts_singleFile]) ?_
    rw [parts_singleFile, within_modePlaces_iff hother]
    simp [← String.toList_inj, String.toList_append]
  unfold general
  rw [readDirectory_same ht ht' hglobal, readEither_same ht ht' hlocal hsingle]

/-- So are those of a mode with another slug, also if one slug is the beginning of the other. -/
theorem forMode_same (ht : t.root.IsTree) (ht' : t'.root.IsTree) (hslug : IsSlug slug)
    (hother : IsSlug other) (hne : slug ≠ other)
    (hsame : FileTree.AlikeOutside (modePlaces t workspace other) t t')
    (hgoes : t.GoesAlike t' workspace) : forMode t workspace slug = forMode t' workspace slug := by
  have hlocal : t.SameIn t' (workspace.join (modeDirectory slug)) := by
    refine hsame.sameIn_join hgoes (anchor_modeDirectory slug) (modeDirectory_plain hslug)
      fun name => ?_
    rw [parts_modeDirectory hslug, List.append_assoc, List.cons_append, within_modePlaces_iff hother]
    simpa [← String.toList_inj, String.toList_append] using hne
  have hsingle : t.LooksAlike t' (workspace.join (modeSingleFile slug)) := by
    refine hsame.looksAlike_join hgoes (anchor_modeSingleFile slug) (modeSingleFile_plain hslug) ?_
    rw [parts_modeSingleFile hslug, within_modePlaces_iff hother]
    simpa [← String.toList_inj, String.toList_append] using hne
  exact readEither_same ht ht' hlocal hsingle

/-- A directory that is not within the places of a mode and has none of them in it. -/
theorem sameIn_of_apart (hother : IsSlug other)
    (hsame : FileTree.AlikeOutside (modePlaces t workspace other) t t')
    (hgoes : t.GoesAlike t' globalDirectory)
    (hout : ¬ FileTree.Within (modePlaces t workspace other) (t.place globalDirectory))
    (hhere : t.place globalDirectory ≠ t.place workspace)
    (habove : t.place globalDirectory ≠ t.place workspace ++ [".modeguard"]) :
    t.SameIn t' globalDirectory := by
  refine hsame.sameIn_of_place hgoes fun name hwithin => ?_
  obtain ⟨top, hmem, htop⟩ := hwithin
  rcases List.prefix_concat_iff.mp htop with heq | hprefix
  · -- one of the places is in the directory itself, which then is right above it
    rw [modePlaces_eq hother, List.mem_pair] at hmem
    rcases hmem with rfl | rfl
    · rw [List.append_cons] at heq
      exact habove (List.append_inj' heq rfl).1.symm
    · exact hhere (List.append_inj' heq rfl).1.symm
  · exact hout ⟨top, hmem, hprefix⟩

end Modes

end Rules

namespace Instructions

variable {t t' : FileTree} {globalDirectory : Path} {slug other text : String}
  {request : AggregationRequest}

/-- Rules for the mode `code` alone. -/
def codeTree : FileTree where
  root := .directory [("work", .directory
    [(".modeguard", .directory [("rules-code", .directory [("a.md", .file [65])])])])]

/-- The same rules and, in both places, rules for the mode `code-review`. -/
def reviewTree : FileTree where
  root := .directory [("work", .directory
    [(".modeguardrules-code-review", .file [67]),
      (".modeguard", .directory [("rules-code-review", .directory [("b.md", .file [66])]),
        ("rules-code", .directory [("a.md", .file [65])])])])]

theorem codeTree_isTree : codeTree.root.IsTree := by
  repeat' apply FileNode.IsTree.entry
  all_goals first | exact .file _ | exact .empty | decide

theorem reviewTree_isTree : reviewTree.root.IsTree := by
  repeat' apply FileNode.IsTree.entry
  all_goals first | exact .file _ | exact .empty | decide

end Instructions

end ModePolicy
