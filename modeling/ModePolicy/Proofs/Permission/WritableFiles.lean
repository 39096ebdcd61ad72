import ModePolicy.Proofs.Mode.Listing
import ModePolicy.Proofs.Pattern.Meaning
import ModePolicy.Proofs.Permission.EditGrant

/-!
# The files that a built-in mode can write

A built-in mode restricts editing by a pattern, and so by all that a search for the pattern can find
in a path. The mode `architect` may edit Markdown files only, which its pattern says with `\.md$`; but
`$` stands before a line feed at the end of a text as well.

> `architect_writes_iff`: the mode writes the paths that end in `.md`, and those that end in `.md` and
> a line feed. Every other edit is refused for its path.

So the mode keeps to Markdown files on all paths but those of the second kind, of which
`architect_writes_line_feed` is one.

The mode `reviewer` may edit review responses, `\.agent/review_response_.*\.md$`. Nothing holds the
expression to the beginning of a path or to one segment of it:

> `reviewer_writes_iff`: the mode writes the paths that have `.agent/review_response_` anywhere and end
> as Markdown files do, with no line feed in between. Every other edit is refused for its path.

A path may so lead out of the directory again, as that of `reviewer_writes_readme` does.
-/

namespace ModePolicy

/-- The path ends in this text. -/
def EndsIn (ending path : String) : Prop := ∃ stem, path = stem ++ ending

theorem endsIn_iff {ending path : String} :
    EndsIn ending path ↔ ∃ u, path.toList = u ++ ending.toList := by
  constructor
  · intro h
    obtain ⟨stem, rfl⟩ := h
    exact ⟨stem.toList, String.toList_append⟩
  · intro h
    obtain ⟨u, hu⟩ := h
    refine ⟨String.ofList u, String.toList_inj.mp ?_⟩
    rw [hu, String.toList_append, String.toList_ofList]

/-- Where no custom mode hides it, a built-in mode is found under its slug. -/
theorem Mode.find?_of_not_custom {slug : Json} {custom : List Mode}
    (h : Mode.isCustom slug custom = false) : Mode.find? slug custom = Mode.builtin? slug := by
  have hnone : custom.find? (·.hasSlug slug) = none := by
    rwa [Mode.isCustom_eq_isSome, Option.isSome_eq_false_iff, Option.isNone_iff_eq_none] at h
  rw [Mode.find?_eq_or, hnone]
  rfl

/-- Past the gates, an edit in a built-in mode that no custom mode hides is answered by a search for
the mode's pattern: it is allowed if the path fits, and refused for its path if it does not. -/
theorem ToolUse.Edits.decided_by_search {use : ToolUse} {path source : String} {custom : List Mode}
    {m : Mode} {description : Json} {regex : Regex} {Fits : Prop} (he : use.Edits path)
    (hopen : use.GatesOpen) (hcustom : Mode.isCustom use.slug custom = false)
    (hm : Mode.builtin? use.slug = some m)
    (hfirst : m.firstEditGrant? = some (.restricted .edit ⟨.str source, description⟩))
    (hset : (Json.str source).truthy = true) (hcompile : Pattern.compile source = .ok regex)
    (hgroup : regex.body.hasGroup = false) (hfits : (regex.find? path).isSome = true ↔ Fits) :
    ((use.check custom).result = .ok (.allowed (some .edit)) ↔ Fits) ∧
    ((use.check custom).result = .ok (.violation (m.violationBy ⟨.str source, description⟩ path)) ↔
      ¬ Fits) := by
  have hfound : Mode.find? use.slug custom = some m := (Mode.find?_of_not_custom hcustom).trans hm
  rw [he.result_check hopen hfound hfirst hset, result_matchesPath,
    searchPath_of_groupless hcompile hgroup, ← hfits]
  cases (regex.find? path).isSome <;> simp [Except.map]

/-! ## Markdown files -/

/-- The expression for the names of Markdown files. -/
def markdownRegex : Regex where
  body := Pattern.textThen ".md".toList (.anchor .lineEnd)
  least := 3

theorem compile_markdown : Pattern.compile "\\.md$" = .ok markdownRegex := rfl

/-- A search for the ending finds it at the end of a path, or before a line feed there. -/
theorem find?_markdownRegex_iff {path : String} :
    (markdownRegex.find? path).isSome = true ↔ EndsIn ".md" path ∨ EndsIn ".md\n" path := by
  rw [Regex.find?_isSome_iff rfl rfl rfl, endsIn_iff, endsIn_iff]
  constructor
  · intro h
    obtain ⟨u, v, d, hpath, -, hspans⟩ := h
    obtain ⟨rest, rfl, hend⟩ := (Pattern.spans_textThen rfl _).mp hspans
    rcases ((Pattern.spans_lineEnd rfl).mp hend).1 with rfl | rfl
    · exact Or.inl ⟨u, hpath⟩
    · exact Or.inr ⟨u, hpath⟩
  · -- the match begins at the dot
    have hmatch : ∀ u rest, path.toList = u ++ (".md".toList ++ rest) → rest = [] ∨ rest = ['\n'] →
        ∃ u v d, path.toList = u ++ v ∧ markdownRegex.least ≤ v.length ∧
          markdownRegex.body.Spans markdownRegex.flags ⟨u.reverse, v⟩ d := by
      intro u rest hpath hrest
      refine ⟨u, _, _, hpath, ?_, (Pattern.spans_textThen rfl _).mpr
        ⟨rest, rfl, (Pattern.spans_lineEnd rfl).mpr ⟨hrest, rfl⟩⟩⟩
      rw [List.length_append]
      exact Nat.le_add_right 3 _
    intro h
    rcases h with ⟨u, hpath⟩ | ⟨u, hpath⟩
    · exact hmatch u [] hpath (Or.inl rfl)
    · exact hmatch u ['\n'] hpath (Or.inr rfl)

/-- No path ends in both ways. -/
theorem not_endsIn_md_of_line_feed {path : String} (h : EndsIn ".md\n" path) :
    ¬ EndsIn ".md" path := by
  intro h'
  obtain ⟨u, hu⟩ := endsIn_iff.mp h
  obtain ⟨v, hv⟩ := endsIn_iff.mp h'
  have hlast : path.toList.getLast? = some '\n' := by rw [hu]; simp
  rw [hv] at hlast
  exact absurd hlast (by simp)

/-- **The mode `architect` writes Markdown files, and files whose name goes on with a line feed.**
Past the gates, and if no custom mode hides it, an edit is allowed exactly if the path ends in `.md`
or in `.md` and a line feed. Otherwise it is refused for its path. So a path is dealt with as its
ending asks for exactly if the ending is not `.md` and a line feed. -/
theorem architect_writes_iff {use : ToolUse} {path : String} {custom : List Mode}
    (he : use.Edits path) (hopen : use.GatesOpen) (hslug : use.slug = .str "architect")
    (hcustom : Mode.isCustom (.str "architect") custom = false) :
    ((use.check custom).result = .ok (.allowed (some .edit)) ↔
      EndsIn ".md" path ∨ EndsIn ".md\n" path) ∧
    ((use.check custom).result = .ok (.violation (Mode.architect.violationBy markdownOnly path)) ↔
      ¬ EndsIn ".md" path ∧ ¬ EndsIn ".md\n" path) ∧
    (((use.check custom).result = .ok (.allowed (some .edit)) ↔ EndsIn ".md" path) ↔
      ¬ EndsIn ".md\n" path) := by
  rw [← hslug] at hcustom
  have hm : Mode.builtin? use.slug = some Mode.architect := by
    rw [hslug]
    rfl
  obtain ⟨hallowed, hrefused⟩ :=
    he.decided_by_search hopen hcustom hm rfl rfl compile_markdown rfl find?_markdownRegex_iff
  refine ⟨hallowed, hrefused.trans not_or, ?_⟩
  rw [hallowed]
  constructor
  · exact fun h hfeed => not_endsIn_md_of_line_feed hfeed (h.mp (Or.inr hfeed))
  · exact fun h => or_iff_left h

/-- Writing notes in the mode `architect`, under a name that ends in a line feed. -/
def notesWrite : ToolUse where
  tool := .str "write_to_file"
  slug := .str "architect"
  call := .raw (.obj [("path", .str "notes.md\n"), ("content", .str "Notes")])

/-- The notes are written, though their name does not end in `.md`. -/
theorem architect_writes_line_feed :
    notesWrite.Edits "notes.md\n" ∧ notesWrite.GatesOpen ∧ notesWrite.slug = .str "architect" ∧
    Mode.isCustom (.str "architect") [] = false ∧ ¬ EndsIn ".md" "notes.md\n" ∧
    (notesWrite.check []).result = .ok (.allowed (some .edit)) := by
  have hparams : notesWrite.call.params.result =
      .ok { path := .str "notes.md\n", content := .str "Notes" } := by
    refine (CallParams.ofJson_obj _).trans ?_
    simp [CallParams.ofFields, CallParams.pathText, List.lookup, Json.isNull, Json.plain]
  have he : notesWrite.Edits "notes.md\n" :=
    ⟨⟨"write_to_file", by decide, rfl⟩, ⟨_, hparams, rfl, rfl⟩, by decide⟩
  have hopen : notesWrite.GatesOpen := by
    simp [ToolUse.GatesOpen, notesWrite, experimentIds, Requirements.Block]
  have hfeed : EndsIn ".md\n" "notes.md\n" := ⟨"notes", rfl⟩
  obtain ⟨hallowed, -, -⟩ := architect_writes_iff he hopen rfl (rfl : Mode.isCustom _ [] = false)
  exact ⟨he, hopen, rfl, rfl, not_endsIn_md_of_line_feed hfeed, hallowed.mpr (Or.inr hfeed)⟩

/-! ## Review responses -/

/-- The options of the grant for review responses. -/
def responsesOnly : GroupOptions where
  fileRegex := .str "\\.agent/review_response_.*\\.md$"
  description := .str "Review response files only"

/-- The path goes into a directory, or a file, of a name that ends in `.agent`, and on with
`review_response_`; some characters of one line later it ends in `.md`, or in that and a line feed. -/
def NamesResponse (path : String) : Prop :=
  ∃ u v w, path = u ++ ".agent/review_response_" ++ v ++ ".md" ++ w ∧ '\n' ∉ v.toList ∧
    (w = "" ∨ w = "\n")

theorem namesResponse_iff {path : String} :
    NamesResponse path ↔ ∃ u v w, path.toList =
        u ++ (".agent/review_response_".toList ++ (v ++ (".md".toList ++ w))) ∧ '\n' ∉ v ∧
      (w = [] ∨ w = ['\n']) := by
  constructor
  · intro h
    obtain ⟨u, v, w, rfl, hv, hw⟩ := h
    refine ⟨u.toList, v.toList, w.toList, ?_, hv, ?_⟩
    · simp only [String.toList_append, List.append_assoc]
    · rcases hw with rfl | rfl
      · exact Or.inl rfl
      · exact Or.inr rfl
  · intro h
    obtain ⟨u, v, w, hpath, hv, hw⟩ := h
    refine ⟨.ofList u, .ofList v, .ofList w, String.toList_inj.mp ?_, ?_, ?_⟩
    · simp only [hpath, String.toList_append, String.toList_ofList, List.append_assoc]
    · rwa [String.toList_ofList]
    · rcases hw with rfl | rfl
      · exact Or.inl rfl
      · exact Or.inr rfl

/-- The expression for the names of review responses. -/
def responseRegex : Regex where
  body := Pattern.textThen ".agent/review_response_".toList
    (.seq (.repeated 0 none .greedy .any) (Pattern.textThen ".md".toList (.anchor .lineEnd)))
  least := 26

/-- An expression that was found to compile. -/
theorem Pattern.compile_of_toOption {source : String} {regex : Regex}
    (h : (Pattern.compile source).toOption = some regex) : Pattern.compile source = .ok regex := by
  cases hc : Pattern.compile source with
  | error defect =>
    rw [hc] at h
    exact absurd h (by simp [Except.toOption])
  | ok found =>
    rw [hc] at h
    exact congrArg Except.ok (Option.some.inj h)

theorem compile_response :
    Pattern.compile "\\.agent/review_response_.*\\.md$" = .ok responseRegex :=
  Pattern.compile_of_toOption (by decide +kernel)

/-- A search for the expression finds the names of review responses. -/
theorem find?_responseRegex_iff {path : String} :
    (responseRegex.find? path).isSome = true ↔ NamesResponse path := by
  rw [Regex.find?_isSome_iff rfl rfl rfl, namesResponse_iff]
  constructor
  · intro h
    obtain ⟨u, text, d, hpath, -, hspans⟩ := h
    obtain ⟨line, rfl, hspans⟩ := (Pattern.spans_textThen rfl _).mp hspans
    obtain ⟨v, ending, rfl, hv, hspans⟩ := (Pattern.spans_anyThen rfl).mp hspans
    obtain ⟨w, rfl, hend⟩ := (Pattern.spans_textThen rfl _).mp hspans
    exact ⟨u, v, w, hpath, hv, ((Pattern.spans_lineEnd rfl).mp hend).1⟩
  · intro h
    obtain ⟨u, v, w, hpath, hv, hw⟩ := h
    refine ⟨u, _, _, hpath, ?_, (Pattern.spans_textThen rfl _).mpr ⟨_, rfl,
      (Pattern.spans_anyThen rfl).mpr ⟨v, _, rfl, hv, (Pattern.spans_textThen rfl _).mpr
        ⟨w, rfl, (Pattern.spans_lineEnd rfl).mpr ⟨hw, rfl⟩⟩⟩⟩⟩
    simp only [responseRegex, List.length_append]
    have hstart : ".agent/review_response_".toList.length = 23 := rfl
    have hending : ".md".toList.length = 3 := rfl
    omega

/-- **The mode `reviewer` writes the paths that name a review response.** Past the gates, and if no
custom mode hides it, an edit is allowed exactly if the path does, and otherwise it is refused for its
path. -/
theorem reviewer_writes_iff {use : ToolUse} {path : String} {custom : List Mode}
    (he : use.Edits path) (hopen : use.GatesOpen) (hslug : use.slug = .str "reviewer")
    (hcustom : Mode.isCustom (.str "reviewer") custom = false) :
    ((use.check custom).result = .ok (.allowed (some .edit)) ↔ NamesResponse path) ∧
    ((use.check custom).result = .ok (.violation (Mode.reviewer.violationBy responsesOnly path)) ↔
      ¬ NamesResponse path) := by
  rw [← hslug] at hcustom
  have hm : Mode.builtin? use.slug = some Mode.reviewer := by
    rw [hslug]
    rfl
  exact he.decided_by_search hopen hcustom hm rfl rfl compile_response rfl find?_responseRegex_iff

/-- Writing a file in the mode `reviewer`, by a path that goes into a directory with the name of a
review response and out again. -/
def readmeWrite : ToolUse where
  tool := .str "write_to_file"
  slug := .str "reviewer"
  call := .raw (.obj [("path", .str ".agent/review_response_1/../../README.md"),
    ("content", .str "Notes")])

/-- The file is written, though it is no review response. -/
theorem reviewer_writes_readme :
    readmeWrite.Edits ".agent/review_response_1/../../README.md" ∧ readmeWrite.GatesOpen ∧
    readmeWrite.slug = .str "reviewer" ∧ Mode.isCustom (.str "reviewer") [] = false ∧
    (readmeWrite.check []).result = .ok (.allowed (some .edit)) := by
  have hparams : readmeWrite.call.params.result =
      .ok { path := .str ".agent/review_response_1/../../README.md", content := .str "Notes" } := by
    refine (CallParams.ofJson_obj _).trans ?_
    simp [CallParams.ofFields, CallParams.pathText, List.lookup, Json.isNull, Json.plain]
  have he : readmeWrite.Edits ".agent/review_response_1/../../README.md" :=
    ⟨⟨"write_to_file", by decide, rfl⟩, ⟨_, hparams, rfl, rfl⟩, by decide⟩
  have hopen : readmeWrite.GatesOpen := by
    simp [ToolUse.GatesOpen, readmeWrite, experimentIds, Requirements.Block]
  have hnames : NamesResponse ".agent/review_response_1/../../README.md" :=
    ⟨"", "1/../../README", "", rfl, by decide, Or.inl rfl⟩
  obtain ⟨hallowed, -⟩ := reviewer_writes_iff he hopen rfl (rfl : Mode.isCustom _ [] = false)
  exact ⟨he, hopen, rfl, rfl, hallowed.mpr hnames⟩

end ModePolicy
