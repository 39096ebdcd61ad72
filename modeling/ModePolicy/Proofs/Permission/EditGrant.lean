import ModePolicy.Proofs.Permission.Decision

/-!
# Every edit is decided by the first edit grant

A call that edits a file goes past four gates, a lookup with shadowing and a walk over entries that
may repeat groups. `edit_decided_by_first_grant` says what is left of all that when the walk is
over: the call is allowed exactly when the gates are open, the slug names a mode, and the *first*
entry of that mode that grants editing covers the path; it is a violation exactly when that entry
has a pattern that does not. A later entry for editing, restricted or not, decides nothing.

An edit of a path is a call of an editing tool whose parameters, as the call states them, come out
with that path and with something to write (`ToolUse.Edits`).
-/

namespace ModePolicy

/-! ## Edits and the grants that cover them -/

/-- The use is an edit of a path: an editing tool is called with this path and something to
write. -/
structure ToolUse.Edits (use : ToolUse) (path : String) : Prop where
  tool : ∃ name ∈ ToolGroup.edit.tools, use.tool = .str name
  call : ∃ params, use.call.params.result = .ok params ∧ params.path = .str path
    ∧ params.writes = true
  path_ne : path ≠ ""

/-- The first entry of a mode that grants editing. -/
def Mode.firstEditGrant? (m : Mode) : Option GroupEntry := m.groups.find? (·.group == .edit)

/-- The entry covers a path: it has no options, no pattern is set in them, or the pattern matches
somewhere in the path. -/
def GroupEntry.Covers (path : String) : GroupEntry → Prop
  | .simple _ => True
  | .restricted _ options =>
    options.fileRegex.truthy = false ∨ PatternFinds options.fileRegex path

/-- An editing tool belongs to the group of editing and to no other, and has to be granted. -/
theorem editing_tools : ∀ name ∈ ToolGroup.edit.tools,
    isAlwaysAvailable (.str name) = false
      ∧ ∀ g : ToolGroup, g.authorises (.str name) = (g == .edit) := by
  intro name hname
  simp only [ToolGroup.tools, List.mem_cons, List.not_mem_nil, or_false] at hname
  rcases hname with rfl | rfl | rfl | rfl <;>
    exact ⟨by decide, fun g => by cases g <;> decide⟩

/-- What the walk over a mode's entries looks for, given an editing tool. -/
theorem find_authorising_edit {m : Mode} {name : String} (h : name ∈ ToolGroup.edit.tools) :
    m.groups.find? (·.group.authorises (.str name)) = m.firstEditGrant? := by
  unfold Mode.firstEditGrant?
  congr 1
  funext entry
  exact (editing_tools name h).2 entry.group

/-! ## The decision of an edit grant -/

/-- The scope of an edit grant is its options, if they set a pattern. -/
theorem editScope_eq_some {entry : GroupEntry} {options : GroupOptions}
    (hgroup : entry.group = .edit) :
    entry.editScope? = some options ↔
      entry = .restricted .edit options ∧ options.fileRegex.truthy = true := by
  cases entry with
  | simple g => simp [GroupEntry.editScope?]
  | restricted g o =>
    obtain rfl : g = .edit := hgroup
    cases hset : o.fileRegex.truthy with
    | true =>
      constructor
      · intro h
        obtain rfl : o = options := by simpa [GroupEntry.editScope?, hset] using h
        exact ⟨rfl, hset⟩
      · intro h
        obtain ⟨h, -⟩ := h
        cases h
        simp [GroupEntry.editScope?, hset]
    | false =>
      constructor
      · intro h
        simp [GroupEntry.editScope?, hset] at h
      · intro h
        obtain ⟨h, ht⟩ := h
        cases h
        exact absurd ht (by simp [hset])

/-- An edit grant without scope covers every path. -/
theorem covers_of_editScope_none {entry : GroupEntry} {path : String} (hgroup : entry.group = .edit)
    (h : entry.editScope? = none) : entry.Covers path := by
  cases entry with
  | simple g => exact trivial
  | restricted g o =>
    refine Or.inl (Bool.eq_false_iff.mpr fun hset => ?_)
    have hsome : (GroupEntry.restricted g o).editScope? = some o :=
      (editScope_eq_some hgroup).mpr ⟨congrArg (GroupEntry.restricted · o) hgroup, hset⟩
    rw [h] at hsome
    exact absurd hsome (by simp)

/-- A grant whose pattern does not match does not cover the path. -/
theorem not_covers_of_miss {options : GroupOptions} {path : String}
    (hset : options.fileRegex.truthy = true) (hmiss : ¬ PatternFinds options.fileRegex path) :
    ¬ (GroupEntry.restricted .edit options).Covers path := by
  intro h
  rcases h with hunset | hfinds
  · exact absurd hset (by simp [hunset])
  · exact hmiss hfinds

/-- The violation of a mode's edit grant by a path. -/
def Mode.violationBy (m : Mode) (options : GroupOptions) (path : String) : PathViolation where
  modeName := m.name
  pattern := options.fileRegex
  description := options.description
  path := .str path

/-- The decision of the edit grant that a call comes to: it is allowed if the grant covers the path,
and otherwise the grant has a pattern, which the violation carries. -/
theorem Mode.decideBy_edit {m : Mode} {entry : GroupEntry} {params : CallParams} {path : String}
    {d : Decision} (hgroup : entry.group = .edit) (hpath : params.path = .str path) (hne : path ≠ "")
    (hwrites : params.writes = true) (h : (m.decideBy entry params).result = .ok d) :
    (entry.Covers path ∧ d = .allowed (some .edit)) ∨
    ∃ options, entry = .restricted .edit options ∧ options.fileRegex.truthy = true
      ∧ ¬ PatternFinds options.fileRegex path
      ∧ d = .violation (m.violationBy options path) := by
  cases hscope : entry.editScope? with
  | none =>
    rw [decideBy_unrestricted hscope, hgroup] at h
    exact Or.inl ⟨covers_of_editScope_none hgroup hscope, (Except.ok.inj h).symm⟩
  | some options =>
    have htruthy : params.path.truthy = true := by simp [hpath, Json.truthy, hne]
    obtain ⟨found, hfound, hd⟩ := (decideBy_restricted hscope htruthy hwrites).mp h
    obtain ⟨rfl, hset⟩ := (editScope_eq_some hgroup).mp hscope
    rw [hpath] at hfound hd
    have hfinds := matchesPath_succeeds hfound
    cases found with
    | true => exact Or.inl ⟨Or.inr (hfinds.mp rfl), hd⟩
    | false => exact Or.inr ⟨options, rfl, hset, fun hp => absurd (hfinds.mpr hp) (by simp), hd⟩

/-- Past the gates, an edit whose mode has a pattern set in its first edit grant is answered by the
comparison of the path with that pattern, and stops where the comparison does. -/
theorem ToolUse.Edits.result_check {use : ToolUse} {path : String} {custom : List Mode} {m : Mode}
    {options : GroupOptions} (he : use.Edits path) (hopen : use.GatesOpen)
    (hm : Mode.find? use.slug custom = some m)
    (hfirst : m.firstEditGrant? = some (.restricted .edit options))
    (hset : options.fileRegex.truthy = true) :
    (use.check custom).result = (matchesPath (.str path) options.fileRegex).result.map fun found =>
      if found then .allowed (some .edit) else .violation (m.violationBy options path) := by
  obtain ⟨name, hname, htool⟩ := he.tool
  obtain ⟨params, hparams, hpath, hwrites⟩ := he.call
  have hgate : use.gate = .ok none := (ToolUse.gate_none_iff (by rw [htool]; rfl)).mpr hopen
  have halways : ¬ isAlwaysAvailable use.tool = true := by
    rw [htool, (editing_tools name hname).1]
    exact Bool.false_ne_true
  have hentry : m.groups.find? (·.group.authorises use.tool) = some (.restricted .edit options) := by
    rw [htool, find_authorising_edit hname, hfirst]
  have hscope : (GroupEntry.restricted .edit options).editScope? = some options :=
    (editScope_eq_some rfl).mpr ⟨rfl, hset⟩
  have htruthy : params.path.truthy = true := by simp [hpath, Json.truthy, he.path_ne]
  have hdecide : (use.check custom).result =
      (m.decideBy (.restricted .edit options) params).result := by
    unfold check decideInMode
    simp [if_neg halways, hgate, hm, hparams, Mode.decide, hentry]
  rw [hdecide, Mode.result_decideBy hscope htruthy hwrites, hpath]
  rfl

/-! ## Complete mediation -/

/-- Where a decision on an edit comes from: a gate or the mode denies the tool, or the first edit
grant of the mode decides, which either covers the path or carries a pattern that does not match. -/
theorem ToolUse.Edits.check_cases {use : ToolUse} {path : String} {custom : List Mode} {d : Decision}
    (he : use.Edits path) (hd : (use.check custom).result = .ok d) :
    (∃ why, d = .denied why ∧
      ¬ (use.GatesOpen ∧ ∃ m entry, Mode.find? use.slug custom = some m
        ∧ m.firstEditGrant? = some entry)) ∨
    (use.GatesOpen ∧ ∃ m entry, Mode.find? use.slug custom = some m
      ∧ m.firstEditGrant? = some entry ∧
      ((entry.Covers path ∧ d = .allowed (some .edit)) ∨
        ∃ options, entry = .restricted .edit options ∧ options.fileRegex.truthy = true
          ∧ ¬ PatternFinds options.fileRegex path
          ∧ d = .violation (m.violationBy options path))) := by
  obtain ⟨name, hname, htool⟩ := he.tool
  have hgate : use.gate = .ok none ↔ use.GatesOpen :=
    ToolUse.gate_none_iff (by rw [htool]; rfl)
  have halways : isAlwaysAvailable use.tool = false := by
    rw [htool]
    exact (editing_tools name hname).1
  rcases (check_succeeds halways).mp hd with ⟨why, hwhy, rfl⟩ | ⟨hopen, hmode⟩
  · -- a gate denies
    refine Or.inl ⟨why, rfl, fun ⟨hopen, _⟩ => ?_⟩
    rw [hgate.mpr hopen] at hwhy
    exact absurd hwhy (by simp)
  rcases decideInMode_succeeds.mp hmode with ⟨hnone, rfl⟩ | ⟨m, params, hm, hparams, hdecide⟩
  · -- there is no such mode
    refine Or.inl ⟨_, rfl, fun ⟨_, m, _, hm, _⟩ => ?_⟩
    rw [hnone] at hm
    exact absurd hm (by simp)
  rw [htool] at hdecide
  rcases Mode.decide_succeeds.mp hdecide with ⟨hnone, rfl⟩ | ⟨entry, hentry, hby⟩
  · -- the mode grants no editing
    rw [find_authorising_edit hname] at hnone
    refine Or.inl ⟨_, rfl, fun ⟨_, m', entry, hm', hentry⟩ => ?_⟩
    obtain rfl : m = m' := Option.some.inj (hm.symm.trans hm')
    rw [hnone] at hentry
    exact absurd hentry (by simp)
  · rw [find_authorising_edit hname] at hentry
    have hgroup : entry.group = .edit := by simpa using List.find?_some hentry
    obtain ⟨params', hparams', hpath, hwrites⟩ := he.call
    obtain rfl : params = params' := Except.ok.inj (hparams.symm.trans hparams')
    exact Or.inr ⟨hgate.mp hopen, m, entry, hm, hentry,
      Mode.decideBy_edit hgroup hpath he.path_ne hwrites hby⟩

/-- **Complete mediation of edits.** Whenever an edit of a path is decided, it is allowed exactly if
the gates are open and the first edit grant of the mode that the slug names covers the path; and it
is a violation exactly if the gates are open and that first grant has a pattern that does not match,
which the violation carries with the mode's name, the grant's description and the path. -/
theorem edit_decided_by_first_grant {use : ToolUse} {path : String} {custom : List Mode}
    {d : Decision} (he : use.Edits path) (hd : (use.check custom).result = .ok d) :
    (d = .allowed (some .edit) ↔
      use.GatesOpen ∧ ∃ m entry, Mode.find? use.slug custom = some m
        ∧ m.firstEditGrant? = some entry ∧ entry.Covers path) ∧
    ∀ v, d = .violation v ↔
      use.GatesOpen ∧ ∃ m options, Mode.find? use.slug custom = some m
        ∧ m.firstEditGrant? = some (.restricted .edit options)
        ∧ options.fileRegex.truthy = true ∧ ¬ PatternFinds options.fileRegex path
        ∧ v = { modeName := m.name, pattern := options.fileRegex,
                description := options.description, path := .str path } := by
  rcases he.check_cases hd with ⟨why, rfl, hnot⟩ |
    ⟨hopen, m, entry, hm, hentry, ⟨hcovers, rfl⟩ | ⟨options, rfl, hset, hmiss, rfl⟩⟩
  · refine ⟨⟨fun h => by simp at h, ?_⟩, fun v => ⟨fun h => by simp at h, ?_⟩⟩
    · intro h
      obtain ⟨hopen, m, entry, hm, hentry, -⟩ := h
      exact absurd ⟨hopen, m, entry, hm, hentry⟩ hnot
    · intro h
      obtain ⟨hopen, m, options, hm, hentry, -⟩ := h
      exact absurd ⟨hopen, m, _, hm, hentry⟩ hnot
  · refine ⟨⟨fun _ => ⟨hopen, m, entry, hm, hentry, hcovers⟩, fun _ => rfl⟩,
      fun v => ⟨fun h => by simp at h, ?_⟩⟩
    intro h
    obtain ⟨-, m', options, hm', hentry', hset, hmiss, -⟩ := h
    obtain rfl : m = m' := Option.some.inj (hm.symm.trans hm')
    obtain rfl : entry = .restricted .edit options := Option.some.inj (hentry.symm.trans hentry')
    exact absurd hcovers (not_covers_of_miss hset hmiss)
  · refine ⟨⟨fun h => by simp at h, ?_⟩, fun v => ⟨fun h => ?_, ?_⟩⟩
    · intro h
      obtain ⟨-, m', entry', hm', hentry', hcovers⟩ := h
      obtain rfl : m = m' := Option.some.inj (hm.symm.trans hm')
      obtain rfl : _ = entry' := Option.some.inj (hentry.symm.trans hentry')
      exact absurd hcovers (not_covers_of_miss hset hmiss)
    · exact ⟨hopen, m, options, hm, hentry, hset, hmiss, (Decision.violation.inj h).symm⟩
    · intro h
      obtain ⟨-, m', options', hm', hentry', -, -, rfl⟩ := h
      obtain rfl : m = m' := Option.some.inj (hm.symm.trans hm')
      have hsame := Option.some.inj (hentry.symm.trans hentry')
      cases hsame
      rfl

/-- Editing is for Markdown files. -/
def markdownOnly : GroupOptions where
  fileRegex := .str "\\.md$"
  description := .str "Markdown files only"

/-- A mode that grants editing twice: first for Markdown files, then for all files. -/
def docsMode : Mode where
  slug := .str "docs"
  name := .str "Docs"
  role := .str "You write documentation."
  groups := [.simple .read, .restricted .edit markdownOnly, .simple .edit]

/-- Writing a file that is no Markdown file. -/
def scriptWrite : ToolUse where
  tool := .str "write_to_file"
  slug := .str "docs"
  call := .raw (.obj [("path", .str "build.py"), ("content", .str "pass"), ("line", .int 1)])

theorem scriptWrite_params : scriptWrite.call.params.result =
    .ok { path := .str "build.py", content := .str "pass" } := by
  refine (CallParams.ofJson_obj _).trans ?_
  simp [CallParams.ofFields, CallParams.pathText, List.lookup, Json.isNull, Json.plain]

theorem scriptWrite_edits : scriptWrite.Edits "build.py" :=
  ⟨⟨"write_to_file", by decide, rfl⟩, ⟨_, scriptWrite_params, rfl, rfl⟩, by decide⟩

theorem scriptWrite_gatesOpen : scriptWrite.GatesOpen := by
  simp [ToolUse.GatesOpen, scriptWrite, experimentIds, Requirements.Block]

/-- The violation of the first grant by that call. -/
def scriptViolation : PathViolation where
  modeName := .str "Docs"
  pattern := .str "\\.md$"
  description := .str "Markdown files only"
  path := .str "build.py"

/-- The second grant of the mode does not open the way past the first. -/
theorem scriptWrite_is_violation :
    scriptWrite.Edits "build.py" ∧
    (scriptWrite.check [docsMode]).result = .ok (.violation scriptViolation) ∧
    scriptWrite.GatesOpen ∧
    ∃ m options, Mode.find? scriptWrite.slug [docsMode] = some m
      ∧ m.firstEditGrant? = some (.restricted .edit options)
      ∧ options.fileRegex.truthy = true ∧ ¬ PatternFinds options.fileRegex "build.py" := by
  have he := scriptWrite_edits
  have hopen := scriptWrite_gatesOpen
  have hcompile : Pattern.compile "\\.md$" =
      .ok ⟨.seq (.code 46) (.seq (.code 109) (.seq (.code 100) (.anchor .lineEnd))), {}, 3⟩ := rfl
  have hnone : (Regex.mk (.seq (.code 46) (.seq (.code 109) (.seq (.code 100) (.anchor .lineEnd))))
      {} 3).find? "build.py" = none := by decide +kernel
  have hmiss : (matchesPath (.str "build.py") (.str "\\.md$")).result = .ok false := by
    rw [result_matchesPath, searchPath_compiled hcompile, hnone]
    rfl
  have hscope : (GroupEntry.restricted .edit markdownOnly).editScope? = some markdownOnly :=
    (editScope_eq_some rfl).mpr ⟨rfl, rfl⟩
  have hfind : Mode.find? scriptWrite.slug [docsMode] = some docsMode := by
    simp [Mode.find?, Mode.hasSlug, docsMode, scriptWrite, Json.same]
  have hd : (scriptWrite.check [docsMode]).result = .ok (.violation scriptViolation) := by
    refine (ToolUse.check_succeeds (editing_tools "write_to_file" (by decide)).1).mpr (Or.inr ?_)
    refine ⟨(ToolUse.gate_none_iff rfl).mpr hopen, ?_⟩
    refine ToolUse.decideInMode_succeeds.mpr (Or.inr ⟨docsMode, _, hfind, scriptWrite_params, ?_⟩)
    refine Mode.decide_succeeds.mpr (Or.inr ⟨.restricted .edit markdownOnly, ?_, ?_⟩)
    · exact find_authorising_edit (by decide)
    · exact (Mode.decideBy_restricted hscope rfl rfl).mpr ⟨false, hmiss, rfl⟩
  obtain ⟨-, m, options, hm, hfirst, hset, hunmatched, -⟩ :=
    ((edit_decided_by_first_grant he hd).2 scriptViolation).mp rfl
  exact ⟨he, hd, hopen, m, options, hm, hfirst, hset, hunmatched⟩

end ModePolicy
