import ModePolicy.Proofs.Permission.Answers
import ModePolicy.Proofs.Tool.Union

/-!
# The tools listed are the tools granted

A mode lists its tools by joining those of its groups with those that every mode has. A check goes
another way: it lets through what every mode has, passes the gates, and walks to the first entry
whose group has the tool. The two agree, for every list of entries and every name:

> `listed_iff_granted`: a tool that no gate holds up is listed exactly if its use is not denied. The
> use is refused for its path at most, and without parameters it is allowed.

That a use which is not denied is decided at all depends on the patterns of the mode, since a search
may stop for a failure. A pattern is searchable if no search with it does (`Json.IsSearchable`): all
expressions without groups are (`isSearchable_of_groupless`), and in general those whose matches have
no crossed group (`isSearchable_iff`).
-/

namespace ModePolicy

/-! ## The list -/

/-- The tools that a mode lists are those of its groups and those that every mode has. -/
theorem Mode.mem_tools {m : Mode} {name : String} :
    name ∈ m.tools ↔
      (∃ entry ∈ m.groups, name ∈ entry.group.tools) ∨ name ∈ alwaysAvailableTools := by
  unfold tools toolsOfGroups
  rw [mem_firstSeen]
  simp

/-! ## Patterns that can be searched with -/

/-- A search with the pattern comes to an end in every path, be it by saying what is wrong with the
pattern. -/
def Json.IsSearchable (pattern : Json) : Prop :=
  ∀ path : String, ∃ answer, searchPath (.str path) pattern = .ok answer

/-- An expression is searchable exactly if no match that is found with it has a crossed group. -/
theorem isSearchable_iff {source : String} {regex : Regex}
    (h : Pattern.compile source = .ok regex) :
    (Json.str source).IsSearchable ↔ ∀ path, ¬ PatternCrosses (.str source) path := by
  refine forall_congr' fun path => ?_
  rw [searchPath_compiled h, patternCrosses_str h]
  constructor
  · intro hanswer hcrosses
    obtain ⟨answer, hanswer⟩ := hanswer
    obtain ⟨found, hfind, hcrossed⟩ := hcrosses
    simp [hfind, hcrossed] at hanswer
  · intro hsound
    cases hfind : regex.find? path with
    | none => exact ⟨_, rfl⟩
    | some found =>
      have huncrossed : found.marks.areCrossed = false :=
        Bool.eq_false_iff.mpr fun hcrossed => hsound ⟨found, hfind, hcrossed⟩
      exact ⟨.ok true, by simp [huncrossed]⟩

/-- An expression without groups is searchable. -/
theorem isSearchable_of_groupless {source : String} {regex : Regex}
    (h : Pattern.compile source = .ok regex) (hgroups : regex.body.hasGroup = false) :
    (Json.str source).IsSearchable :=
  fun _ => ⟨_, searchPath_of_groupless h hgroups⟩

/-- The patterns that restrict editing in the mode are searchable. -/
def Mode.IsSearchable (m : Mode) : Prop :=
  ∀ entry ∈ m.groups, ∀ options, entry.editScope? = some options → options.fileRegex.IsSearchable

/-! ## Uses that are decided -/

/-- An entry whose pattern is searchable decides on every path. -/
theorem Mode.decideBy_decides (m : Mode) {entry : GroupEntry} {params : CallParams}
    (hpath : params.path = .null ∨ ∃ path, params.path = .str path)
    (hsearchable : ∀ options, entry.editScope? = some options → options.fileRegex.IsSearchable) :
    ∃ d, (m.decideBy entry params).result = .ok d := by
  cases hscope : entry.editScope? with
  | none => exact ⟨_, decideBy_unrestricted hscope⟩
  | some options =>
    by_cases hasked : params.path.truthy = true ∧ params.writes = true
    · obtain ⟨htruthy, hwrites⟩ := hasked
      obtain ⟨path, hpath⟩ : ∃ path, params.path = .str path :=
        hpath.resolve_left fun hnull => absurd htruthy (by simp [hnull, Json.truthy])
      obtain ⟨answer, hanswer⟩ := hsearchable options hscope path
      have hfound : ∃ found, (matchesPath params.path options.fileRegex).result = .ok found := by
        rw [hpath, result_matchesPath, hanswer]
        exact ⟨_, rfl⟩
      obtain ⟨found, hfound⟩ := hfound
      exact ⟨_, (decideBy_restricted hscope htruthy hwrites).mpr ⟨found, hfound, rfl⟩⟩
    · -- the pattern is not asked
      have hidle : (params.path.truthy && params.writes) = false := by simpa using hasked
      exact ⟨.allowed (some entry.group), by simp [decideBy, hscope, hidle]⟩

theorem CallParams.ofJson_absent {absent : Json} (h : absent.truthy = false) :
    ofJson absent = ofJson .null := by
  unfold ofJson
  rw [if_pos (by simp [h])]
  rfl

namespace ToolUse

variable {use : ToolUse} {custom : List Mode}

/-- A well-stated use is decided in a mode whose patterns are searchable. -/
theorem check_decides (hstated : use.WellStated)
    (hsearchable : ∀ m, Mode.find? use.slug custom = some m → m.IsSearchable) :
    ∃ d, (use.check custom).result = .ok d := by
  cases halways : isAlwaysAvailable use.tool with
  | true => exact ⟨_, check_always halways custom⟩
  | false =>
    obtain ⟨answer, hanswer⟩ := gate_answers hstated.tool hstated.flags
    cases answer with
    | some why => exact ⟨_, (check_succeeds halways).mpr (Or.inl ⟨why, hanswer, rfl⟩)⟩
    | none =>
      suffices h : ∃ d, (use.decideInMode custom).result = .ok d by
        obtain ⟨d, hd⟩ := h
        exact ⟨d, (check_succeeds halways).mpr (Or.inr ⟨hanswer, hd⟩)⟩
      cases hm : Mode.find? use.slug custom with
      | none => exact ⟨_, decideInMode_succeeds.mpr (Or.inl ⟨hm, rfl⟩)⟩
      | some m =>
        obtain ⟨params, hparams, -, hpath⟩ := hstated.params_answer
        suffices h : ∃ d, (m.decide use.tool params).result = .ok d by
          obtain ⟨d, hd⟩ := h
          exact ⟨d, decideInMode_succeeds.mpr (Or.inr ⟨m, params, hm, hparams, hd⟩)⟩
        cases hentry : m.groups.find? (·.group.authorises use.tool) with
        | none => exact ⟨_, Mode.decide_succeeds.mpr (Or.inl ⟨hentry, rfl⟩)⟩
        | some entry =>
          obtain ⟨d, hd⟩ := m.decideBy_decides hpath
            (hsearchable m hm entry (List.mem_of_find?_eq_some hentry))
          exact ⟨d, Mode.decide_succeeds.mpr (Or.inr ⟨entry, hentry, hd⟩)⟩

/-! ## List and check -/

/-- The use of a tool that nothing is required of. -/
def free (name : String) (slug data experiments : Json) : ToolUse :=
  { tool := .str name, slug, call := .raw data, experiments }

/-- Past the gates, a tool is granted exactly if the mode lists it. -/
theorem granted_iff_listed {m : Mode} {name : String} {d : Decision} (htool : use.tool = .str name)
    (hopen : use.GatesOpen) (hm : Mode.find? use.slug custom = some m)
    (hd : (use.check custom).result = .ok d) : d.Granted ↔ name ∈ m.tools := by
  rw [check_granted_iff htool hd, Mode.mem_tools]
  simp [hopen, hm, or_comm]

/-- Past the gates, a tool that the mode does not list is denied. -/
theorem unlisted_denied {m : Mode} {name : String} (hstated : use.WellStated)
    (htool : use.tool = .str name) (hopen : use.GatesOpen)
    (hm : Mode.find? use.slug custom = some m) (hunlisted : name ∉ m.tools) :
    (use.check custom).result = .ok (.denied .notInMode) := by
  obtain ⟨params, hparams, -⟩ := hstated.params_answer
  rw [Mode.mem_tools, not_or] at hunlisted
  obtain ⟨hungranted, hnever⟩ := hunlisted
  have halways : isAlwaysAvailable use.tool = false := by
    rw [htool, Bool.eq_false_iff]
    exact mt isAlwaysAvailable_str.mp hnever
  have hentry : m.groups.find? (·.group.authorises use.tool) = none := by
    simpa [htool] using hungranted
  refine (check_succeeds halways).mpr (Or.inr ⟨(gate_none_iff (by rw [htool]; rfl)).mpr hopen, ?_⟩)
  exact decideInMode_succeeds.mpr (Or.inr ⟨m, params, hm, hparams,
    Mode.decide_succeeds.mpr (Or.inl ⟨hentry, rfl⟩)⟩)

/-- A use whose parameters count as absent has none. -/
theorem check_absent {name : String} {slug experiments absent : Json} (h : absent.truthy = false) :
    (free name slug absent experiments).check custom =
      (free name slug .null experiments).check custom := by
  have hparams : (CallData.raw absent).params = (CallData.raw .null).params :=
    CallParams.ofJson_absent h
  unfold check decideInMode free
  simp only [hparams]
  rfl

/-- **The tools listed are the tools granted.** Take a mode that a slug names, and a tool that is no
experiment or is switched on. With any parameters, the tool is listed exactly if it is not denied,
and where the patterns of the mode are searchable the check decides, to allow the use or to refuse it
for its path. Without parameters it decides in any case, and the tool is listed exactly if it is
allowed. -/
theorem listed_iff_granted {slug experiments : Json} {m : Mode} {name : String}
    (hm : Mode.find? slug custom = some m) (hflags : experiments.IsTable)
    (hon : name ∈ experimentIds → ExperimentOn experiments name) :
    (∀ fields, name ∈ m.tools ↔ ∀ why,
      ((free name slug (.obj fields) experiments).check custom).result ≠ .ok (.denied why)) ∧
    (m.IsSearchable → ∀ fields, ∃ d,
      ((free name slug (.obj fields) experiments).check custom).result = .ok d ∧
        (name ∈ m.tools ↔ d.Granted)) ∧
    ∀ absent : Json, absent.truthy = false → ∃ d,
      ((free name slug absent experiments).check custom).result = .ok d ∧
        (name ∈ m.tools ↔ d.isAllowed = true) := by
  have hopen : ∀ data, (free name slug data experiments).GatesOpen := fun data =>
    ⟨fun other hmem hother => Json.str.inj hother ▸ hon (Json.str.inj hother ▸ hmem), not_false⟩
  have hstated : ∀ data : Json, data.IsTable → (free name slug data experiments).WellStated :=
    fun data hdata => ⟨⟨name, rfl⟩, hflags, data, rfl, hdata⟩
  refine ⟨fun fields => ⟨fun hlisted why hdenied => ?_, fun hnever => ?_⟩,
    fun hsearchable fields => ?_, fun absent habsent => ?_⟩
  -- a use may stop for its pattern; that a listed tool is not denied does not depend on that
  · exact (granted_iff_listed rfl (hopen _) hm hdenied).mpr hlisted
  · by_contra hunlisted
    have hobject : (Json.obj fields).IsTable := Or.inr ⟨fields, rfl⟩
    exact hnever _ (unlisted_denied (hstated _ hobject) rfl (hopen _) hm hunlisted)
  · have hobject : (Json.obj fields).IsTable := Or.inr ⟨fields, rfl⟩
    have hnamed : ∀ m', Mode.find? slug custom = some m' → m'.IsSearchable := fun m' hm' =>
      Option.some.inj (hm.symm.trans hm') ▸ hsearchable
    obtain ⟨d, hd⟩ := check_decides (hstated _ hobject) hnamed
    exact ⟨d, hd, (granted_iff_listed rfl (hopen _) hm hd).symm⟩
  · rw [check_absent habsent]
    obtain ⟨d, hd, hallowed⟩ := check_idle (hstated .null (Or.inl rfl)) rfl rfl custom
    refine ⟨d, hd, ?_⟩
    rw [hallowed, Mode.mem_tools, or_comm]
    refine or_congr_right ⟨fun hgranted => ⟨hopen _, m, hm, hgranted⟩, fun h => ?_⟩
    obtain ⟨-, m', hm', hgranted⟩ := h
    exact Option.some.inj (hm.symm.trans hm') ▸ hgranted

/-- A mode that grants editing twice, and the tools of modes, which every mode has. -/
def handbookMode : Mode where
  slug := .str "handbook"
  name := .str "Handbook"
  role := .str "You keep the handbook."
  groups := [.simple .modes, .restricted .edit markdownOnly, .simple .edit]

/-- Flags that switch inserting on. -/
def insertFlags : Json := .obj [("insert_content", .bool true)]

/-- Inserting is listed in that mode. So every call of it is decided and none is denied, and without
parameters it is allowed. -/
theorem handbook_grants_inserting :
    Mode.find? (.str "handbook") [handbookMode] = some handbookMode ∧ insertFlags.IsTable ∧
    ("insert_content" ∈ experimentIds → ExperimentOn insertFlags "insert_content") ∧
    handbookMode.IsSearchable ∧ "insert_content" ∈ handbookMode.tools ∧
    (∀ fields, ∃ d, ((free "insert_content" (.str "handbook") (.obj fields) insertFlags).check
      [handbookMode]).result = .ok d ∧ d.Granted) ∧
    ∃ d, ((free "insert_content" (.str "handbook") .null insertFlags).check
      [handbookMode]).result = .ok d ∧ d.isAllowed = true := by
  have hm : Mode.find? (.str "handbook") [handbookMode] = some handbookMode := by
    simp [Mode.find?, Mode.hasSlug, handbookMode, Json.same]
  have hflags : insertFlags.IsTable := Or.inr ⟨_, rfl⟩
  have hon : "insert_content" ∈ experimentIds → ExperimentOn insertFlags "insert_content" :=
    fun _ => ⟨_, .bool true, rfl, by simp [List.lookup], rfl⟩
  have hcompile : Pattern.compile "\\.md$" =
      .ok ⟨.seq (.code 46) (.seq (.code 109) (.seq (.code 100) (.anchor .lineEnd))), {}, 3⟩ := rfl
  have hsearchable : handbookMode.IsSearchable := by
    intro entry hentry options hscope
    obtain ⟨rfl, -⟩ := (editScope_eq_some (group_of_editScope hscope)).mp hscope
    have hoptions : options = markdownOnly := by simpa [handbookMode] using hentry
    rw [hoptions]
    exact isSearchable_of_groupless hcompile rfl
  have hlisted : "insert_content" ∈ handbookMode.tools := by decide
  obtain ⟨-, hcalls, hidle⟩ := listed_iff_granted hm hflags hon
  refine ⟨hm, hflags, hon, hsearchable, hlisted, fun fields => ?_, ?_⟩
  · obtain ⟨d, hd, hgranted⟩ := hcalls hsearchable fields
    exact ⟨d, hd, hgranted.mp hlisted⟩
  · obtain ⟨d, hd, hallowed⟩ := hidle .null rfl
    exact ⟨d, hd, hallowed.mp hlisted⟩

end ToolUse

end ModePolicy
