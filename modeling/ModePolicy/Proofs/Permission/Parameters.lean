import ModePolicy.Proofs.Permission.Unusable
import ModePolicy.Proofs.Profile.Checks

/-!
# What the parameters of a call decide

A call may state any parameters. Only the entry that decides looks at them, and it looks at two
things: the path, and whether there is something to write. So parameters that agree on both are
decided on alike, and those of a tool that edits nothing make no difference at all. For an editing
tool they choose between allowing the edit and refusing it for its path:

> `parameters_choose_by_path`: whatever the parameters of two calls of an editing tool are, the calls
> are decided alike, or each is allowed or refused for its path by one and the same grant, exactly if
> neither comes to a pattern whose first match in the path has a crossed group.

A call that does come to such a pattern is not decided at all, so its path shows in more than that:
`crossingCall_differs`.
-/

namespace ModePolicy

/-! ## Patterns that a search can judge -/

/-- Whatever is wrong with the value as an expression is its syntax. -/
def Json.IsJudgeable (pattern : Json) : Prop :=
  ∀ source defect, pattern = .str source → Pattern.compile source = .error defect →
    ∃ why, defect = .syntaxError why

/-- Whatever is wrong with the patterns of the mode is their syntax. -/
def Mode.IsJudgeable (m : Mode) : Prop :=
  ∀ entry ∈ m.groups, ∀ options, entry.options? = some options → options.fileRegex.IsJudgeable

theorem Json.IsPattern.isJudgeable {pattern : Json} (h : pattern.IsPattern) :
    pattern.IsJudgeable := by
  intro source defect hsource hdefect
  rcases h with rfl | ⟨other, regex, rfl, hcompile⟩
  · exact absurd hsource (by simp)
  · obtain rfl : other = source := Json.str.inj hsource
    exact absurd (hcompile.symm.trans hdefect) (by simp)

/-- The built-in modes have expressions only, so where the custom modes can be judged, every mode
that a slug names can. -/
theorem Mode.isJudgeable_of_find? {slug : Json} {custom : List Mode} {m : Mode}
    (hcustom : ∀ m ∈ custom, m.IsJudgeable) (hm : find? slug custom = some m) : m.IsJudgeable := by
  rw [find?_eq_or] at hm
  rcases Option.or_eq_some_iff.mp hm with hm | ⟨-, hm⟩
  · exact hcustom m (List.mem_of_find?_eq_some hm)
  · intro entry hentry options hoptions
    have hvalid := builtins_entries_valid m (List.mem_of_find?_eq_some hm) entry hentry
    exact (hvalid options hoptions).fileRegex.isJudgeable

/-- The comparison of a path with a pattern that can be judged comes to an end, unless the first match
has a crossed group. -/
theorem matchesPath_judged {pattern : Json} {path : String} (h : pattern.IsJudgeable) :
    (¬ PatternCrosses pattern path ∧ ∃ found, (matchesPath (.str path) pattern).result = .ok found) ∨
    (PatternCrosses pattern path ∧
      (matchesPath (.str path) pattern).result = .error .crossedGroup) := by
  have hstops : ∀ failure, searchPath (.str path) pattern = .error failure ↔
      PatternCrosses pattern path ∧ failure = .crossedGroup := by
    intro failure
    rw [searchPath_stops_iff]
    refine or_iff_right fun hdefect => ?_
    obtain ⟨source, defect, hsource, hcompile, hfailure⟩ := hdefect
    obtain ⟨why, rfl⟩ := h source defect hsource hcompile
    exact absurd hfailure (by simp [Failure.ofDefect])
  rw [result_matchesPath]
  cases hsearch : searchPath (.str path) pattern with
  | error failure =>
    obtain ⟨hcrosses, rfl⟩ := (hstops failure).mp hsearch
    exact Or.inr ⟨hcrosses, rfl⟩
  | ok answer =>
    refine Or.inl ⟨fun hcrosses => ?_, _, rfl⟩
    exact absurd (hsearch.symm.trans ((hstops _).mpr ⟨hcrosses, rfl⟩)) (by simp)

/-! ## The entry that decides -/

namespace Mode

variable {m : Mode} {entry : GroupEntry} {params params' : CallParams}

/-- An entry looks at the path and at whether there is something to write. -/
theorem decideBy_congr (hpath : params.path = params'.path)
    (hwrites : params.writes = params'.writes) :
    m.decideBy entry params = m.decideBy entry params' := by
  unfold decideBy
  rw [hpath, hwrites]

/-- An entry that does not grant editing does not look at the parameters. -/
theorem decideBy_of_ne_edit (h : entry.group ≠ .edit) :
    (m.decideBy entry params).result = .ok (.allowed (some entry.group)) := by
  refine decideBy_unrestricted (Option.eq_none_iff_forall_ne_some.mpr fun options hscope => ?_)
  exact h (group_of_editScope hscope)

/-- What an edit grant makes of parameters: it allows the edit or refuses it for its path, unless it
is asked with a pattern whose match is crossed. -/
theorem decideBy_edit_cases (hgroup : entry.group = .edit)
    (hpath : params.path = .null ∨ ∃ path, params.path = .str path)
    (hjudgeable : ∀ options, entry.options? = some options → options.fileRegex.IsJudgeable) :
    ((¬ ∃ pattern path, entry.Meets params pattern path ∧ PatternCrosses pattern path) ∧
      ((m.decideBy entry params).result = .ok (.allowed (some .edit)) ∨
        ∃ options path, entry.options? = some options ∧
          (m.decideBy entry params).result = .ok (.violation (m.violationBy options path)))) ∨
    ((∃ pattern path, entry.Meets params pattern path ∧ PatternCrosses pattern path) ∧
      (m.decideBy entry params).result = .error .crossedGroup) := by
  by_cases hasked : ∃ pattern path, entry.Meets params pattern path
  · -- the entry compares the path with its pattern
    obtain ⟨pattern, path, hmeets⟩ := hasked
    obtain ⟨⟨hp, hne, hwrites⟩, options, hscope, rfl⟩ := hmeets
    obtain ⟨rfl, -⟩ := (editScope_eq_some hgroup).mp hscope
    have hcrosses : (∃ pattern path', (GroupEntry.restricted .edit options).Meets params pattern path' ∧
        PatternCrosses pattern path') ↔ PatternCrosses options.fileRegex path := by
      constructor
      · intro h
        obtain ⟨-, path', ⟨⟨hp', -, -⟩, options', hscope', rfl⟩, hcross⟩ := h
        obtain rfl : path = path' := Json.str.inj (hp.symm.trans hp')
        obtain rfl : options = options' := Option.some.inj (hscope.symm.trans hscope')
        exact hcross
      · exact fun hcross => ⟨_, _, ⟨⟨hp, hne, hwrites⟩, options, hscope, rfl⟩, hcross⟩
    have htruthy : params.path.truthy = true := by simp [hp, Json.truthy, hne]
    rw [hcrosses, result_decideBy hscope htruthy hwrites, hp]
    have hjudged := @matchesPath_judged options.fileRegex path (hjudgeable options rfl)
    rcases hjudged with ⟨hsound, found, hfound⟩ | ⟨hcross, hstop⟩
    · rw [hfound]
      cases found with
      | true => exact Or.inl ⟨hsound, Or.inl rfl⟩
      | false => exact Or.inl ⟨hsound, Or.inr ⟨options, path, rfl, rfl⟩⟩
    · rw [hstop]
      exact Or.inr ⟨hcross, rfl⟩
  · -- it has no pattern, or there is no path or nothing to write
    refine Or.inl ⟨fun h => ?_, Or.inl ?_⟩
    · obtain ⟨pattern, path, hmeets, -⟩ := h
      exact hasked ⟨pattern, path, hmeets⟩
    cases hscope : entry.editScope? with
    | none => rw [decideBy_unrestricted hscope, hgroup]
    | some options =>
      have hidle : (params.path.truthy && params.writes) = false := by
        refine Bool.eq_false_iff.mpr fun h => ?_
        obtain ⟨htruthy, hwrites⟩ := Bool.and_eq_true_iff.mp h
        obtain ⟨path, hp⟩ : ∃ path, params.path = .str path :=
          hpath.resolve_left fun hnull => absurd htruthy (by simp [hnull, Json.truthy])
        have hne : path ≠ "" := by simpa [hp, Json.truthy] using htruthy
        exact hasked ⟨_, path, ⟨hp, hne, hwrites⟩, options, hscope, rfl⟩
      simp [decideBy, hscope, hidle, hgroup]

end Mode

/-! ## Where the parameters come in -/

namespace ToolUse

/-- The use with a call that states these data as its parameters. -/
def calling (use : ToolUse) (data : Json) : ToolUse := { use with call := .raw data }

/-- The use comes to an entry of a mode: the gates are open, and of the mode that the slug names it is
the first entry whose group has the tool. None of that depends on the call. -/
structure Reaches (use : ToolUse) (custom : List Mode) (m : Mode) (entry : GroupEntry) : Prop where
  gated : isAlwaysAvailable use.tool = false
  gate : use.gate = .ok none
  mode : Mode.find? use.slug custom = some m
  entry : m.groups.find? (·.group.authorises use.tool) = some entry

variable {use : ToolUse} {custom : List Mode} {m : Mode} {entry : GroupEntry}

/-- The entry that a use comes to decides on the parameters of the call. -/
theorem Reaches.result_check (h : use.Reaches custom m entry) {data : Json} {params : CallParams}
    (hparams : (CallParams.ofJson data).result = .ok params) :
    ((use.calling data).check custom).result = (m.decideBy entry params).result := by
  have hcall : (use.calling data).call.params.result = .ok params := hparams
  have hsame : (use.calling data).tool = use.tool ∧ (use.calling data).slug = use.slug ∧
      (use.calling data).gate = use.gate := ⟨rfl, rfl, rfl⟩
  simp [check, decideInMode, Mode.decide, hsame, h.gated, h.gate, h.mode, h.entry, hcall]

/-- A use that comes to no entry is decided alike whatever the call is. -/
theorem check_of_not_reaches (htool : ∃ name, use.tool = .str name)
    (hflags : use.experiments.IsTable) (h : ∀ m entry, ¬ use.Reaches custom m entry) :
    ∃ d, ∀ data : Json, data.IsTable → ((use.calling data).check custom).result = .ok d := by
  have hgate : ∀ data, (use.calling data).gate = use.gate := fun _ => rfl
  cases halways : isAlwaysAvailable use.tool with
  | true => exact ⟨_, fun data _ => @check_always (use.calling data) halways custom⟩
  | false =>
    have hsucceeds := fun data d => @check_succeeds (use.calling data) custom d halways
    obtain ⟨answer, hanswer⟩ := gate_answers htool hflags
    cases answer with
    | some why => exact ⟨_, fun data _ => (hsucceeds data _).mpr (Or.inl ⟨why, hanswer, rfl⟩)⟩
    | none =>
      cases hm : Mode.find? use.slug custom with
      | none =>
        exact ⟨_, fun data _ => (hsucceeds data _).mpr
          (Or.inr ⟨hanswer, decideInMode_succeeds.mpr (Or.inl ⟨hm, rfl⟩)⟩)⟩
      | some m =>
        have hentry : m.groups.find? (·.group.authorises use.tool) = none :=
          Option.eq_none_iff_forall_ne_some.mpr fun entry hentry =>
            h m entry ⟨halways, hanswer, hm, hentry⟩
        refine ⟨.denied .notInMode, fun data hdata => ?_⟩
        have hstated : (use.calling data).WellStated := ⟨htool, hflags, data, rfl, hdata⟩
        obtain ⟨params, hparams, -⟩ := hstated.params_answer
        exact (hsucceeds data _).mpr (Or.inr ⟨hanswer, decideInMode_succeeds.mpr
          (Or.inr ⟨m, params, hm, hparams, Mode.decide_succeeds.mpr (Or.inl ⟨hentry, rfl⟩)⟩)⟩)

/-- A use that comes to a pattern comes to the entry that has it. -/
theorem Meets.reaches {pattern : Json} {path : String} (h : use.Meets custom pattern path) :
    ∃ m entry, use.Reaches custom m entry := by
  obtain ⟨hedits, hopen, m, options, hm, hfirst, -⟩ := h
  obtain ⟨name, hname, htool⟩ := hedits.tool
  have hgated : isAlwaysAvailable use.tool = false := by rw [htool, (editing_tools name hname).1]
  have hentry : m.groups.find? (·.group.authorises use.tool) = some (.restricted .edit options) := by
    rw [htool, find_authorising_edit hname, hfirst]
  exact ⟨m, _, hgated, (gate_none_iff (by rw [htool]; rfl)).mpr hopen, hm, hentry⟩

end ToolUse

/-! ## Calls of one use -/

/-- The decision allows editing, or refuses it for a path as a grant does that has this pattern and
description in the mode of this name. -/
def Decision.OfGrant (modeName pattern description : Json) (d : Decision) : Prop :=
  d = .allowed (some .edit) ∨ ∃ path, d = .violation { modeName, pattern, description, path }

/-- Both end with a decision, and these are equal, or both are those of one edit grant. -/
def AlikeButForPath (x y : Except Failure Decision) : Prop :=
  ∃ d e, x = .ok d ∧ y = .ok e ∧ (d = e ∨ ∃ modeName pattern description,
    d.OfGrant modeName pattern description ∧ e.OfGrant modeName pattern description)

/-- The data state parameters that agree on the path and on whether there is something to write. -/
def NarrowAlike (p q : Json) : Prop :=
  ∃ params params', (CallParams.ofJson p).result = .ok params ∧
    (CallParams.ofJson q).result = .ok params' ∧ params.path = params'.path ∧
    params.writes = params'.writes

namespace ToolUse

variable {use : ToolUse} {custom : List Mode} {name : String}

/-- A use that comes to an entry comes to the patterns that the entry is asked with. -/
theorem Reaches.crossed_iff {m : Mode} {entry : GroupEntry} (h : use.Reaches custom m entry)
    (htool : use.tool = .str name) {data : Json} {params : CallParams}
    (hparams : (CallParams.ofJson data).result = .ok params) :
    (use.calling data).Crossed custom ↔
      ∃ pattern path, entry.Meets params pattern path ∧ PatternCrosses pattern path := by
  have hopen : (use.calling data).GatesOpen := (gate_none_iff (by
    show use.tool.isKey = true
    rw [htool]
    rfl)).mp h.gate
  have hmeets := @meets_iff (use.calling data) custom m params ⟨name, htool⟩ hopen h.mode hparams
  have hentry : m.groups.find? (·.group.authorises (use.calling data).tool) = some entry := h.entry
  unfold Crossed
  simp only [hmeets, hentry, Option.some.injEq, exists_eq_left']

/-- How the calls of an editing tool end that come to an edit grant: with decisions of that grant,
unless they come to a pattern whose match is crossed. -/
theorem Reaches.calling_cases {m : Mode} {entry : GroupEntry} (h : use.Reaches custom m entry)
    (hedit : entry.group = .edit) (htool : use.tool = .str name) (hflags : use.experiments.IsTable)
    (hcustom : ∀ m ∈ custom, m.IsJudgeable) :
    ∃ modeName pattern description, ∀ data : Json, data.IsTable →
      (¬ (use.calling data).Crossed custom ∧ ∃ d, ((use.calling data).check custom).result = .ok d ∧
        d.OfGrant modeName pattern description) ∨
      ((use.calling data).Crossed custom ∧
        ((use.calling data).check custom).result = .error .crossedGroup) := by
  have hjudgeable := Mode.isJudgeable_of_find? hcustom h.mode entry (List.mem_of_find?_eq_some h.entry)
  refine ⟨m.name, (entry.options?.getD {}).fileRegex, (entry.options?.getD {}).description,
    fun data hdata => ?_⟩
  have hstated : (use.calling data).WellStated := ⟨⟨name, htool⟩, hflags, data, rfl, hdata⟩
  obtain ⟨params, hparams, -, hpath⟩ := hstated.params_answer
  rw [h.crossed_iff htool hparams, h.result_check hparams]
  rcases Mode.decideBy_edit_cases (m := m) hedit hpath hjudgeable with
    ⟨hsound, hallowed | ⟨options, path, hoptions, hrefused⟩⟩ | hcrossed
  · exact Or.inl ⟨hsound, _, hallowed, Or.inl rfl⟩
  · refine Or.inl ⟨hsound, _, hrefused, Or.inr ⟨.str path, ?_⟩⟩
    rw [hoptions]
    rfl
  · exact Or.inr hcrossed

/-- Calls that come to an entry for another group are allowed, and come to no pattern. -/
theorem Reaches.calling_of_ne_edit {m : Mode} {entry : GroupEntry} (h : use.Reaches custom m entry)
    (hother : entry.group ≠ .edit) (htool : use.tool = .str name) (hflags : use.experiments.IsTable)
    {data : Json} (hdata : data.IsTable) :
    ¬ (use.calling data).Crossed custom ∧
      ((use.calling data).check custom).result = .ok (.allowed (some entry.group)) := by
  have hstated : (use.calling data).WellStated := ⟨⟨name, htool⟩, hflags, data, rfl, hdata⟩
  obtain ⟨params, hparams, -⟩ := hstated.params_answer
  rw [h.crossed_iff htool hparams, h.result_check hparams]
  refine ⟨fun hcrossed => ?_, Mode.decideBy_of_ne_edit hother⟩
  obtain ⟨-, -, ⟨-, options, hscope, -⟩, -⟩ := hcrossed
  exact hother (group_of_editScope hscope)

/-- **The parameters of a call count by their path and by whether there is something to write.** Take
the calls of one use whose modes have patterns of which nothing but the syntax is wrong. Calls with
parameters that agree on both end alike, and with a decision exactly if they do not come to a pattern
whose first match in the path has a crossed group. Calls of a tool that is none for editing are
decided, all alike. Two calls of an editing tool are decided alike, or each is allowed or refused for
its path by one and the same grant, exactly if neither comes to such a pattern. -/
theorem parameters_choose_by_path (htool : use.tool = .str name) (hflags : use.experiments.IsTable)
    (hcustom : ∀ m ∈ custom, m.IsJudgeable) {p q : Json} (hp : p.IsTable) (hq : q.IsTable) :
    (NarrowAlike p q →
      ((use.calling p).check custom).result = ((use.calling q).check custom).result) ∧
    ((∃ d, ((use.calling p).check custom).result = .ok d) ↔ ¬ (use.calling p).Crossed custom) ∧
    (name ∉ ToolGroup.edit.tools → ∃ d, ((use.calling p).check custom).result = .ok d ∧
      ((use.calling q).check custom).result = .ok d) ∧
    (name ∈ ToolGroup.edit.tools →
      (AlikeButForPath ((use.calling p).check custom).result ((use.calling q).check custom).result ↔
        ¬ (use.calling p).Crossed custom ∧ ¬ (use.calling q).Crossed custom)) := by
  by_cases hreaches : ∃ m entry, use.Reaches custom m entry
  · obtain ⟨m, entry, h⟩ := hreaches
    have hauthorised : name ∈ entry.group.tools := by
      have hfound := List.find?_some h.entry
      rwa [htool, ToolGroup.authorises_str] at hfound
    have hnarrow : NarrowAlike p q →
        ((use.calling p).check custom).result = ((use.calling q).check custom).result := by
      intro halike
      obtain ⟨params, params', hparams, hparams', hpath, hwrites⟩ := halike
      rw [h.result_check hparams, h.result_check hparams', Mode.decideBy_congr hpath hwrites]
    by_cases hedit : entry.group = .edit
    · -- the calls end with decisions of one grant, or they are crossed
      obtain ⟨modeName, pattern, description, hends⟩ := h.calling_cases hedit htool hflags hcustom
      rw [hedit] at hauthorised
      refine ⟨hnarrow, ?_, fun hother => absurd hauthorised hother, fun _ => ?_⟩
      · rcases hends p hp with ⟨hsound, d, hd, -⟩ | ⟨hcrossed, hstop⟩
        · exact iff_of_true ⟨d, hd⟩ hsound
        · exact iff_of_false (by simp [hstop]) (not_not_intro hcrossed)
      · rcases hends p hp with ⟨hsound, d, hd, hgrant⟩ | ⟨hcrossed, hstop⟩
        · rcases hends q hq with ⟨hsound', e, he, hgrant'⟩ | ⟨hcrossed', hstop'⟩
          · exact iff_of_true ⟨d, e, hd, he, Or.inr ⟨modeName, pattern, description, hgrant, hgrant'⟩⟩
              ⟨hsound, hsound'⟩
          · exact iff_of_false (fun ⟨d, e, _, he, _⟩ => by simp [hstop'] at he)
              fun hboth => hboth.2 hcrossed'
        · exact iff_of_false (fun ⟨d, e, hd, _, _⟩ => by simp [hstop] at hd)
            fun hboth => hboth.1 hcrossed
    · -- the entry does not look at the parameters, and the tool is none for editing
      obtain ⟨hsound, hd⟩ := h.calling_of_ne_edit hedit htool hflags hp
      obtain ⟨hsound', he⟩ := h.calling_of_ne_edit hedit htool hflags hq
      rw [hd, he]
      exact ⟨fun _ => rfl, iff_of_true ⟨_, rfl⟩ hsound, fun _ => ⟨_, rfl, rfl⟩, fun hmem =>
        absurd (ToolGroup.eq_of_mem_tools hauthorised hmem) hedit⟩
  · -- no entry is come to, so no call meets a pattern and all are decided alike
    obtain ⟨d, hd⟩ := check_of_not_reaches ⟨name, htool⟩ hflags fun m entry h => hreaches ⟨m, entry, h⟩
    have hsound : ∀ data, ¬ (use.calling data).Crossed custom := by
      intro data hcrossed
      obtain ⟨pattern, path, hmeets, -⟩ := hcrossed
      obtain ⟨m, entry, h⟩ := hmeets.reaches
      exact hreaches ⟨m, entry, h.gated, h.gate, h.mode, h.entry⟩
    rw [hd p hp, hd q hq]
    exact ⟨fun _ => rfl, iff_of_true ⟨d, rfl⟩ (hsound p), fun _ => ⟨d, rfl, rfl⟩,
      fun _ => iff_of_true ⟨d, d, rfl, rfl, Or.inl rfl⟩ ⟨hsound p, hsound q⟩⟩

/-- The mode of that expression may be judged, and writing to the path does not end as a call without
parameters does, nor as a decision of the same grant. -/
theorem crossingCall_differs :
    (∀ m ∈ [Settings.editingMode Profile.possessivePattern], m.IsJudgeable) ∧
    Profile.possessiveUse.tool = .str "write_to_file" ∧ Profile.possessiveUse.experiments.IsTable ∧
    Profile.possessiveCall.IsTable ∧ Json.null.IsTable ∧ "write_to_file" ∈ ToolGroup.edit.tools ∧
    ¬ AlikeButForPath
      ((Profile.possessiveUse.calling Profile.possessiveCall).check
        [Settings.editingMode Profile.possessivePattern]).result
      ((Profile.possessiveUse.calling .null).check
        [Settings.editingMode Profile.possessivePattern]).result := by
  obtain ⟨regex, found, hcompile, hfind, hcrossed⟩ := Profile.possessivePattern_crosses
  have hcustom : ∀ m ∈ [Settings.editingMode Profile.possessivePattern], m.IsJudgeable := by
    intro m hm entry hentry options hoptions
    obtain rfl := List.mem_singleton.mp hm
    obtain rfl := List.mem_singleton.mp hentry
    obtain rfl := Option.some.inj hoptions
    exact Json.IsPattern.isJudgeable (Or.inr ⟨_, regex, rfl, hcompile⟩)
  have hcall : Profile.possessiveCall.IsTable := Or.inr ⟨_, rfl⟩
  have hnone : Json.null.IsTable := Or.inl rfl
  have hflags : Profile.possessiveUse.experiments.IsTable := Or.inr ⟨_, rfl⟩
  have hmem : "write_to_file" ∈ ToolGroup.edit.tools := by decide
  have hedits : Profile.possessiveUse.Edits "ab" := by
    refine ⟨⟨"write_to_file", hmem, rfl⟩, ⟨_, CallParams.ofJson_obj _, ?_, ?_⟩, by decide⟩
    · simp [CallParams.ofFields, CallParams.pathText, Json.isNull, Json.plain]
    · simp [CallParams.ofFields, CallParams.writes, List.lookup, Json.truthy]
  have hopen : Profile.possessiveUse.GatesOpen := by
    simp [GatesOpen, Profile.possessiveUse, Profile.toolUse, experimentIds,
      Requirements.ofJson, Requirements.Block]
  have hmode : Mode.find? (.str "docs") [Settings.editingMode Profile.possessivePattern] =
      some (Settings.editingMode Profile.possessivePattern) := by
    simp [Mode.find?, Mode.hasSlug, Settings.editingMode, Json.same]
  have hcrosses : (Profile.possessiveUse.calling Profile.possessiveCall).Crossed
      [Settings.editingMode Profile.possessivePattern] :=
    ⟨.str Profile.possessivePattern, "ab", ⟨hedits, hopen, _, _, hmode, rfl, rfl, rfl⟩,
      Profile.possessivePattern, regex, found, rfl, hcompile, hfind, hcrossed⟩
  refine ⟨hcustom, rfl, hflags, hcall, hnone, hmem, fun halike => ?_⟩
  have hsound := (parameters_choose_by_path rfl hflags hcustom hcall hnone).2.2.2 hmem
  exact (hsound.mp halike).1 hcrosses

end ToolUse

end ModePolicy
