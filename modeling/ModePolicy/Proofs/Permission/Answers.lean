import ModePolicy.Proofs.Mode.Validity
import ModePolicy.Proofs.Permission.EditGrant

/-!
# Which uses are answered

A use of a tool is answered by a decision unless something on its way fails. Where callers give
flags and parameters as objects, or none, and the patterns that are come to are expressions, there
is one thing left that can:

> `ToolUse.check_answers`: the use is decided exactly if it does not come to a pattern whose first
> match in the path has a crossed group; else it stops for that. Nothing is logged as an error.

A use comes to a pattern (`ToolUse.Meets`) if it is an edit, and past the gates the first edit grant
of its mode has that pattern. Whether a decision grants the tool is told without the pattern, by what
the groups of the mode hold (`ToolUse.check_granted_iff`). A use without parameters comes to no
pattern, so it is always decided, and its tool is granted or denied (`ToolUse.check_idle`).

What may stop a report and what it logs are kept together (`Report.Answers`), since both are told of
each step of the way.
-/

namespace ModePolicy

/-! ## Reports that stop for one reason -/

/-- Nothing is logged as an error. -/
def Report.Clean {α : Type} (r : Report α) : Prop := ∀ e ∈ r.log, e.level ≠ .error

/-- The report gives an answer unless a group is crossed, and logs no error. -/
structure Report.Answers {α : Type} (crossed : Prop) (r : Report α) : Prop where
  answer : ¬ crossed → ∃ a, r.result = .ok a
  stop : crossed → r.result = .error .crossedGroup
  clean : r.Clean

namespace Report

variable {α β : Type} {crossed : Prop}

theorem clean_pure (a : α) : (pure a : Report α).Clean := List.forall_mem_nil _

theorem clean_lift (x : Except Failure α) : (liftM x : Report α).Clean := List.forall_mem_nil _

theorem clean_lift_misuse (x : Except Misuse α) : (liftM x : Report α).Clean :=
  List.forall_mem_nil _

theorem clean_note {level : LogLevel} (h : level ≠ .error) (text : String) :
    (note level text).Clean := List.forall_mem_singleton.mpr h

theorem Clean.bind {x : Report α} {f : α → Report β} (hx : x.Clean)
    (hf : ∀ a, x.result = .ok a → (f a).Clean) : (x >>= f).Clean := by
  cases hr : x.result with
  | error e =>
    have hlog : (x >>= f).log = x.log := by simp [Bind.bind, andThen, hr]
    unfold Clean
    rw [hlog]
    exact hx
  | ok a =>
    have hlog : (x >>= f).log = x.log ++ (f a).log := by simp [Bind.bind, andThen, hr]
    unfold Clean
    rw [hlog]
    exact List.forall_mem_append.mpr ⟨hx, hf a hr⟩

namespace Answers

theorem pure (a : α) (h : ¬ crossed) : (Pure.pure a : Report α).Answers crossed :=
  ⟨fun _ => ⟨a, rfl⟩, fun hc => absurd hc h, clean_pure a⟩

/-- A step that has its answer, and then others. -/
theorem after {x : Report α} {f : α → Report β} {a : α} (hx : x.result = .ok a) (hclean : x.Clean)
    (hf : (f a).Answers crossed) : (x >>= f).Answers crossed := by
  have hresult : (x >>= f).result = (f a).result := by rw [result_bind, hx, ok_bind]
  refine ⟨hresult ▸ hf.answer, hresult ▸ hf.stop, hclean.bind fun b hb => ?_⟩
  obtain rfl : a = b := Except.ok.inj (hx.symm.trans hb)
  exact hf.clean

/-- A step that may stop, and then others that do not. -/
theorem before {x : Report α} {f : α → Report β} (hx : x.Answers crossed)
    (hf : ∀ a, (f a).Answers False) : (x >>= f).Answers crossed := by
  refine ⟨fun h => ?_, fun h => ?_, hx.clean.bind fun a _ => (hf a).clean⟩
  · obtain ⟨a, ha⟩ := hx.answer h
    rw [result_bind, ha]
    exact (hf a).answer not_false
  · rw [result_bind, hx.stop h]
    rfl

end Answers

end Report

/-! ## Well-stated uses -/

/-- The value is an object, or null for none. -/
def Json.IsTable (v : Json) : Prop := v = .null ∨ ∃ fields, v = .obj fields

/-- A use as callers state it: the tool is a text, and the flags and the parameters are objects, or
there are none. -/
structure ToolUse.WellStated (use : ToolUse) : Prop where
  tool : ∃ name, use.tool = .str name
  flags : use.experiments.IsTable
  call : ∃ data : Json, use.call = .raw data ∧ data.IsTable

/-- The tools of a group, by their names. -/
@[simp] theorem ToolGroup.authorises_str {g : ToolGroup} {name : String} :
    g.authorises (.str name) = true ↔ name ∈ g.tools := by
  simp [authorises, Json.same]

/-- No tool is in two groups. -/
theorem ToolGroup.eq_of_mem_tools {g h : ToolGroup} {name : String} (hg : name ∈ g.tools)
    (hh : name ∈ h.tools) : g = h := by
  have hapart : ∀ t ∈ g.tools, t ∈ h.tools → g = h := by
    cases g <;> cases h <;> decide
  exact hapart name hg hh

@[simp] theorem isAlwaysAvailable_str {name : String} :
    isAlwaysAvailable (.str name) = true ↔ name ∈ alwaysAvailableTools := by
  simp [isAlwaysAvailable, Json.same]

/-- The gates have an answer to a tool that is a text, given flags in an object. -/
theorem ToolUse.gate_answers {use : ToolUse} (htool : ∃ name, use.tool = .str name)
    (hflags : use.experiments.IsTable) : ∃ answer, use.gate = .ok answer := by
  obtain ⟨name, htool⟩ := htool
  have hexperiment : ∃ answer, experimentDenial? use.experiments use.tool = .ok answer := by
    rw [htool]
    unfold experimentDenial?
    rcases hflags with hnull | ⟨fields, hfields⟩
    · rw [hnull]
      cases isExperiment (.str name) <;> exact ⟨_, rfl⟩
    · rw [hfields]
      unfold experimentEnabled
      cases isExperiment (.str name) <;> cases (Json.obj fields).truthy <;> exact ⟨_, rfl⟩
  have hrequired : ∃ answer, use.requirements.denial? use.tool = .ok answer := by
    rw [htool]
    cases use.requirements <;> exact ⟨_, rfl⟩
  obtain ⟨first, hfirst⟩ := hexperiment
  obtain ⟨second, hsecond⟩ := hrequired
  unfold ToolUse.gate
  rw [hfirst, ok_chain]
  cases first with
  | some why => exact ⟨_, rfl⟩
  | none => exact ⟨second, hsecond⟩

theorem CallParams.clean_noteIgnored (names : List String) : (noteIgnored names).Clean := by
  unfold noteIgnored
  split
  · exact Report.clean_pure ()
  · exact Report.clean_note (by simp) _

/-- Reading parameters logs at most the names that are ignored. -/
theorem CallParams.clean_ofJson (raw : Json) : (ofJson raw).Clean := by
  unfold ofJson
  split
  · exact Report.clean_pure _
  · refine (Report.clean_lift_misuse _).bind fun names _ => ?_
    refine (clean_noteIgnored _).bind fun _ _ => ?_
    refine (Report.clean_lift_misuse _).bind fun path _ => ?_
    refine (Report.clean_lift_misuse _).bind fun diff _ => ?_
    refine (Report.clean_lift_misuse _).bind fun content _ => ?_
    refine (Report.clean_lift_misuse _).bind fun operations _ => ?_
    exact Report.clean_pure _

/-- The parameters of a call can be read if they are an object or there are none, and their path is
a text or null. -/
theorem ToolUse.WellStated.params_answer {use : ToolUse} (h : use.WellStated) :
    ∃ params, use.call.params.result = .ok params ∧ use.call.params.Clean ∧
      (params.path = .null ∨ ∃ path, params.path = .str path) := by
  have hpath : ∀ v, CallParams.pathText v = .null ∨ ∃ path, CallParams.pathText v = .str path := by
    intro v
    unfold CallParams.pathText
    split
    · exact Or.inl rfl
    · exact Or.inr ⟨_, rfl⟩
  obtain ⟨data, hcall, rfl | ⟨fields, rfl⟩⟩ := h.call
  · rw [hcall]
    exact ⟨{}, rfl, CallParams.clean_ofJson _, Or.inl rfl⟩
  · rw [hcall]
    exact ⟨_, CallParams.ofJson_obj fields, CallParams.clean_ofJson _, hpath _⟩

/-! ## Patterns that are come to -/

/-- The first match of the pattern in the path has a group that ends before it begins. -/
def PatternCrosses (pattern : Json) (path : String) : Prop :=
  ∃ source regex found, pattern = .str source ∧ Pattern.compile source = .ok regex ∧
    regex.find? path = some found ∧ found.marks.areCrossed = true

/-- An entry is asked with its pattern whether these parameters are covered: they say what to write
to the path, and the entry restricts editing. -/
def GroupEntry.Meets (entry : GroupEntry) (params : CallParams) (pattern : Json) (path : String) :
    Prop :=
  (params.path = .str path ∧ path ≠ "" ∧ params.writes = true) ∧
    ∃ options, entry.editScope? = some options ∧ options.fileRegex = pattern

/-- The use comes to a pattern with a path: it is an edit of the path, the gates are open, and the
first edit grant of the mode that the slug names has that pattern set. -/
def ToolUse.Meets (use : ToolUse) (custom : List Mode) (pattern : Json) (path : String) : Prop :=
  use.Edits path ∧ use.GatesOpen ∧ ∃ m options, Mode.find? use.slug custom = some m ∧
    m.firstEditGrant? = some (.restricted .edit options) ∧ options.fileRegex.truthy = true ∧
    options.fileRegex = pattern

/-- The use comes to a pattern whose first match in the path has a crossed group. -/
def ToolUse.Crossed (use : ToolUse) (custom : List Mode) : Prop :=
  ∃ pattern path, use.Meets custom pattern path ∧ PatternCrosses pattern path

/-- What an expression crosses is told by its own matches. -/
theorem patternCrosses_str {source path : String} {regex : Regex}
    (h : Pattern.compile source = .ok regex) :
    PatternCrosses (.str source) path ↔
      ∃ found, regex.find? path = some found ∧ found.marks.areCrossed = true := by
  constructor
  · intro hcrosses
    obtain ⟨source', regex', found, hs, hc, hfound⟩ := hcrosses
    obtain rfl : source = source' := Json.str.inj hs
    obtain rfl : regex = regex' := Except.ok.inj (h.symm.trans hc)
    exact ⟨found, hfound⟩
  · intro hfound
    obtain ⟨found, hfound⟩ := hfound
    exact ⟨source, regex, found, rfl, h, hfound⟩

/-- The comparison of a path with an expression has an answer unless the match is crossed. -/
theorem matchesPath_answers {pattern : Json} {path : String} (h : pattern.IsPattern)
    (hset : pattern.truthy = true) :
    (matchesPath (.str path) pattern).Answers (PatternCrosses pattern path) := by
  rcases h with rfl | ⟨source, regex, rfl, hc⟩
  · exact absurd hset (by simp [Json.truthy])
  rw [patternCrosses_str hc]
  unfold matchesPath
  rw [searchPath_compiled hc]
  cases hfind : regex.find? path with
  | none => exact Report.Answers.after rfl (Report.clean_lift _) (Report.Answers.pure _ (by simp))
  | some found =>
    cases hcrossed : found.marks.areCrossed with
    | true =>
      refine ⟨fun h => absurd ⟨found, rfl, hcrossed⟩ h, fun _ => ?_, ?_⟩
      · simp [hcrossed]
      · exact (Report.clean_lift _).bind fun a ha => by simp [hcrossed] at ha
    | false =>
      simp only [hcrossed, Bool.false_eq_true, if_false]
      exact Report.Answers.after rfl (Report.clean_lift _)
        (Report.Answers.pure _ (by simp [hcrossed]))

/-- Only editing is restricted. -/
theorem group_of_editScope {entry : GroupEntry} {options : GroupOptions}
    (h : entry.editScope? = some options) : entry.group = .edit := by
  cases entry with
  | simple g => exact absurd h (by simp [GroupEntry.editScope?])
  | restricted g o =>
    cases g with
    | edit => rfl
    | _ => exact absurd h (by simp [GroupEntry.editScope?])

/-- An entry decides unless it is asked with a pattern whose match is crossed. -/
theorem Mode.decideBy_answers {m : Mode} {entry : GroupEntry} {params : CallParams}
    (hpath : params.path = .null ∨ ∃ path, params.path = .str path)
    (husable : ∀ pattern path, entry.Meets params pattern path → pattern.IsPattern) :
    (m.decideBy entry params).Answers
      (∃ pattern path, entry.Meets params pattern path ∧ PatternCrosses pattern path) := by
  unfold decideBy
  cases hscope : entry.editScope? with
  | none =>
    refine Report.Answers.pure _ fun h => ?_
    obtain ⟨pattern, path, ⟨-, options, hoptions, -⟩, -⟩ := h
    exact absurd (hscope.symm.trans hoptions) (by simp)
  | some options =>
    by_cases hasked : (params.path.truthy && params.writes) = true
    · -- the pattern is compared with the path
      obtain ⟨htruthy, hwrites⟩ := Bool.and_eq_true_iff.mp hasked
      obtain ⟨path, hp⟩ : ∃ path, params.path = .str path := by
        rcases hpath with hnull | hp
        · exact absurd htruthy (by simp [hnull, Json.truthy])
        · exact hp
      have hne : path ≠ "" := by simpa [hp, Json.truthy] using htruthy
      have hmeets : entry.Meets params options.fileRegex path :=
        ⟨⟨hp, hne, hwrites⟩, options, hscope, rfl⟩
      have hcrosses :
          (∃ pattern path, entry.Meets params pattern path ∧ PatternCrosses pattern path) ↔
            PatternCrosses options.fileRegex path := by
        constructor
        · intro h
          obtain ⟨pattern, path', ⟨⟨hp', -, -⟩, options', hoptions, rfl⟩, hcross⟩ := h
          obtain rfl : path = path' := Json.str.inj (hp.symm.trans hp')
          obtain rfl : options = options' := Option.some.inj (hscope.symm.trans hoptions)
          exact hcross
        · exact fun hcross => ⟨_, _, hmeets, hcross⟩
      have hset := ((editScope_eq_some (group_of_editScope hscope)).mp hscope).2
      rw [hcrosses]
      simp only [hasked, if_true]
      rw [hp]
      refine (matchesPath_answers (husable _ _ hmeets) hset).before fun found => ?_
      cases found with
      | true => exact Report.Answers.pure _ not_false
      | false =>
        exact Report.Answers.after rfl (Report.clean_note (by simp) _)
          (Report.Answers.pure _ not_false)
    · simp only [hasked]
      refine Report.Answers.pure _ fun h => ?_
      obtain ⟨pattern, path, ⟨⟨hp, hne, hwrites⟩, -⟩, -⟩ := h
      exact hasked (by simp [hp, hwrites, Json.truthy, hne])

/-- Behind open gates, a use comes to the patterns that the deciding entry is asked with. -/
theorem ToolUse.meets_iff {use : ToolUse} {custom : List Mode} {m : Mode} {params : CallParams}
    (htool : ∃ name, use.tool = .str name) (hopen : use.GatesOpen)
    (hm : Mode.find? use.slug custom = some m) (hparams : use.call.params.result = .ok params)
    (pattern : Json) (path : String) :
    use.Meets custom pattern path ↔
      ∃ entry, m.groups.find? (·.group.authorises use.tool) = some entry ∧
        entry.Meets params pattern path := by
  constructor
  · intro h
    obtain ⟨hedits, -, m', options, hm', hfirst, hset, hpattern⟩ := h
    obtain ⟨name, hname, htool⟩ := hedits.tool
    obtain ⟨params', hparams', hpath, hwrites⟩ := hedits.call
    obtain rfl : m = m' := Option.some.inj (hm.symm.trans hm')
    obtain rfl : params = params' := Except.ok.inj (hparams.symm.trans hparams')
    rw [htool, find_authorising_edit hname]
    exact ⟨_, hfirst, ⟨hpath, hedits.path_ne, hwrites⟩, options,
      (editScope_eq_some rfl).mpr ⟨rfl, hset⟩, hpattern⟩
  · intro h
    obtain ⟨entry, hentry, ⟨hpath, hne, hwrites⟩, options, hscope, hpattern⟩ := h
    obtain ⟨name, htool⟩ := htool
    have hgroup := group_of_editScope hscope
    have hauthorised : entry.group.authorises (.str name) = true := by
      rw [htool] at hentry
      simpa using List.find?_some hentry
    rw [hgroup, ToolGroup.authorises_str] at hauthorised
    rw [htool, find_authorising_edit hauthorised] at hentry
    obtain ⟨rfl, hset⟩ := (editScope_eq_some hgroup).mp hscope
    exact ⟨⟨⟨name, hauthorised, htool⟩, ⟨params, hparams, hpath, hwrites⟩, hne⟩, hopen, m, options,
      hm, hentry, hset, hpattern⟩

/-- Behind open gates, the mode that the slug names decides, or there is none. -/
theorem ToolUse.decideInMode_answers {use : ToolUse} {custom : List Mode}
    (hstated : use.WellStated) (hopen : use.GatesOpen)
    (husable : ∀ pattern path, use.Meets custom pattern path → pattern.IsPattern) :
    (use.decideInMode custom).Answers (use.Crossed custom) := by
  unfold decideInMode
  cases hm : Mode.find? use.slug custom with
  | none =>
    refine Report.Answers.after rfl (Report.clean_note (by simp) _)
      (Report.Answers.pure _ fun h => ?_)
    obtain ⟨-, -, ⟨-, -, m, -, hm', -⟩, -⟩ := h
    exact absurd (hm.symm.trans hm') (by simp)
  | some m =>
    obtain ⟨params, hparams, hclean, hpath⟩ := hstated.params_answer
    have hmeets := meets_iff hstated.tool hopen hm hparams
    refine Report.Answers.after hparams hclean ?_
    unfold Mode.decide Crossed
    simp only [hmeets] at husable ⊢
    cases hentry : m.groups.find? (·.group.authorises use.tool) with
    | none => exact Report.Answers.pure _ (by simp)
    | some entry =>
      have hanswers := Mode.decideBy_answers (m := m) hpath fun pattern path h =>
        husable pattern path ⟨entry, hentry, h⟩
      simpa [hentry] using hanswers

/-- **A well-stated use is decided exactly if it does not come to a pattern whose first match in the
path has a crossed group**, provided that the patterns it comes to are expressions; otherwise it
stops for that match. Nothing is logged as an error. -/
theorem ToolUse.check_answers {use : ToolUse} {custom : List Mode} (hstated : use.WellStated)
    (husable : ∀ pattern path, use.Meets custom pattern path → pattern.IsPattern) :
    (use.check custom).Answers (use.Crossed custom) := by
  obtain ⟨name, htool⟩ := hstated.tool
  have hgate : use.gate = .ok none ↔ use.GatesOpen := gate_none_iff (by rw [htool]; rfl)
  unfold check
  by_cases halways : isAlwaysAvailable use.tool = true
  · -- no editing tool is available everywhere, so no pattern is come to
    rw [if_pos halways]
    refine Report.Answers.pure _ fun h => ?_
    obtain ⟨-, -, ⟨⟨⟨name', hname', htool'⟩, -, -⟩, -⟩, -⟩ := h
    rw [htool', (editing_tools name' hname').1] at halways
    exact absurd halways (by simp)
  · rw [if_neg halways]
    obtain ⟨answer, hanswer⟩ := gate_answers hstated.tool hstated.flags
    refine Report.Answers.after (a := answer) (by simp [hanswer]) (Report.clean_lift_misuse _) ?_
    cases answer with
    | some why =>
      refine Report.Answers.pure _ fun h => ?_
      obtain ⟨-, -, ⟨-, hopen, -⟩, -⟩ := h
      exact absurd (hanswer.symm.trans (hgate.mpr hopen)) (by simp)
    | none => exact decideInMode_answers hstated (hgate.mp hanswer) husable

/-! ## What is granted -/

/-- An entry that is come to grants the tool, be it for other paths only. -/
theorem Mode.decideBy_granted {m : Mode} {entry : GroupEntry} {params : CallParams} {d : Decision}
    (h : (m.decideBy entry params).result = .ok d) : d.Granted := by
  unfold decideBy at h
  split at h
  · obtain rfl := Except.ok.inj h
    exact trivial
  · split at h
    · obtain ⟨found, -, hd⟩ := Report.bind_succeeds.mp h
      cases found <;> obtain rfl := Except.ok.inj hd <;> exact trivial
    · obtain rfl := Except.ok.inj h
      exact trivial

/-- A mode grants the tools of its groups. -/
theorem Mode.decide_granted_iff {m : Mode} {name : String} {params : CallParams} {d : Decision}
    (h : (m.decide (.str name) params).result = .ok d) :
    d.Granted ↔ ∃ entry ∈ m.groups, name ∈ entry.group.tools := by
  have hlisted : (∃ entry ∈ m.groups, name ∈ entry.group.tools) ↔
      (m.groups.find? (·.group.authorises (.str name))).isSome = true := by simp
  rw [hlisted]
  rcases decide_succeeds.mp h with ⟨hentry, rfl⟩ | ⟨entry, hentry, hby⟩
  · simp [hentry]
  · simp [hentry, decideBy_granted hby]

/-- A tool is granted if it is available in every mode, or if the gates are open and some group of
the mode that the slug names has it. -/
theorem ToolUse.check_granted_iff {use : ToolUse} {custom : List Mode} {name : String} {d : Decision}
    (htool : use.tool = .str name) (hd : (use.check custom).result = .ok d) :
    d.Granted ↔ name ∈ alwaysAvailableTools ∨ (use.GatesOpen ∧
      ∃ m, Mode.find? use.slug custom = some m ∧ ∃ entry ∈ m.groups, name ∈ entry.group.tools) := by
  rw [← isAlwaysAvailable_str, ← htool]
  cases halways : isAlwaysAvailable use.tool with
  | true =>
    obtain rfl := Except.ok.inj (hd.symm.trans (check_always halways custom))
    exact iff_of_true trivial (Or.inl rfl)
  | false =>
    have hgate : use.gate = .ok none ↔ use.GatesOpen := gate_none_iff (by rw [htool]; rfl)
    rw [← hgate]
    rcases (check_succeeds halways).mp hd with ⟨why, hwhy, rfl⟩ | ⟨hopen, hmode⟩
    · simp [hwhy]
    rcases decideInMode_succeeds.mp hmode with ⟨hm, rfl⟩ | ⟨m, params, hm, -, hdecide⟩
    · simp [hm]
    · rw [htool] at hdecide
      simpa [hopen, hm] using Mode.decide_granted_iff hdecide

/-- Only a call that would write is refused for its path. -/
theorem ToolUse.writes_of_violation {use : ToolUse} {custom : List Mode} {v : PathViolation}
    (hd : (use.check custom).result = .ok (.violation v)) :
    ∃ params, use.call.params.result = .ok params ∧ params.writes = true := by
  rcases granted_cases hd (Decision.granted_violation v) with
    ⟨-, hallowed⟩ | ⟨-, m, params, entry, -, hparams, -, hby⟩
  · exact absurd hallowed (by simp)
  · refine ⟨params, hparams, Bool.of_not_eq_false fun hidle => ?_⟩
    unfold Mode.decideBy at hby
    rw [hidle, Bool.and_false] at hby
    cases hscope : entry.editScope? <;> simp [hscope] at hby

/-! ## Uses without parameters -/

/-- A use without parameters is decided, and allowed exactly if the tool is available in every mode,
or the gates are open and some group of the mode that the slug names has it. -/
theorem ToolUse.check_idle {use : ToolUse} {name : String} (hstated : use.WellStated)
    (htool : use.tool = .str name) (hcall : use.call = .raw .null) (custom : List Mode) :
    ∃ d, (use.check custom).result = .ok d ∧ (d.isAllowed = true ↔
      name ∈ alwaysAvailableTools ∨ (use.GatesOpen ∧ ∃ m, Mode.find? use.slug custom = some m ∧
        ∃ entry ∈ m.groups, name ∈ entry.group.tools)) := by
  have hparams : use.call.params.result = .ok {} := by rw [hcall]; rfl
  have hnone : ∀ pattern path, ¬ use.Meets custom pattern path := by
    intro pattern path h
    obtain ⟨params, hp, hpath, -⟩ := h.1.call
    obtain rfl : {} = params := Except.ok.inj (hparams.symm.trans hp)
    exact absurd hpath (by simp)
  have hanswers := check_answers hstated fun pattern path h => absurd h (hnone pattern path)
  obtain ⟨d, hd⟩ := hanswers.answer fun ⟨pattern, path, h, _⟩ => hnone pattern path h
  refine ⟨d, hd, ?_⟩
  rw [← check_granted_iff htool hd]
  cases d with
  | allowed group => simp [Decision.isAllowed]
  | denied why => simp [Decision.isAllowed]
  | violation v =>
    obtain ⟨params, hp, hwrites⟩ := writes_of_violation hd
    obtain rfl : {} = params := Except.ok.inj (hparams.symm.trans hp)
    exact absurd hwrites (by decide)

end ModePolicy
