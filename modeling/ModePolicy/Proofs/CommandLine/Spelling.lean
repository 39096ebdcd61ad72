import ModePolicy.CommandLine.Request
import ModePolicy.Proofs.CommandLine.Parameters

/-!
# Options that are written out

A long flag by itself, or with an equals sign and a value after it, is read as the option that it
spells, whatever the value is (`Spells`). So options can come in any order and number, before and after
the operand of a command:

> `parse_spelled`: a command is told what each option sets, in the order of the options, and its
> operand.
>
> `parseArguments_spelled`: arguments that write out a tool and options ask to check a call as the
> options say.
-/

namespace ModePolicy.CommandLine

/-! ## Long flags -/

variable {flag : String}

/-- Two hyphens and a name without an equals sign. -/
def IsLong (flag : String) : Prop :=
  flag.toList.take 2 = ['-', '-'] ∧ 2 < flag.toList.length ∧ '=' ∉ flag.toList

instance : Decidable (IsLong flag) := inferInstanceAs (Decidable (_ ∧ _ ∧ _))

theorem IsLong.exists_name (h : IsLong flag) :
    ∃ c name, flag.toList = '-' :: '-' :: c :: name := by
  obtain ⟨htake, hlength, -⟩ := h
  have hdrop : flag.toList.drop 2 ≠ [] := by simpa using hlength
  obtain ⟨c, name, hname⟩ := List.exists_cons_of_ne_nil hdrop
  refine ⟨c, name, ?_⟩
  rw [← List.take_append_drop 2 flag.toList, htake, hname]
  rfl

theorem IsLong.plain (h : IsLong flag) : '=' ∉ flag.toList := h.2.2

theorem IsLong.ne_hyphens (h : IsLong flag) (rest : String) : flag ++ rest ≠ "--" := by
  obtain ⟨c, name, hflag⟩ := h.exists_name
  intro heq
  have hlist := congrArg String.toList heq
  simp [hflag] at hlist

theorem IsLong.splitValue_alone (h : IsLong flag) :
    Grammar.splitValue flag.toList = (flag.toList, .nothing) := by
  rw [Grammar.splitValue, cut_eq_nil h.plain]

theorem IsLong.splitValue_assigned (h : IsLong flag) (value : String) :
    Grammar.splitValue (flag ++ "=" ++ value).toList = (flag.toList, .assigned value) := by
  obtain ⟨htake, hdrop⟩ := cut_append h.plain value.toList
  have htext : (flag ++ "=" ++ value).toList = flag.toList ++ '=' :: value.toList := by simp
  rw [htext, Grammar.splitValue, hdrop, htake]
  simp

namespace Grammar

variable {α : Type} {g : Grammar α} {spec : OptionSpec α} {text : String} {what : α}

theorem splitValue_isPrefix (cs : List Char) : (splitValue cs).1 <+: cs := by
  unfold splitValue
  split
  · exact List.prefix_refl cs
  · exact List.takeWhile_prefix _

/-! ## What one argument is read as -/

/-- A hyphen and more after it make an option, or what looks like one. -/
theorem read_hyphens {c : Char} {rest : List Char} (htext : text.toList = '-' :: c :: rest) :
    g.read text = match g.option? text with
      | some spec => .ok (.option spec .nothing)
      | none => match g.assigned? text.toList with
        | some argument => .ok argument
        | none => g.readOther text := by
  unfold read
  rw [htext]
  rfl

theorem read_alone (hlong : IsLong flag) (h : g.option? flag = some spec) :
    g.read flag = .ok (.option spec .nothing) := by
  obtain ⟨c, name, hflag⟩ := hlong.exists_name
  rw [read_hyphens hflag, h]

/-- No flag has an equals sign in it. -/
def PlainFlags (g : Grammar α) : Prop := ∀ f ∈ g.flags, '=' ∉ f.1.toList

theorem PlainFlags.option?_assigned (h : g.PlainFlags) (flag value : String) :
    g.option? (flag ++ "=" ++ value) = none := by
  refine List.lookup_eq_none_iff.mpr fun f hf => bne_iff_ne.mpr fun heq => h f hf ?_
  simp [← heq]

theorem read_assigned (hplain : g.PlainFlags) (hlong : IsLong flag)
    (h : g.option? flag = some spec) (value : String) :
    g.read (flag ++ "=" ++ value) = .ok (.option spec (.assigned value)) := by
  have hsplit := hlong.splitValue_assigned value
  obtain ⟨c, name, hflag⟩ := hlong.exists_name
  have htext : (flag ++ "=" ++ value).toList =
      '-' :: '-' :: (c :: name ++ '=' :: value.toList) := by simp [hflag]
  have hassigned : g.assigned? (flag ++ "=" ++ value).toList =
      some (.option spec (.assigned value)) := by
    have hafter : Written.after flag.toList value = .assigned value := by
      simp [Written.after, hflag]
    rw [assigned?, hsplit]
    simp [h, hafter]
  rw [read_hyphens htext, hplain.option?_assigned, hassigned]

/-- A plain argument is read as such. -/
theorem read_plain (h : text.toList.head? ≠ some '-') : g.read text = .ok (.plain text) := by
  unfold read
  split
  · next htext => exact absurd (by rw [htext]; rfl) h
  · rfl

theorem candidates_long (rest : List Char) : g.candidates ('-' :: '-' :: rest) =
    (g.flags.filter fun f => (splitValue ('-' :: '-' :: rest)).1.isPrefixOf f.1.toList).map fun f =>
      (f.1, f.2, (splitValue ('-' :: '-' :: rest)).2) := rfl

/-- An argument that spells a long flag which no flag of the program begins with is no option of
it. -/
theorem read_foreign (hlong : IsLong flag) (hflag : (splitValue text.toList).1 = flag.toList)
    (hnone : ∀ f ∈ g.flags, ¬ flag.toList <+: f.1.toList) :
    ∃ argument, g.read text = .ok argument := by
  have hprefix : flag.toList <+: text.toList := hflag ▸ splitValue_isPrefix text.toList
  have hoption : ∀ other : String, flag.toList <+: other.toList → g.option? other = none := by
    intro other hother
    refine List.lookup_eq_none_iff.mpr fun f hf => bne_iff_ne.mpr ?_
    rintro rfl
    exact hnone f hf hother
  obtain ⟨c, name, hname⟩ := hlong.exists_name
  obtain ⟨more, htext⟩ := hprefix
  have hassigned : g.assigned? text.toList = none := by
    unfold assigned?
    split
    · next flag' value hsplit =>
      obtain rfl : flag' = flag.toList := by rw [← hflag, hsplit]
      rw [hoption _ (by simp)]
      rfl
    · rfl
  have hlist : text.toList = '-' :: '-' :: (c :: name ++ more) := by rw [← htext, hname]; rfl
  have hcandidates : g.candidates text.toList = [] := by
    rw [hlist, candidates_long, ← hlist, hflag, List.map_eq_nil_iff, List.filter_eq_nil_iff]
    intro f hf
    simpa using hnone f hf
  rw [read_hyphens hlist, hoption text ⟨more, htext⟩, hassigned]
  exact ⟨_, by rw [readOther, hcandidates]⟩

/-! ## Arguments that set something -/

/-- The argument is an option that sets something, and it is complete. -/
def Spells (g : Grammar α) (text : String) (setting : α × Option String) : Prop :=
  text ≠ "--" ∧ ∃ spec written, g.read text = .ok (.option spec written) ∧
    g.unfold spec written = .ok { complete := [(.set setting.1, setting.2)] }

theorem spells_alone (hlong : IsLong flag) (h : g.option? flag = some ⟨[flag], false, .set what⟩) :
    g.Spells flag (what, none) := by
  refine ⟨?_, _, _, read_alone hlong h, rfl⟩
  have hne := hlong.ne_hyphens ""
  rwa [String.append_empty] at hne

/-- Two hyphens are no value. -/
theorem spells_assigned (hplain : g.PlainFlags) (hlong : IsLong flag)
    (h : g.option? flag = some (valueOption flag what)) (value : String) :
    g.Spells (flag ++ "=" ++ value) (what, if value == "--" then none else some value) := by
  refine ⟨?_, _, _, read_assigned hplain hlong h value, rfl⟩
  rw [String.append_assoc]
  exact hlong.ne_hyphens _

variable {rest texts : List String} {setting : α × Option String}
  {settings : List (α × Option String)}

theorem readAll_cons (h : text ≠ "--") :
    g.readAll (text :: rest) = (g.read text).bind fun argument =>
      (g.readAll rest).bind fun arguments => .ok ((text, argument) :: arguments) := by
  rw [readAll, if_neg (by simpa using h)]
  rfl

/-- Such an argument adds its setting, and the others are gone through. -/
theorem Spells.step (h : g.Spells text setting) (wanted : Operands) (r : Reading α)
    (rest : List String) :
    (g.readAll (text :: rest)).bind (g.consume wanted r) =
      (g.readAll rest).bind (g.consume wanted { r with settings := r.settings ++ [setting] }) := by
  obtain ⟨hne, spec, written, hread, hunfold⟩ := h
  have hstep : ∀ arguments, g.consume wanted r ((text, .option spec written) :: arguments) =
      g.consume wanted { r with settings := r.settings ++ [setting] } arguments := by
    -- the recursion is inside a chain, so that there is no equation to rewrite with
    intro arguments
    delta consume
    change (g.unfold spec written).bind _ = _
    rw [hunfold]
    rfl
  rw [readAll_cons hne, hread, ok_bind]
  cases g.readAll rest with
  | ok arguments => exact hstep arguments
  | error why => rfl

/-- A run of such arguments adds their settings in order. -/
theorem run_spelled (h : List.Forall₂ g.Spells texts settings) (wanted : Operands)
    (rest : List String) : ∀ r, (g.readAll (texts ++ rest)).bind (g.consume wanted r) =
      (g.readAll rest).bind (g.consume wanted { r with settings := r.settings ++ settings }) := by
  induction h with
  | nil => intro r; simp
  | cons hfirst _ ih =>
    intro r
    rw [List.cons_append, hfirst.step, ih]
    simp [List.append_assoc]

/-- **Options in any order and number, before and after the operand, set what they spell.** -/
theorem parse_spelled {before after : List String} {settings₁ settings₂ : List (α × Option String)}
    (hbefore : List.Forall₂ g.Spells before settings₁)
    (hafter : List.Forall₂ g.Spells after settings₂) (htext : text.toList.head? ≠ some '-') :
    g.parse .single (before ++ text :: after) =
      .ok { settings := settings₁ ++ settings₂, operands := [text] } := by
  have hparse : g.parse .single (before ++ text :: after) =
      (g.readAll (before ++ text :: after)).bind (g.consume .single {}) := rfl
  have hne : text ≠ "--" := by
    rintro rfl
    exact htext rfl
  have hoperand : ∀ r : Reading α, (g.readAll (text :: after)).bind (g.consume .single r) =
      (g.readAll after).bind (g.consume .none { r with operands := [text] }) := by
    intro r
    rw [readAll_cons hne, read_plain htext, ok_bind]
    cases hafter with
    | nil => rfl
    | @cons _ _ rest _ hfirst _ =>
      -- what comes next is an option and no separator
      obtain ⟨hne', spec, written, hread, -⟩ := hfirst
      rw [readAll_cons hne', hread, ok_bind]
      cases g.readAll rest <;> rfl
  have hend : ∀ r : Reading α, (g.readAll after).bind (g.consume .none r) =
      .ok { r with settings := r.settings ++ settings₂ } := by
    intro r
    have hrun := run_spelled hafter .none [] r
    rwa [List.append_nil] at hrun
  rw [hparse, run_spelled hbefore, hoperand, hend]
  rfl

/-- Arguments of which each can be read can be read, and none of them is changed. -/
theorem readAll_readable (h : ∀ text ∈ texts, ∃ argument, g.read text = .ok argument) :
    ∃ arguments, g.readAll texts = .ok arguments ∧ arguments.map (·.1) = texts := by
  induction texts with
  | nil => exact ⟨[], rfl, rfl⟩
  | cons text rest ih =>
    obtain ⟨⟨argument, hread⟩, hrest⟩ := List.forall_mem_cons.mp h
    by_cases hne : text = "--"
    · refine ⟨(text, .separator) :: rest.map fun t => (t, .plain t), ?_, ?_⟩
      · rw [readAll, if_pos (by simpa using hne)]
      · simp [Function.comp_def]
    · obtain ⟨arguments, hall, htexts⟩ := ih hrest
      refine ⟨(text, argument) :: arguments, ?_, by simp [htexts]⟩
      rw [readAll_cons hne, hread, hall]
      rfl

/-- A command gets all that comes after its name. -/
theorem parse_command {name : String} (hname : name.toList.head? ≠ some '-')
    (h : ∀ text ∈ texts, ∃ argument, g.read text = .ok argument) :
    g.parse .command (name :: texts) = .ok { operands := name :: texts } := by
  obtain ⟨arguments, hall, htexts⟩ := readAll_readable h
  have hparse : g.parse .command (name :: texts) =
      (g.readAll (name :: texts)).bind (g.consume .command {}) := rfl
  have hne : name ≠ "--" := by
    rintro rfl
    exact hname rfl
  rw [hparse, readAll_cons hne, read_plain hname, ok_bind, hall, ok_bind, ok_bind, ← htexts]
  rfl

end Grammar

/-! ## The command that checks a call -/

/-- An option of the command `check`. -/
inductive CheckOption where
  | noTools
  | mode (slug : String)
  | param (text : String)
  | disable (tool : String)
  | experiment (name : String)
  | state (file : String)

namespace CheckOption

/-- The option in one argument. -/
def spelled : CheckOption → String
  | .noTools => "--no-tools"
  | .mode slug => "--mode" ++ "=" ++ slug
  | .param text => "--param" ++ "=" ++ text
  | .disable tool => "--disable" ++ "=" ++ tool
  | .experiment name => "--experiment" ++ "=" ++ name
  | .state file => "--state" ++ "=" ++ file

/-- A value, unless it is two hyphens. -/
def given (value : String) : Option String := if value == "--" then none else some value

/-- What the option sets. -/
def setting : CheckOption → CommandOption × Option String
  | .noTools => (.noTools, none)
  | .mode slug => (.mode, given slug)
  | .param text => (.param, given text)
  | .disable tool => (.disable, given tool)
  | .experiment name => (.experiment, given name)
  | .state file => (.state, given file)

theorem spells (o : CheckOption) : checkGrammar.Spells o.spelled o.setting := by
  have hplain : checkGrammar.PlainFlags := by unfold Grammar.PlainFlags; decide
  have hvalue : ∀ flag what, IsLong flag →
      checkGrammar.option? flag = some (valueOption flag what) → ∀ value,
      checkGrammar.Spells (flag ++ "=" ++ value) (what, given value) :=
    fun _ _ hlong h value => Grammar.spells_assigned hplain hlong h value
  cases o with
  | noTools => exact Grammar.spells_alone (by decide) rfl
  | mode slug => exact hvalue "--mode" .mode (by decide) rfl slug
  | param text => exact hvalue "--param" .param (by decide) rfl text
  | disable tool => exact hvalue "--disable" .disable (by decide) rfl tool
  | experiment name => exact hvalue "--experiment" .experiment (by decide) rfl name
  | state file => exact hvalue "--state" .state (by decide) rfl file

/-- To the program itself the options of the command are nothing it knows. -/
theorem read_program (o : CheckOption) : ∃ argument, programGrammar.read o.spelled = .ok argument := by
  have hvalue : ∀ flag value, IsLong flag →
      (∀ f ∈ programGrammar.flags, ¬ flag.toList <+: f.1.toList) →
      ∃ argument, programGrammar.read (flag ++ "=" ++ value) = .ok argument :=
    fun _ _ hlong => Grammar.read_foreign hlong (by rw [hlong.splitValue_assigned])
  cases o with
  | noTools =>
    have hlong : IsLong "--no-tools" := by decide
    exact Grammar.read_foreign hlong (by rw [spelled, hlong.splitValue_alone]) (by decide)
  | mode slug => exact hvalue "--mode" slug (by decide) (by decide)
  | param text => exact hvalue "--param" text (by decide) (by decide)
  | disable tool => exact hvalue "--disable" tool (by decide) (by decide)
  | experiment name => exact hvalue "--experiment" name (by decide) (by decide)
  | state file => exact hvalue "--state" file (by decide) (by decide)

/-- What a tool and options ask for: the last value of an option counts, or all its values do. -/
def check (tool : String) (r : Reading CommandOption) : Command :=
  .checkTool
    { tool
      mode := r.lastValue? .mode
      params := r.values .param
      disabled := r.values .disable
      noTools := r.has .noTools
      experiments := r.values .experiment }

variable {tool : String}

theorem parseCommand_check {texts : List String} {r : Reading CommandOption}
    (hparse : checkGrammar.parse .single texts = .ok r) (htool : r.operands = [tool]) :
    parseCommand "check" texts = .ok (check tool r, r) := by
  have hcommand : parseCommand "check" texts = (checkGrammar.parse .single texts).bind fun r =>
      (operand checkGrammar "tool" r).bind fun tool => .ok (check tool r, r) := rfl
  rw [hcommand, hparse, ok_bind, operand, htool]
  rfl

/-- **Arguments that write out a tool and options ask for what the options say**, in any order and
number and on either side of the tool. -/
theorem parseArguments_spelled (htool : tool.toList.head? ≠ some '-')
    (before after : List CheckOption) :
    parseArguments ("check" :: (before.map spelled ++ tool :: after.map spelled)) =
      let r : Reading CommandOption := { settings := (before ++ after).map setting }
      .ok { verbose := false, state := r.lastValue? .state, command := check tool r } := by
  have hspells : ∀ options : List CheckOption,
      List.Forall₂ checkGrammar.Spells (options.map spelled) (options.map setting) := by
    intro options
    rw [List.forall₂_map_left_iff, List.forall₂_map_right_iff, List.forall₂_same]
    exact fun o _ => o.spells
  have hreadable : ∀ text ∈ before.map spelled ++ tool :: after.map spelled,
      ∃ argument, programGrammar.read text = .ok argument := by
    rw [List.forall_mem_append, List.forall_mem_cons, List.forall_mem_map, List.forall_mem_map]
    exact ⟨fun o _ => o.read_program, ⟨_, Grammar.read_plain htool⟩, fun o _ => o.read_program⟩
  have hname : "check".toList.head? ≠ some '-' := by decide
  have hcommand := parseCommand_check
    (Grammar.parse_spelled (hspells before) (hspells after) htool) rfl
  unfold parseArguments
  rw [Grammar.parse_command hname hreadable, ok_chain]
  simp only [hcommand, ok_chain, List.map_append]
  rfl

end CheckOption

end ModePolicy.CommandLine
