import ModePolicy.Proofs.Mode.Grammar
import ModePolicy.Tool.Granted

/-!
# The tools of a list of grants

A list of grants comes in any mixture of shapes: names of groups, names under options, and entries
that are read already. Its tools are listed group after group, those that every mode has last, and a
name that comes again is left out.

> `tools_are_ordered_union`: what is listed are the tools of the groups granted and those that every
> mode has, each once and where it first comes; the shapes that grant the groups do not count; and
> the listing is refused exactly if some item grants no group (`GivenEntry.Grants`).

Leaving out repetitions is a loop over names. What it has collected from the names gone through is
told by `FirstOnly`, which one more name keeps (`FirstOnly.step`), so the whole loop does
(`FirstOnly.run`). No other list is described in this way (`FirstOnly.unique`).
-/

namespace ModePolicy

/-! ## Each name at its first place -/

/-- The names are those of the whole list, in the order in which they first come in it. -/
structure FirstOnly (whole names : List String) : Prop where
  mem_iff : ∀ name, name ∈ names ↔ name ∈ whole
  ordered : names.Pairwise fun a b => whole.idxOf a < whole.idxOf b

namespace FirstOnly

variable {whole names : List String}

theorem nodup (h : FirstOnly whole names) : names.Nodup := by
  refine h.ordered.imp fun {a b} hlt heq => ?_
  rw [heq] at hlt
  exact Nat.lt_irrefl _ hlt

/-- The whole list leaves no choice. -/
theorem unique {others : List String} (h : FirstOnly whole names) (h' : FirstOnly whole others) :
    others = names := by
  have hperm : others.Perm names :=
    (List.perm_ext_iff_of_nodup h'.nodup h.nodup).mpr fun name =>
      (h'.mem_iff name).trans (h.mem_iff name).symm
  refine hperm.eq_of_pairwise (fun a b _ _ hab hba => ?_) h'.ordered h.ordered
  exact absurd (Nat.lt_trans hab hba) (Nat.lt_irrefl _)

/-- What comes later changes no first place. -/
theorem ordered_append (h : FirstOnly whole names) (later : List String) :
    names.Pairwise fun a b => (whole ++ later).idxOf a < (whole ++ later).idxOf b := by
  refine h.ordered.imp_of_mem fun {a b} ha hb hlt => ?_
  have ha' : a ∈ whole := (h.mem_iff a).mp ha
  have hb' : b ∈ whole := (h.mem_iff b).mp hb
  rw [List.idxOf_append_of_mem ha', List.idxOf_append_of_mem hb']
  exact hlt

/-- One more name is left out if it is there, and else goes to the end. -/
theorem step (h : FirstOnly whole names) (name : String) :
    FirstOnly (whole ++ [name]) (if names.contains name then names else names ++ [name]) := by
  by_cases hagain : name ∈ names
  · rw [if_pos (List.contains_iff_mem.mpr hagain)]
    refine ⟨fun other => ?_, h.ordered_append [name]⟩
    rw [List.mem_append, List.mem_singleton, ← h.mem_iff]
    exact ⟨Or.inl, fun hother => hother.elim id fun heq => heq ▸ hagain⟩
  · rw [if_neg (mt List.contains_iff_mem.mp hagain)]
    refine ⟨fun other => ?_, List.pairwise_append.mpr
      ⟨h.ordered_append [name], List.pairwise_singleton _ _, fun a ha b hb => ?_⟩⟩
    · rw [List.mem_append, List.mem_append, h.mem_iff]
    · -- the new name is not in the list so far, so its first place is behind all others
      obtain rfl := List.mem_singleton.mp hb
      have hnew : b ∉ whole := mt (h.mem_iff b).mpr hagain
      have hseen : a ∈ whole := (h.mem_iff a).mp ha
      rw [List.idxOf_append_of_mem hseen, List.idxOf_append_of_notMem hnew]
      exact Nat.lt_of_lt_of_le (List.idxOf_lt_length_of_mem hseen) (Nat.le_add_right _ _)

/-- Going through more names keeps the names collected the first ones of all gone through. -/
theorem run (rest : List String) : ∀ {whole names : List String}, FirstOnly whole names →
    FirstOnly (whole ++ rest) (rest.foldl
      (fun seen name => if seen.contains name then seen else seen ++ [name]) names) := by
  -- the induction is on what is still to come, whatever has been gone through
  induction rest with
  | nil =>
    intro whole names h
    rw [List.append_nil]
    exact h
  | cons name rest ih =>
    intro whole names h
    rw [List.foldl_cons, ← List.singleton_append, ← List.append_assoc]
    exact ih (h.step name)

end FirstOnly

theorem firstSeen_firstOnly (names : List String) : FirstOnly names (firstSeen names) :=
  FirstOnly.run names ⟨fun _ => Iff.rfl, List.Pairwise.nil⟩

theorem mem_firstSeen {name : String} {names : List String} :
    name ∈ firstSeen names ↔ name ∈ names :=
  (firstSeen_firstOnly names).mem_iff name

theorem firstSeen_nodup (names : List String) : (firstSeen names).Nodup :=
  (firstSeen_firstOnly names).nodup

/-! ## Shapes of grants -/

/-- The item grants the group: the group's name does so, a list of its name and an object, its name
under options that are read already, and any entry of the group. -/
inductive GivenEntry.Grants : GivenEntry → ToolGroup → Prop
  | name (g : ToolGroup) : Grants (.data (.str g.name)) g
  | pair (g : ToolGroup) (fields : Fields Json) : Grants (.data (.arr [.str g.name, .obj fields])) g
  | under (g : ToolGroup) (options : GroupOptions) : Grants (.under (.str g.name) options) g
  | entry (e : GroupEntry) : Grants (.entry e) e.group

namespace GivenEntry

variable {e : GivenEntry} {g : ToolGroup}

/-- An item grants a group exactly if it is read as an entry of it. -/
theorem grants_iff : e.Grants g ↔ ∃ p, e.read = .ok p ∧ p.group = g := by
  constructor
  · intro h
    cases h with
    | name => exact ⟨.simple g, GroupEntry.ofJson_eq_ok.mpr (Or.inl ⟨g, rfl, rfl⟩), rfl⟩
    | pair _ fields =>
      exact ⟨.restricted g (.ofFields fields),
        GroupEntry.ofJson_eq_ok.mpr (Or.inr ⟨g, fields, rfl, rfl⟩), rfl⟩
    | under _ options =>
      exact ⟨.restricted g options,
        bind_succeeds.mpr ⟨g, GroupEntry.readGroup_eq_ok.mpr rfl, rfl⟩, rfl⟩
    | entry p => exact ⟨p, rfl, rfl⟩
  · intro h
    obtain ⟨p, hp, rfl⟩ := h
    cases e with
    | data value =>
      rcases GroupEntry.ofJson_eq_ok.mp hp with ⟨g, rfl, rfl⟩ | ⟨g, fields, rfl, rfl⟩
      · exact .name g
      · exact .pair g fields
    | under name options =>
      obtain ⟨g, hg, heq⟩ := bind_succeeds.mp hp
      obtain rfl := GroupEntry.readGroup_eq_ok.mp hg
      obtain rfl := Except.ok.inj heq
      exact .under g options
    | entry q =>
      obtain rfl := Except.ok.inj hp
      exact .entry q

/-- An item grants some group exactly if it can be read. -/
theorem exists_grants_iff : (∃ g, e.Grants g) ↔ ∃ p, e.read = .ok p := by
  simp [grants_iff]

/-- It grants none exactly if it cannot. -/
theorem grants_none_iff : (∀ g, ¬ e.Grants g) ↔ ∃ why, e.read = .error why := by
  rw [← not_exists, exists_grants_iff]
  cases e.read with
  | ok p => simp
  | error why => simp

end GivenEntry

/-! ## The tools of a list -/

section Given

variable {given before after : List GivenEntry} {e e' : GivenEntry} {g : ToolGroup}

/-- Items that grant groups are read as entries of these groups, one by one. -/
theorem mapM_read_granted {granted : List ToolGroup}
    (h : List.Forall₂ GivenEntry.Grants given granted) :
    ∃ entries, given.mapM (·.read) = .ok entries ∧ entries.map (·.group) = granted := by
  induction h with
  | nil => exact ⟨[], rfl, rfl⟩
  | cons hitem _ ih =>
    obtain ⟨p, hp, rfl⟩ := GivenEntry.grants_iff.mp hitem
    obtain ⟨entries, hentries, rfl⟩ := ih
    exact ⟨p :: entries, by rw [List.mapM_cons, hp, ok_chain, hentries]; rfl, rfl⟩

theorem toolsOfGiven_granted {granted : List ToolGroup}
    (h : List.Forall₂ GivenEntry.Grants given granted) :
    toolsOfGiven given = .ok (toolsOfGroups granted) := by
  obtain ⟨entries, hentries, rfl⟩ := mapM_read_granted h
  unfold toolsOfGiven
  rw [hentries]

/-- What a mode lists are the tools of its entries, given as such. -/
theorem toolsOfGiven_entries (m : Mode) : toolsOfGiven (m.groups.map .entry) = .ok m.tools := by
  refine toolsOfGiven_granted ?_
  rw [List.forall₂_map_left_iff, List.forall₂_map_right_iff, List.forall₂_same]
  exact fun entry _ => .entry entry

/-- An item may take the place of another one that grants the same group. -/
theorem toolsOfGiven_replaced (h : e.Grants g) (h' : e'.Grants g) :
    toolsOfGiven (before ++ e' :: after) = toolsOfGiven (before ++ e :: after) := by
  obtain ⟨p, hp, hgroup⟩ := GivenEntry.grants_iff.mp h
  obtain ⟨p', hp', hgroup'⟩ := GivenEntry.grants_iff.mp h'
  unfold toolsOfGiven
  rw [List.mapM_append, List.mapM_append, List.mapM_cons, List.mapM_cons, hp, hp']
  -- an item before or after the place that cannot be read stops both
  cases before.mapM (·.read) with
  | error why => rfl
  | ok first =>
    cases after.mapM (·.read) with
    | error why => rfl
    | ok rest =>
      have hgroups : (first ++ p' :: rest).map (·.group) = (first ++ p :: rest).map (·.group) := by
        rw [List.map_append, List.map_append, List.map_cons, List.map_cons, hgroup, hgroup']
      exact congrArg (fun groups => Except.ok (toolsOfGroups groups)) hgroups

/-- There is a list of tools exactly if every item grants a group. -/
theorem toolsOfGiven_succeeds_iff :
    (∃ names, toolsOfGiven given = .ok names) ↔ ∀ e ∈ given, ∃ g, e.Grants g := by
  have hread : (∃ names, toolsOfGiven given = .ok names) ↔
      ∃ entries, given.mapM (·.read) = .ok entries := by
    unfold toolsOfGiven
    cases given.mapM (·.read) with
    | ok entries => simp
    | error reason => simp
  rw [hread, exists_mapM_iff]
  exact forall₂_congr fun e _ => GivenEntry.exists_grants_iff.symm

/-- Listing the tools fails with what is wrong with the first item that grants no group, and with
nothing else. -/
theorem toolsOfGiven_fails_iff {why : Failure} :
    toolsOfGiven given = .error why ↔ ∃ before e after reason, given = before ++ e :: after ∧
      (∀ b ∈ before, ∃ g, b.Grants g) ∧ e.read = .error reason ∧
        why = .badMode (.entry reason) := by
  have hread : toolsOfGiven given = .error why ↔
      ∃ reason, given.mapM (·.read) = .error reason ∧ why = .badMode (.entry reason) := by
    unfold toolsOfGiven
    cases given.mapM (·.read) with
    | ok entries => simp
    | error reason => simp [eq_comm]
  rw [hread]
  simp only [mapM_fails_iff, GivenEntry.exists_grants_iff]
  constructor
  · intro h
    obtain ⟨reason, ⟨before, e, after, hgiven, hbefore, he⟩, hwhy⟩ := h
    exact ⟨before, e, after, reason, hgiven, hbefore, he, hwhy⟩
  · intro h
    obtain ⟨before, e, after, reason, hgiven, hbefore, he, hwhy⟩ := h
    exact ⟨reason, ⟨before, e, after, hgiven, hbefore, he⟩, hwhy⟩

/-- A list is refused exactly if some item grants no group. -/
theorem toolsOfGiven_refused_iff :
    (∃ reason, toolsOfGiven given = .error (.badMode (.entry reason))) ↔
      ∃ e ∈ given, ∀ g, ¬ e.Grants g := by
  cases hlist : toolsOfGiven given with
  | ok names =>
    refine iff_of_false (by simp) fun h => ?_
    obtain ⟨e, he, hnone⟩ := h
    obtain ⟨g, hg⟩ := toolsOfGiven_succeeds_iff.mp ⟨names, hlist⟩ e he
    exact hnone g hg
  | error why =>
    obtain ⟨before, e, after, reason, rfl, -, hreason, rfl⟩ := toolsOfGiven_fails_iff.mp hlist
    exact iff_of_true ⟨reason, rfl⟩ ⟨e, List.mem_append_right _ List.mem_cons_self,
      GivenEntry.grants_none_iff.mpr ⟨reason, hreason⟩⟩

/-- The item at a place may be replaced by another one that grants the same group. -/
theorem toolsOfGiven_set {i : Nat} (hplace : given[i]? = some e) (h : e.Grants g)
    (h' : e'.Grants g) : toolsOfGiven (given.set i e') = toolsOfGiven given := by
  obtain ⟨hi, rfl⟩ := List.getElem?_eq_some_iff.mp hplace
  have hsplit : ∀ item, given.set i item = given.take i ++ item :: given.drop (i + 1) := by
    intro item
    rw [List.set_eq_take_append_cons_drop, if_pos hi]
  calc toolsOfGiven (given.set i e')
      = toolsOfGiven (given.take i ++ e' :: given.drop (i + 1)) := by rw [hsplit]
    _ = toolsOfGiven (given.take i ++ given[i] :: given.drop (i + 1)) := toolsOfGiven_replaced h h'
    _ = toolsOfGiven given := by rw [← hsplit, List.set_getElem_self]

/-- **The tools of a list of grants are an ordered union.** If its items grant groups, in whichever
shapes, what is listed are the tools of one group after the other and those that every mode has,
each once and in the order in which they first come. No other list is like that. It stays the same
if an item is replaced by another one that grants the same group, or by the entry that it is read
as. The listing is refused exactly if some item grants no group. -/
theorem tools_are_ordered_union (given : List GivenEntry) :
    (∀ granted, List.Forall₂ GivenEntry.Grants given granted →
      ∃ names, toolsOfGiven given = .ok names ∧ names.Nodup ∧
        FirstOnly (granted.flatMap (·.tools) ++ alwaysAvailableTools) names ∧
        ∀ others, FirstOnly (granted.flatMap (·.tools) ++ alwaysAvailableTools) others →
          others = names) ∧
    (∀ i e, given[i]? = some e →
      (∀ g e', e.Grants g → e'.Grants g → toolsOfGiven (given.set i e') = toolsOfGiven given) ∧
      ∀ p, e.read = .ok p → toolsOfGiven (given.set i (.entry p)) = toolsOfGiven given) ∧
    ((∃ reason, toolsOfGiven given = .error (.badMode (.entry reason))) ↔
      ∃ e ∈ given, ∀ g, ¬ e.Grants g) := by
  refine ⟨fun granted h => ?_, fun i e hplace => ⟨fun g e' h h' => ?_, fun p hp => ?_⟩,
    toolsOfGiven_refused_iff⟩
  · have hfirst := firstSeen_firstOnly (granted.flatMap (·.tools) ++ alwaysAvailableTools)
    exact ⟨_, toolsOfGiven_granted h, hfirst.nodup, hfirst, fun others => hfirst.unique⟩
  · exact toolsOfGiven_set hplace h h'
  · -- an entry grants the group of the item that it was read from
    exact toolsOfGiven_set hplace (GivenEntry.grants_iff.mpr ⟨p, hp, rfl⟩) (.entry p)

end Given

/-- Grants in all shapes, of which some grant a group again. -/
def draftGrants : List GivenEntry :=
  [.data (.str "modes"), .data (.arr [.str "command", .obj [("description", .str "Builds only")]]),
    .entry (.simple .modes), .under (.str "mcp") {}, .data (.str "command")]

/-- The tools of that list. Those of modes come where they are first granted, although every mode
has them, and they stay there when the first item is replaced by its entry. With one more item that
names no group, the listing is refused. -/
theorem draftGrants_united :
    List.Forall₂ GivenEntry.Grants draftGrants [.modes, .command, .modes, .mcp, .command] ∧
    toolsOfGiven draftGrants = .ok ["switch_mode", "new_task", "execute_command", "use_mcp_tool",
      "access_mcp_resource", "ask_followup_question", "attempt_completion"] ∧
    FirstOnly ([.modes, .command, .modes, .mcp, .command].flatMap ToolGroup.tools ++
      alwaysAvailableTools) ["switch_mode", "new_task", "execute_command", "use_mcp_tool",
      "access_mcp_resource", "ask_followup_question", "attempt_completion"] ∧
    toolsOfGiven (draftGrants.set 0 (.entry (.simple .modes))) = toolsOfGiven draftGrants ∧
    ∃ reason, toolsOfGiven (draftGrants ++ [.data (.str "deploy")]) =
      .error (.badMode (.entry reason)) := by
  have hgrants : List.Forall₂ GivenEntry.Grants draftGrants
      [.modes, .command, .modes, .mcp, .command] :=
    .cons (.name .modes) (.cons (.pair .command _) (.cons (.entry (.simple .modes))
      (.cons (.under .mcp {}) (.cons (.name .command) .nil))))
  have hlist : toolsOfGiven draftGrants = .ok ["switch_mode", "new_task", "execute_command",
      "use_mcp_tool", "access_mcp_resource", "ask_followup_question", "attempt_completion"] := rfl
  have hnone : ∀ g, ¬ (GivenEntry.data (.str "deploy")).Grants g :=
    GivenEntry.grants_none_iff.mpr ⟨.unknownGroup (.str "deploy"), rfl⟩
  obtain ⟨hunion, hreplaced, -⟩ := tools_are_ordered_union draftGrants
  obtain ⟨names, hnames, -, hfirst, -⟩ := hunion _ hgrants
  obtain rfl := Except.ok.inj (hnames.symm.trans hlist)
  refine ⟨hgrants, hlist, hfirst, (hreplaced 0 _ rfl).2 _ rfl, ?_⟩
  exact (tools_are_ordered_union _).2.2.mpr ⟨_, by simp, hnone⟩

end ModePolicy
