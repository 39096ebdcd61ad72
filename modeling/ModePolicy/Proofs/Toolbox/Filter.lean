import ModePolicy.Proofs.Permission.Listed
import ModePolicy.Toolbox

/-!
# What a toolbox offers in a mode

A toolbox asks the permission check about each of its definitions, with requirements that it makes
of its switches. That goes through a table in which a later definition replaces an earlier one of
the same name, and through another name for the tools of external servers. What comes out is said
here in terms of the tools that the mode lists:

> `filter_offers`: the definitions kept are exactly those that `Toolbox.Offers` describes, in order
> and as often as they occur.

A name is *blocked* if it is switched off, or if its last definition is not enabled
(`Toolbox.Blocked`); the table turns off exactly the blocked names (`entry?_entries`).
-/

namespace ModePolicy

/-! ## Tables made entry by entry -/

namespace Requirements

variable {ι : Type} {name : String} {entries : List (Json × Bool)}

/-- Setting an entry changes what is found under its own name only. -/
theorem entry?_setEntry {tool : Json} {usable : Bool} :
    entry? (.str name) (setEntry tool usable entries) =
      if tool.same (.str name) then some usable else entry? (.str name) entries := by
  induction entries with
  | nil => cases h : tool.same (.str name) <;> simp [setEntry, entry?, h]
  | cons e rest ih =>
    unfold setEntry
    by_cases hsame : e.1.same tool = true
    · -- the entry is that of the tool
      have hhead : e.1.same (.str name) = tool.same (.str name) := by
        rw [Bool.eq_iff_iff, Json.same_str, Json.same_str]
        constructor
        · intro he
          rw [he] at hsame
          cases tool <;> simp_all [Json.same]
        · intro ht
          rwa [ht, Json.same_str] at hsame
      rw [if_pos hsame]
      cases htool : tool.same (.str name) <;> simp [hhead, htool, entry?]
    · rw [if_neg hsame]
      cases hhead : e.1.same (.str name) with
      | true =>
        have hother : tool.same (.str name) = false := by
          rw [Bool.eq_false_iff]
          intro ht
          rw [Json.same_str.mp ht] at hsame
          exact hsame hhead
        simp [hhead, hother, entry?]
      | false =>
        have hskip : ∀ others, entry? (.str name) (e :: others) = entry? (.str name) others :=
          fun others => by simp [hhead, entry?]
        rw [hskip, hskip, ih]

/-- When entries have been set one after another, the last one of a name counts. -/
theorem entry?_foldl_setEntry {key : ι → Json} {usable : ι → Bool} (items : List ι) :
    ∀ {entries : List (Json × Bool)},
    entry? (.str name)
        (items.foldl (fun entries i => setEntry (key i) (usable i) entries) entries) =
      (((items.findRev? fun i => (key i).same (.str name)).map usable).or <|
        entry? (.str name) entries) := by
  induction items with
  | nil => intro entries; rfl
  | cons i rest ih =>
    intro entries
    rw [List.foldl_cons, ih, entry?_setEntry, List.findRev?_eq_find?_reverse,
      List.findRev?_eq_find?_reverse, List.reverse_cons, List.find?_append]
    cases rest.reverse.find? fun i => (key i).same (.str name) with
    | some last => rfl
    | none => cases hi : (key i).same (.str name) <;> simp [hi]

end Requirements

namespace Toolbox

/-- The last definition of a name is the one that counts. -/
def lastNamed? (b : Toolbox) (name : String) : Option ToolDefinition :=
  b.definitions.findRev? (·.name.same (.str name))

/-- A name is blocked: it is switched off, or its last definition is not enabled. -/
def Blocked (b : Toolbox) (name : String) : Prop :=
  .str name ∈ b.switchedOff ∨ ∃ d, b.lastNamed? name = some d ∧ d.enabled = false

/-- The table of a toolbox turns off exactly the blocked names. -/
theorem entry?_entries {b : Toolbox} {name : String} :
    Requirements.entry? (.str name) b.entries = some false ↔ b.Blocked name := by
  have hdefinitions : Requirements.entry? (.str name) b.definitionEntries =
      (b.lastNamed? name).map fun d => d.enabled && !b.isOff d.name := by
    refine (Requirements.entry?_foldl_setEntry b.definitions).trans ?_
    exact Option.or_none
  have hentries : Requirements.entry? (.str name) b.entries =
      (((b.switchedOff.findRev? (·.same (.str name))).map fun _ => false).or <|
        Requirements.entry? (.str name) b.definitionEntries) :=
    Requirements.entry?_foldl_setEntry b.switchedOff
  have hoff : (b.switchedOff.findRev? (·.same (.str name))).isSome = true ↔
      .str name ∈ b.switchedOff := by
    simp [List.findRev?_eq_find?_reverse, Json.same_str]
  rw [hentries, hdefinitions]
  unfold Blocked
  by_cases hmem : .str name ∈ b.switchedOff
  · obtain ⟨off, hsome⟩ := Option.isSome_iff_exists.mp (hoff.mpr hmem)
    rw [hsome]
    exact iff_of_true rfl (Or.inl hmem)
  · -- the name is not switched off, so its last definition decides
    have hnone : b.switchedOff.findRev? (·.same (.str name)) = none :=
      Option.not_isSome_iff_eq_none.mp fun hsome => hmem (hoff.mp hsome)
    have hnot : b.isOff (.str name) = false := by
      rw [isOff, Bool.eq_false_iff, Ne, List.any_eq_true]
      exact fun ⟨off, hoff, hsame⟩ => hmem (Json.same_str.mp hsame ▸ hoff)
    rw [hnone]
    cases hlast : b.lastNamed? name with
    | none => simp [hmem]
    | some d =>
      rw [lastNamed?, List.findRev?_eq_find?_reverse] at hlast
      have hname : d.name = .str name := Json.same_str.mp (by simpa using List.find?_some hlast)
      simp [hmem, hname, hnot]

/-- The last definition of a name that a definition has and that is not blocked is enabled. -/
theorem lastNamed?_enabled {b : Toolbox} {d : ToolDefinition} {name : String}
    (hd : d ∈ b.definitions) (hname : d.name = .str name) (hfree : ¬ b.Blocked name) :
    ∃ last, b.lastNamed? name = some last ∧ last.enabled = true := by
  have hsome : (b.lastNamed? name).isSome = true := by
    rw [lastNamed?, List.findRev?_eq_find?_reverse, List.find?_isSome]
    exact ⟨d, List.mem_reverse.mpr hd, Json.same_str.mpr hname⟩
  obtain ⟨last, hlast⟩ := Option.isSome_iff_exists.mp hsome
  exact ⟨last, hlast, Bool.of_not_eq_false fun hdisabled => hfree (Or.inr ⟨last, hlast, hdisabled⟩)⟩

/-! ## What is kept -/

theorem requireKeys_of_isStr {definitions : List ToolDefinition}
    (htext : ∀ d ∈ definitions, d.name.isStr = true) :
    (definitions.forM fun d => requireKey d.name) = .ok () := by
  induction definitions with
  | nil => rfl
  | cons d rest ih =>
    obtain ⟨hd, hrest⟩ := List.forall_mem_cons.mp htext
    obtain ⟨name, hname⟩ := Json.exists_str hd
    refine (List.forM_cons ..).trans ?_
    rw [hname]
    exact ih hrest

/-- Definitions whose names are texts make requirements. -/
theorem result_requirements {b : Toolbox} (htext : ∀ d ∈ b.definitions, d.name.isStr = true) :
    b.requirements = .ok (.table b.entries) := by
  unfold requirements
  rw [requireKeys_of_isStr htext]
  rfl

/-- Where a test has an answer for each definition, those are kept that it accepts. -/
theorem keep_answers {test : ToolDefinition → Report Bool} {p : ToolDefinition → Bool}
    {definitions : List ToolDefinition} (h : ∀ d ∈ definitions, (test d).result = .ok (p d)) :
    (keep test definitions).result = .ok (definitions.filter p) := by
  induction definitions with
  | nil => rfl
  | cons d rest ih =>
    obtain ⟨hd, hrest⟩ := List.forall_mem_cons.mp h
    unfold keep
    rw [Report.result_bind, hd, ok_bind, Report.result_bind, ih hrest, ok_bind, List.filter_cons]
    cases p d <;> rfl

end Toolbox

/-! ## What is offered -/

/-- The definition is that of a tool of an external server: it belongs to their group, under a name
that no group has. -/
def ToolDefinition.IsServerTool (d : ToolDefinition) : Prop :=
  d.group = some .mcp ∧ ∀ name, d.name = .str name → ∀ g : ToolGroup, name ∉ g.tools

namespace Toolbox

/-- The tool of an external server is offered under a name: neither the name nor the use of such
tools is blocked, and the slug names a mode with a grant for them. -/
def OffersServerTool (b : Toolbox) (slug : Json) (custom : List Mode) (name : String) : Prop :=
  ¬ b.Blocked name ∧ ¬ b.Blocked "use_mcp_tool" ∧
    ∃ m, Mode.find? slug custom = some m ∧ ∃ entry ∈ m.groups, entry.group = .mcp

/-- Another tool is offered under a name: it is available in every mode, or the slug names a mode
that lists it, it is not blocked, and if it is an experiment it is switched on. -/
def OffersTool (b : Toolbox) (slug : Json) (custom : List Mode) (experiments : Json)
    (name : String) : Prop :=
  name ∈ alwaysAvailableTools ∨ ∃ m, Mode.find? slug custom = some m ∧ name ∈ m.tools ∧
    ¬ b.Blocked name ∧ (name ∈ experimentIds → ExperimentOn experiments name)

/-- The toolbox offers a definition in the mode that a slug names. -/
def Offers (b : Toolbox) (slug : Json) (custom : List Mode) (experiments : Json)
    (d : ToolDefinition) : Prop :=
  ∃ name, d.name = .str name ∧
    ((d.IsServerTool ∧ b.OffersServerTool slug custom name) ∨
      (¬ d.IsServerTool ∧ b.OffersTool slug custom experiments name))

theorem offers_iff {b : Toolbox} {slug experiments : Json} {custom : List Mode} {d : ToolDefinition}
    {name : String} (hname : d.name = .str name) :
    b.Offers slug custom experiments d ↔
      (d.IsServerTool ∧ b.OffersServerTool slug custom name) ∨
        (¬ d.IsServerTool ∧ b.OffersTool slug custom experiments name) := by
  simp [Offers, hname]

/-- The use of a tool that is asked about for a definition. -/
def askedUse (b : Toolbox) (slug experiments : Json) (name : String) : ToolUse :=
  { tool := .str name, slug, requirements := .table b.entries, experiments }

/-- A tool that is asked about has a decision, which allows it if it is available in every mode, or
not blocked, as an experiment switched on, and granted by the mode. -/
theorem check_askedUse (b : Toolbox) (slug : Json) (custom : List Mode) {experiments : Json}
    (hflags : experiments.IsTable) (name : String) :
    ∃ d, ((b.askedUse slug experiments name).check custom).result = .ok d ∧ (d.isAllowed = true ↔
      name ∈ alwaysAvailableTools ∨
        ((name ∈ experimentIds → ExperimentOn experiments name) ∧ ¬ b.Blocked name ∧
          ∃ m, Mode.find? slug custom = some m ∧
            ∃ entry ∈ m.groups, name ∈ entry.group.tools)) := by
  have hstated : (b.askedUse slug experiments name).WellStated :=
    ⟨⟨name, rfl⟩, hflags, .null, rfl, Or.inl rfl⟩
  obtain ⟨d, hd, hallowed⟩ := ToolUse.check_idle hstated rfl rfl custom
  have hopen : (b.askedUse slug experiments name).GatesOpen ↔
      (name ∈ experimentIds → ExperimentOn experiments name) ∧ ¬ b.Blocked name := by
    rw [← entry?_entries]
    refine and_congr_left fun _ => ⟨fun h hmem => h name hmem rfl, fun h other hmem hother => ?_⟩
    obtain rfl : name = other := Json.str.inj hother
    exact h hmem
  rw [hopen, and_assoc] at hallowed
  exact ⟨d, hd, hallowed⟩

/-- A name that no group has is in none of them. -/
theorem ofTool?_isNone_iff {name : String} :
    (ToolGroup.ofTool? (.str name)).isNone = true ↔ ∀ g : ToolGroup, name ∉ g.tools := by
  have hall : ∀ g : ToolGroup, g ∈ ToolGroup.all := by
    intro g
    cases g <;> decide
  simp [ToolGroup.ofTool?, hall]

/-- The tool that stands for those of external servers is granted by their group only. -/
theorem mem_tools_mcp {g : ToolGroup} : "use_mcp_tool" ∈ g.tools ↔ g = .mcp := by
  cases g <;> decide

/-- What the check says about a tool that is asked about is the answer for the definition. -/
theorem result_asked {b : Toolbox} {slug experiments : Json} {custom : List Mode} {name : String}
    {d : Decision} (h : ((b.askedUse slug experiments name).check custom).result = .ok d) :
    (do return (← (b.askedUse slug experiments name).check custom).isAllowed : Report Bool).result =
      .ok d.isAllowed := by
  rw [Report.result_bind, h]
  rfl

open Classical in
/-- A definition is allowed exactly if it is offered. -/
theorem result_allows {b : Toolbox} {slug experiments : Json} {custom : List Mode}
    {d : ToolDefinition} (htext : d.name.isStr = true) (hflags : experiments.IsTable) :
    (allows b.entries slug custom experiments d).result =
      .ok (decide (b.Offers slug custom experiments d)) := by
  obtain ⟨name, hname⟩ := Json.exists_str htext
  have hserver : (d.group == some .mcp && (ToolGroup.ofTool? d.name).isNone) = true ↔
      d.IsServerTool := by
    simp [ToolDefinition.IsServerTool, hname, ← ofTool?_isNone_iff]
  unfold allows
  by_cases hd : d.IsServerTool
  · have hchecked : checkedName d = .str "use_mcp_tool" := by
      rw [checkedName, if_pos (hserver.mpr hd)]
    rw [hserver.mpr hd, Bool.true_and, hname]
    by_cases hblocked : b.Blocked name
    · -- a blocked name is not asked about
      rw [if_pos (by simpa using entry?_entries.mpr hblocked)]
      simp [offers_iff hname, hd, OffersServerTool, hblocked]
    · rw [if_neg (by simpa using mt entry?_entries.mp hblocked), hchecked]
      obtain ⟨decision, hdecision, hallowed⟩ := check_askedUse b slug custom hflags "use_mcp_tool"
      refine (result_asked hdecision).trans (congrArg Except.ok (Bool.eq_iff_iff.mpr ?_))
      rw [hallowed, decide_eq_true_iff, offers_iff hname]
      simp [hd, OffersServerTool, hblocked, mem_tools_mcp, alwaysAvailableTools, experimentIds]
  · have hchecked : checkedName d = .str name := by
      rw [checkedName, if_neg (mt hserver.mp hd), hname]
    rw [Bool.eq_false_iff.mpr (mt hserver.mp hd), Bool.false_and, if_neg Bool.false_ne_true,
      hchecked]
    obtain ⟨decision, hdecision, hallowed⟩ := check_askedUse b slug custom hflags name
    refine (result_asked hdecision).trans (congrArg Except.ok (Bool.eq_iff_iff.mpr ?_))
    rw [hallowed, decide_eq_true_iff, offers_iff hname]
    simp only [hd, OffersTool, Mode.mem_tools, false_and, not_false_iff, true_and, false_or]
    by_cases halways : name ∈ alwaysAvailableTools
    · simp [halways]
    · simp only [halways, or_false, false_or]
      constructor
      · intro h
        obtain ⟨hexperiment, hblocked, m, hm, hgranted⟩ := h
        exact ⟨m, hm, hgranted, hblocked, hexperiment⟩
      · intro h
        obtain ⟨m, hm, hgranted, hblocked, hexperiment⟩ := h
        exact ⟨hexperiment, hblocked, m, hm, hgranted⟩

/-- Filtering has an answer: the definitions of the box that are offered, and no others. -/
theorem filter_answers {b : Toolbox} {experiments : Json} (slug : Json) (custom : List Mode)
    (htext : ∀ d ∈ b.definitions, d.name.isStr = true) (hflags : experiments.IsTable) :
    ∃ kept, (b.filter slug custom experiments).result = .ok kept ∧
      ∀ d, d ∈ kept ↔ d ∈ b.definitions ∧ b.Offers slug custom experiments d := by
  classical
  refine ⟨b.definitions.filter fun d => b.Offers slug custom experiments d, ?_, fun d => by simp⟩
  unfold filter
  rw [Report.result_bind, Report.result_lift_misuse, result_requirements htext, mapError_ok]
  exact keep_answers fun d hd => result_allows (htext d hd) hflags

/-- What filtering keeps, once it has answered. -/
theorem filter_keeps {b : Toolbox} {slug experiments : Json} {custom : List Mode}
    {kept : List ToolDefinition} (htext : ∀ d ∈ b.definitions, d.name.isStr = true)
    (hflags : experiments.IsTable) (h : (b.filter slug custom experiments).result = .ok kept)
    (d : ToolDefinition) : d ∈ kept ↔ d ∈ b.definitions ∧ b.Offers slug custom experiments d := by
  obtain ⟨others, hothers, hmem⟩ := filter_answers slug custom htext hflags
  obtain rfl : kept = others := Except.ok.inj (h.symm.trans hothers)
  exact hmem d

open Classical in
/-- **The definitions that are kept in a mode are exactly those that the toolbox offers there**, in
order and as often as they occur. -/
theorem filter_offers {b : Toolbox} {experiments : Json} (slug : Json) (custom : List Mode)
    (htext : ∀ d ∈ b.definitions, d.name.isStr = true) (hflags : experiments.IsTable) :
    (b.filter slug custom experiments).result =
      .ok (b.definitions.filter fun d => b.Offers slug custom experiments d) := by
  unfold filter
  rw [Report.result_bind, Report.result_lift_misuse, result_requirements htext, mapError_ok,
    ok_bind]
  exact keep_answers fun d hd => result_allows (htext d hd) hflags

/-- The tool of an external server. -/
def serverTool (name : String) : ToolDefinition := { name := .str name, group := some .mcp }

/-- The tool that reads a file. -/
def readTool (enabled : Bool) : ToolDefinition :=
  { name := .str "read_file", group := some .read, enabled }

/-- Two server tools, one of them switched off; the tool that reads a file, once not enabled and
enabled then; and a tool for reviews. -/
def mixedBox : Toolbox where
  definitions := [serverTool "weather", serverTool "calendar", readTool false, readTool true,
    reviewerTool]
  switchedOff := [.str "weather"]

/-- A mode that may read files and use the tools of servers. -/
def lookupMode : Mode where
  slug := .str "lookup"
  name := .str "Lookup"
  role := .str "You look things up."
  groups := [.simple .read, .simple .mcp]

/-- Both definitions of the tool that reads are kept, since the last one is enabled; the server tool
that is switched off is not, nor is the tool for reviews, which the mode does not grant. -/
theorem mixedBox_filtered :
    (∀ d ∈ mixedBox.definitions, d.name.isStr = true) ∧ Json.IsTable .null ∧
    (mixedBox.filter (.str "lookup") [lookupMode] .null).result =
      .ok [serverTool "calendar", readTool false, readTool true] := by
  have htext : ∀ d ∈ mixedBox.definitions, d.name.isStr = true := by
    simp [mixedBox, serverTool, readTool, reviewerTool, Json.isStr]
  have hflags : Json.IsTable .null := Or.inl rfl
  have hmode : Mode.find? (.str "lookup") [lookupMode] = some lookupMode := by
    simp [Mode.find?, Mode.hasSlug, lookupMode, Json.same]
  have hserver : ∀ name ∈ ["weather", "calendar"], (serverTool name).IsServerTool := by
    have hunknown : ∀ name ∈ ["weather", "calendar"], ∀ g : ToolGroup, name ∉ g.tools := by
      intro name hname g
      cases g <;> revert name <;> decide
    intro name hname
    exact ⟨rfl, fun other hother => Json.str.inj hother ▸ hunknown name hname⟩
  have hfree : ∀ name ∈ ["calendar", "read_file", "use_mcp_tool"], ¬ mixedBox.Blocked name := by
    simp [Blocked, mixedBox, lastNamed?, serverTool, readTool, reviewerTool, Json.same]
  have hweather : ¬ mixedBox.Offers (.str "lookup") [lookupMode] .null (serverTool "weather") := by
    intro h
    rcases (offers_iff rfl).mp h with ⟨-, hfree, -⟩ | ⟨hnot, -⟩
    · exact hfree (Or.inl (by simp [mixedBox]))
    · exact hnot (hserver "weather" (by simp))
  have hcalendar : mixedBox.Offers (.str "lookup") [lookupMode] .null (serverTool "calendar") :=
    (offers_iff rfl).mpr (Or.inl ⟨hserver _ (by simp), hfree _ (by simp), hfree _ (by simp),
      lookupMode, hmode, .simple .mcp, by simp [lookupMode], rfl⟩)
  have hread : ∀ enabled,
      mixedBox.Offers (.str "lookup") [lookupMode] .null (readTool enabled) := by
    intro enabled
    have hnot : ¬ (readTool enabled).IsServerTool := by
      simp [ToolDefinition.IsServerTool, readTool]
    have hlisted : "read_file" ∈ lookupMode.tools ∧ "read_file" ∉ experimentIds := by decide
    exact (offers_iff rfl).mpr (Or.inr ⟨hnot, Or.inr ⟨lookupMode, hmode, hlisted.1,
      hfree _ (by simp), fun h => absurd h hlisted.2⟩⟩)
  have hreviewer : ¬ mixedBox.Offers (.str "lookup") [lookupMode] .null reviewerTool := by
    intro h
    have hunlisted : "reviewer" ∉ lookupMode.tools ∧ "reviewer" ∉ alwaysAvailableTools := by decide
    rcases (offers_iff rfl).mp h with ⟨hserver, -⟩ | ⟨-, halways | ⟨m, hm, hlisted, -⟩⟩
    · exact absurd hserver.1 (by simp [reviewerTool])
    · exact hunlisted.2 halways
    · obtain rfl : lookupMode = m := Option.some.inj (hmode.symm.trans hm)
      exact hunlisted.1 hlisted
  refine ⟨htext, hflags, ?_⟩
  have hdefinitions : mixedBox.definitions = [serverTool "weather", serverTool "calendar",
    readTool false, readTool true, reviewerTool] := rfl
  rw [filter_offers (.str "lookup") [lookupMode] htext hflags, hdefinitions]
  simp [hweather, hcalendar, hread, hreviewer]

end Toolbox

end ModePolicy
