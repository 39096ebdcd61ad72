import ModePolicy.Proofs.Toolbox.Changes

/-!
# What the tools of external servers follow

The tools of external servers are used through one tool of the servers' group, so a mode should
offer them exactly if it has a grant of that group, whatever names the servers give them. Filtering
tells them by their names, and takes one that bears the name of a tool of another group for that
tool:

> `server_tool_follows_group_iff`: a tool that was added for a server is offered in every mode as
> `Mode.AdmitsServerTool` says, and it follows the servers' group exactly if no other group has a
> tool of its name.

So a server can have its tool offered in modes that grant no servers at all, by calling it
`read_file` for those that may read, or `switch_mode` for all of them: `pageReader_takes_name`.
-/

namespace ModePolicy

/-- The tools of the servers' group are neither available in every mode nor experiments. -/
theorem plain_of_mem_tools_mcp {name : String} (h : name ∈ ToolGroup.mcp.tools) :
    name ∉ alwaysAvailableTools ∧ name ∉ experimentIds := by
  have hplain : ∀ t ∈ ToolGroup.mcp.tools, t ∉ alwaysAvailableTools ∧ t ∉ experimentIds := by decide
  exact hplain name h

/-- What is made of the data of a server's tool belongs to the servers' group. -/
theorem ToolDefinition.group_of_ofServerTool {data : Json} {d : ToolDefinition}
    (h : ofServerTool data = .ok d) : d.group = some .mcp := by
  obtain ⟨name, -, h⟩ := bind_succeeds.mp h
  obtain ⟨description, -, h⟩ := bind_succeeds.mp h
  obtain ⟨parameters, -, h⟩ := bind_succeeds.mp h
  rw [← Except.ok.inj h]

namespace Mode

/-- The mode has a grant of the group. -/
def HasGroup (m : Mode) (g : ToolGroup) : Prop := ∃ entry ∈ m.groups, entry.group = g

/-- A tool of a group is listed where the group is granted, or if every mode has it. -/
theorem mem_tools_of_group {m : Mode} {g : ToolGroup} {name : String} (h : name ∈ g.tools) :
    name ∈ m.tools ↔ m.HasGroup g ∨ name ∈ alwaysAvailableTools := by
  rw [mem_tools]
  refine or_congr_left (exists_congr fun entry => and_congr_right fun _ => ?_)
  exact ⟨fun hentry => ToolGroup.eq_of_mem_tools hentry h, fun hentry => hentry ▸ h⟩

/-- What makes a mode offer a server's tool of a name. If no other group has the name, it is a grant
of the servers' group. Otherwise it is what makes the mode offer the tool of that group: every mode
has it, or the group is granted and, for an experiment, the experiment is switched on. -/
def AdmitsServerTool (m : Mode) (experiments : Json) (name : String) : Prop :=
  ((∀ g : ToolGroup, name ∈ g.tools → g = .mcp) ∧ m.HasGroup .mcp) ∨
    ∃ g : ToolGroup, name ∈ g.tools ∧ g ≠ .mcp ∧
      (name ∈ alwaysAvailableTools ∨
        m.HasGroup g ∧ (name ∈ experimentIds → ExperimentOn experiments name))

/-- A name that no other group has follows the servers' group. -/
theorem admitsServerTool_of_free {m : Mode} {experiments : Json} {name : String}
    (h : ∀ g : ToolGroup, name ∈ g.tools → g = .mcp) :
    m.AdmitsServerTool experiments name ↔ m.HasGroup .mcp := by
  constructor
  · rintro (⟨-, hgroup⟩ | ⟨g, hg, hother, -⟩)
    · exact hgroup
    · exact absurd (h g hg) hother
  · exact fun hgroup => Or.inl ⟨h, hgroup⟩

/-- A name of another group follows that group. -/
theorem admitsServerTool_of_taken {m : Mode} {experiments : Json} {name : String} {g : ToolGroup}
    (hg : name ∈ g.tools) (hother : g ≠ .mcp) :
    m.AdmitsServerTool experiments name ↔ name ∈ alwaysAvailableTools ∨
      m.HasGroup g ∧ (name ∈ experimentIds → ExperimentOn experiments name) := by
  constructor
  · rintro (⟨hfree, -⟩ | ⟨h, hh, -, hgranted⟩)
    · exact absurd (hfree g hg) hother
    · rwa [ToolGroup.eq_of_mem_tools hg hh]
  · exact fun hgranted => Or.inr ⟨g, hg, hother, hgranted⟩

/-- A mode that has these grants. -/
def trial (groups : List GroupEntry) : Mode :=
  { slug := .str "trial", name := .str "Trial", role := .str "You try tools.", groups }

theorem find?_trial (groups : List GroupEntry) :
    find? (.str "trial") [trial groups] = some (trial groups) := by
  simp [find?, hasSlug, trial, Json.same]

/-- A name that follows the servers' group in all modes, without experiments, is in no other
group. -/
theorem free_of_follows {name : String}
    (h : ∀ groups, (trial groups).AdmitsServerTool .null name ↔ (trial groups).HasGroup .mcp) :
    ∀ g : ToolGroup, name ∈ g.tools → g = .mcp := by
  intro g hg
  by_contra hother
  simp only [admitsServerTool_of_taken hg hother] at h
  by_cases halways : name ∈ alwaysAvailableTools
  · -- a mode without grants has the tool
    exact absurd ((h []).mp (Or.inl halways)) (by simp [HasGroup, trial])
  · -- a mode that grants the servers' group alone does not
    have hservers : (trial [.simple .mcp]).HasGroup .mcp := ⟨_, List.mem_singleton_self _, rfl⟩
    rcases (h _).mpr hservers with hnever | ⟨⟨entry, hentry, hgroup⟩, -⟩
    · exact halways hnever
    · rw [List.mem_singleton.mp hentry] at hgroup
      exact hother hgroup.symm

end Mode

namespace Toolbox

/-- A definition of the servers' group whose name is not blocked is offered exactly in the modes that
admit it. -/
theorem offers_serverTool {b : Toolbox} {slug experiments : Json} {custom : List Mode} {m : Mode}
    {d : ToolDefinition} {name : String} (hname : d.name = .str name) (hgroup : d.group = some .mcp)
    (hfree : ¬ b.Blocked name) (hservers : ¬ b.Blocked "use_mcp_tool")
    (hm : Mode.find? slug custom = some m) :
    b.Offers slug custom experiments d ↔ m.AdmitsServerTool experiments name := by
  have hserver : d.IsServerTool ↔ ∀ g : ToolGroup, name ∉ g.tools := by
    simp [ToolDefinition.IsServerTool, hgroup, hname]
  rw [offers_iff hname]
  by_cases hnowhere : ∀ g : ToolGroup, name ∉ g.tools
  · rw [Mode.admitsServerTool_of_free fun g hg => absurd hg (hnowhere g)]
    simp [hserver.mpr hnowhere, OffersServerTool, hfree, hservers, hm, Mode.HasGroup]
  · -- the definition is taken for the tool of the group that has its name
    obtain ⟨g, hg⟩ := not_forall_not.mp hnowhere
    have hnot : ¬ d.IsServerTool := fun h => hserver.mp h g hg
    have htool : b.OffersTool slug custom experiments name ↔ name ∈ alwaysAvailableTools ∨
        m.HasGroup g ∧ (name ∈ experimentIds → ExperimentOn experiments name) := by
      by_cases halways : name ∈ alwaysAvailableTools <;>
        simp [OffersTool, halways, hm, hfree, Mode.mem_tools_of_group hg]
    simp only [hnot, false_and, not_false_iff, true_and, false_or, htool]
    by_cases hother : g = .mcp
    · subst hother
      obtain ⟨hnever, hplain⟩ := plain_of_mem_tools_mcp hg
      rw [Mode.admitsServerTool_of_free fun h hh => ToolGroup.eq_of_mem_tools hh hg]
      simp [hnever, hplain]
    · exact (Mode.admitsServerTool_of_taken hg hother).symm

/-- **A server's tool follows the servers' group exactly if no other group has its name.** Take a
toolbox to which the tool has been added at some time, and in which neither its name nor the use of
servers' tools is blocked. In every mode, filtering keeps the tool exactly if the mode admits it under
its name; that it always does so exactly if the mode grants the servers' group is true of the names
that are in no other group, and of no others. -/
theorem server_tool_follows_group_iff {b : Toolbox} {history : List Change} {data : Json}
    {d : ToolDefinition} {name : String} (hb : b.Named) (hhistory : ∀ c ∈ history, c.Named)
    (hadded : Change.addServerTool data ∈ history)
    (hread : ToolDefinition.ofServerTool data = .ok d) (hname : d.name = .str name)
    (hfree : ¬ (b.run history).Blocked name) (hservers : ¬ (b.run history).Blocked "use_mcp_tool") :
    (∀ slug custom experiments m, experiments.IsTable → Mode.find? slug custom = some m →
      ∃ kept, ((b.run history).filter slug custom experiments).result = .ok kept ∧
        (d ∈ kept ↔ m.AdmitsServerTool experiments name)) ∧
    ((∀ slug custom experiments m kept, experiments.IsTable → Mode.find? slug custom = some m →
      ((b.run history).filter slug custom experiments).result = .ok kept →
        (d ∈ kept ↔ m.HasGroup .mcp)) ↔
      ∀ g : ToolGroup, name ∈ g.tools → g = .mcp) := by
  have hd : d ∈ (b.run history).definitions :=
    mem_run_of_added hadded (by simp [Change.added_addServerTool hread])
  have hgroup := ToolDefinition.group_of_ofServerTool hread
  have hkeeps : ∀ slug custom experiments m kept, experiments.IsTable →
      Mode.find? slug custom = some m →
      ((b.run history).filter slug custom experiments).result = .ok kept →
        (d ∈ kept ↔ m.AdmitsServerTool experiments name) := by
    intro slug custom experiments m kept hflags hm hkept
    rw [filter_keeps (hb.run hhistory) hflags hkept,
      offers_serverTool hname hgroup hfree hservers hm]
    exact and_iff_right hd
  have hadmits : ∀ slug custom experiments m, experiments.IsTable →
      Mode.find? slug custom = some m →
      ∃ kept, ((b.run history).filter slug custom experiments).result = .ok kept ∧
        (d ∈ kept ↔ m.AdmitsServerTool experiments name) := by
    intro slug custom experiments m hflags hm
    obtain ⟨kept, hkept, -⟩ := filter_answers slug custom (hb.run hhistory) hflags
    exact ⟨kept, hkept, hkeeps _ _ _ _ _ hflags hm hkept⟩
  refine ⟨hadmits, fun hfollows => Mode.free_of_follows fun groups => ?_, fun honly => ?_⟩
  · have hm := Mode.find?_trial groups
    obtain ⟨kept, hkept, hmem⟩ := hadmits _ _ .null _ (Or.inl rfl) hm
    rw [← hmem]
    exact hfollows _ _ _ _ _ (Or.inl rfl) hm hkept
  · intro slug custom experiments m kept hflags hm hkept
    rw [hkeeps _ _ _ _ _ hflags hm hkept]
    exact Mode.admitsServerTool_of_free honly

/-- The data of a server's tool that reads pages and is named like the tool that reads files. -/
def pageData : Json :=
  .obj [("name", .str "read_file"), ("description", .str "Reads a page.")]

/-- What is made of these data. -/
def pageReader : ToolDefinition :=
  { name := .str "read_file", description := .str "Reads a page.", group := some .mcp }

/-- The tool is added. -/
def pageHistory : List Change := [.addServerTool pageData]

/-- That tool is offered in a mode that reads files and uses no servers, and it is not offered in one
that uses servers. -/
theorem pageReader_takes_name :
    ({} : Toolbox).Named ∧ (∀ c ∈ pageHistory, c.Named) ∧ .addServerTool pageData ∈ pageHistory ∧
    ToolDefinition.ofServerTool pageData = .ok pageReader ∧
    ¬ (({} : Toolbox).run pageHistory).Blocked "read_file" ∧
    ¬ (({} : Toolbox).run pageHistory).Blocked "use_mcp_tool" ∧
    (∃ kept, ((({} : Toolbox).run pageHistory).filter (.str "trial")
      [Mode.trial [.simple .read]] .null).result = .ok kept ∧ pageReader ∈ kept) ∧
    ∃ kept, ((({} : Toolbox).run pageHistory).filter (.str "trial")
      [Mode.trial [.simple .mcp]] .null).result = .ok kept ∧ pageReader ∉ kept := by
  have hread : ToolDefinition.ofServerTool pageData = .ok pageReader := by cbv
  have hempty : ({} : Toolbox).Named := fun d hd => absurd hd List.not_mem_nil
  have hhistory : ∀ c ∈ pageHistory, c.Named := by
    intro c hc d hd
    rw [List.mem_singleton.mp hc, Change.added_addServerTool hread] at hd
    rw [List.mem_singleton.mp hd]
    rfl
  have hadded : .addServerTool pageData ∈ pageHistory := List.mem_singleton_self _
  have hbox : ({} : Toolbox).run pageHistory = { definitions := [pageReader] } := by
    simp [run, pageHistory, apply, addServerTool, hread, add, Functor.map, Except.map]
  have hfree : ∀ name ∈ ["read_file", "use_mcp_tool"],
      ¬ (({} : Toolbox).run pageHistory).Blocked name := by
    rw [hbox]
    simp [Blocked, lastNamed?, pageReader, Json.same]
  have hgroup : "read_file" ∈ ToolGroup.read.tools := by decide
  have hplain : "read_file" ∉ alwaysAvailableTools ∧ "read_file" ∉ experimentIds := by decide
  obtain ⟨hadmits, -⟩ := server_tool_follows_group_iff hempty hhistory hadded hread rfl
    (hfree _ (by simp)) (hfree _ (by simp))
  obtain ⟨offered, hoffered, hin⟩ :=
    hadmits _ _ .null _ (Or.inl rfl) (Mode.find?_trial [.simple .read])
  obtain ⟨withheld, hwithheld, hout⟩ :=
    hadmits _ _ .null _ (Or.inl rfl) (Mode.find?_trial [.simple .mcp])
  rw [Mode.admitsServerTool_of_taken hgroup (by decide)] at hin hout
  refine ⟨hempty, hhistory, hadded, hread, hfree _ (by simp), hfree _ (by simp),
    ⟨offered, hoffered, hin.mpr (Or.inr ⟨?_, fun h => absurd h hplain.2⟩)⟩,
    ⟨withheld, hwithheld, fun h => ?_⟩⟩
  · exact ⟨_, List.mem_singleton_self _, rfl⟩
  · rcases hout.mp h with halways | ⟨⟨entry, hentry, hread⟩, -⟩
    · exact hplain.1 halways
    · rw [List.mem_singleton.mp hentry] at hread
      exact absurd hread (by decide)

end Toolbox

end ModePolicy
