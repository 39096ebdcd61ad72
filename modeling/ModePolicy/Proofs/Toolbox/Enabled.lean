import ModePolicy.Proofs.Toolbox.Servers

/-!
# Whether what is offered is enabled

A definition says whether it is enabled, and a name can be switched off. Filtering asks about names:
the definitions of a name share one entry in the requirements, which the last of them decides, so a
definition that is not enabled comes back with a later one of its name that is.

> `offered_enabled_iff`: whatever the history of a toolbox, no name that is switched off is offered,
> and the last definition of every name offered is enabled. The definitions offered are themselves
> enabled, in every mode, exactly if no definition of the box is revived in that way
> (`Toolbox.Revived`).

Tools that every mode has are offered in any case.
-/

namespace ModePolicy.Toolbox

/-- Some mode can offer the definition under the name, if the name is not blocked: a group has a tool
of the name, or the definition belongs to the servers' group and the use of servers' tools is not
blocked. -/
def Reachable (b : Toolbox) (d : ToolDefinition) (name : String) : Prop :=
  (∃ g : ToolGroup, name ∈ g.tools) ∨ d.group = some .mcp ∧ ¬ b.Blocked "use_mcp_tool"

/-- A definition that is not enabled comes back: its name, which not every mode has anyway, is not
blocked, since a later definition of the name is enabled, and some mode can offer it. -/
def Revived (b : Toolbox) (d : ToolDefinition) : Prop :=
  d.enabled = false ∧ ∃ name, d.name = .str name ∧ name ∉ alwaysAvailableTools ∧
    ¬ b.Blocked name ∧ b.Reachable d name

variable {b : Toolbox} {d : ToolDefinition} {name : String}

/-- What is offered under a name that not every mode has is not blocked, and reachable. -/
theorem free_of_offered {slug experiments : Json} {custom : List Mode}
    (h : b.Offers slug custom experiments d) (hname : d.name = .str name)
    (hnever : name ∉ alwaysAvailableTools) : ¬ b.Blocked name ∧ b.Reachable d name := by
  rcases (offers_iff hname).mp h with ⟨hserver, hfree, hservers, -⟩ | ⟨-, htool⟩
  · exact ⟨hfree, Or.inr ⟨hserver.1, hservers⟩⟩
  · obtain ⟨m, -, hlisted, hfree, -⟩ := htool.resolve_left hnever
    obtain ⟨entry, -, hgroup⟩ := (Mode.mem_tools.mp hlisted).resolve_right hnever
    exact ⟨hfree, Or.inl ⟨entry.group, hgroup⟩⟩

/-- A mode that grants every group. -/
def openMode : Mode := Mode.trial (ToolGroup.all.map .simple)

theorem openMode_hasGroup (g : ToolGroup) : openMode.HasGroup g :=
  ⟨.simple g, List.mem_map_of_mem (by cases g <;> decide), rfl⟩

/-- Flags that switch every experiment on. -/
def allOn : Json := .obj (experimentIds.map fun name => (name, .bool true))

theorem experimentOn_allOn (h : name ∈ experimentIds) : ExperimentOn allOn name := by
  refine ⟨_, .bool true, rfl, ?_, rfl⟩
  simp only [experimentIds, List.mem_cons, List.not_mem_nil, or_false] at h
  rcases h with rfl | rfl | rfl | rfl <;> simp [experimentIds, List.lookup]

/-- What is reachable and not blocked is offered in a mode that grants every group. -/
theorem offers_of_reachable (hname : d.name = .str name) (hfree : ¬ b.Blocked name)
    (hreach : b.Reachable d name) : b.Offers (.str "trial") [openMode] allOn d := by
  have hm : Mode.find? (.str "trial") [openMode] = some openMode := Mode.find?_trial _
  rw [offers_iff hname]
  by_cases hserver : d.IsServerTool
  · rcases hreach with ⟨g, hg⟩ | ⟨-, hservers⟩
    · exact absurd hg (hserver.2 name hname g)
    · exact Or.inl ⟨hserver, hfree, hservers, openMode, hm, openMode_hasGroup .mcp⟩
  · -- a definition of the servers' group is no server's tool only if some group has its name
    obtain ⟨g, hg⟩ : ∃ g : ToolGroup, name ∈ g.tools := by
      rcases hreach with hgroup | ⟨hmcp, -⟩
      · exact hgroup
      · by_contra hnowhere
        refine hserver ⟨hmcp, fun other hother g hg => hnowhere ⟨g, ?_⟩⟩
        rwa [Json.str.inj (hname.symm.trans hother)]
    exact Or.inr ⟨hserver, Or.inr ⟨openMode, hm,
      (Mode.mem_tools_of_group hg).mpr (Or.inl (openMode_hasGroup g)), hfree, experimentOn_allOn⟩⟩

/-- **What is offered is enabled exactly if no definition is revived.** Take a toolbox after any
history. In every mode, filtering has an answer; of the definitions kept under a name that not every
mode has, the name is not switched off and its last definition is enabled. That the definitions kept
are enabled themselves, in all modes, is true exactly if no definition of the box is revived. -/
theorem offered_enabled_iff {history : List Change} (hb : b.Named)
    (hhistory : ∀ c ∈ history, c.Named) :
    (∀ slug custom experiments, experiments.IsTable →
      ∃ kept, ((b.run history).filter slug custom experiments).result = .ok kept ∧
        ∀ d ∈ kept, ∀ name, d.name = .str name → name ∉ alwaysAvailableTools →
          .str name ∉ (b.run history).switchedOff ∧
            ∃ last, (b.run history).lastNamed? name = some last ∧ last.enabled = true) ∧
    ((∀ slug custom experiments kept, experiments.IsTable →
      ((b.run history).filter slug custom experiments).result = .ok kept →
        ∀ d ∈ kept, ∀ name, d.name = .str name → name ∉ alwaysAvailableTools → d.enabled = true) ↔
      ∀ d ∈ (b.run history).definitions, ¬ (b.run history).Revived d) := by
  have hnamed : (b.run history).Named := hb.run hhistory
  refine ⟨fun slug custom experiments hflags => ?_, fun henabled d hd hrevived => ?_,
    fun hnone slug custom experiments kept hflags hkept d hd name hname hnever => ?_⟩
  · obtain ⟨kept, hkept, hmem⟩ := filter_answers slug custom hnamed hflags
    refine ⟨kept, hkept, fun d hd name hname hnever => ?_⟩
    obtain ⟨hin, hoffered⟩ := (hmem d).mp hd
    obtain ⟨hfree, -⟩ := free_of_offered hoffered hname hnever
    exact ⟨fun hoff => hfree (Or.inl hoff), lastNamed?_enabled hin hname hfree⟩
  · -- a revived definition is offered in a mode that grants everything
    obtain ⟨hdisabled, name, hname, hnever, hfree, hreach⟩ := hrevived
    have hflags : allOn.IsTable := Or.inr ⟨_, rfl⟩
    obtain ⟨kept, hkept, hmem⟩ := filter_answers (.str "trial") [openMode] hnamed hflags
    have hin : d ∈ kept := (hmem d).mpr ⟨hd, offers_of_reachable hname hfree hreach⟩
    have htrue := henabled _ _ _ kept hflags hkept d hin name hname hnever
    exact absurd (htrue.symm.trans hdisabled) (by decide)
  · obtain ⟨hin, hoffered⟩ := (filter_keeps hnamed hflags hkept d).mp hd
    obtain ⟨hfree, hreach⟩ := free_of_offered hoffered hname hnever
    exact Bool.of_not_eq_false fun hdisabled =>
      hnone d hin ⟨hdisabled, name, hname, hnever, hfree, hreach⟩

/-- The tool that reads is added twice, not enabled at first and enabled then. -/
def readingHistory : List Change := [.add (readTool false), .add (readTool true)]

/-- The definition that is not enabled is revived: filtering for a mode that grants everything keeps
it, although only the last definition of its name is enabled. So not everything that is offered is
enabled. -/
theorem readingHistory_revives :
    ({} : Toolbox).Named ∧ (∀ c ∈ readingHistory, c.Named) ∧
    (∃ kept, ((({} : Toolbox).run readingHistory).filter (.str "trial") [openMode] allOn).result =
      .ok kept ∧ readTool false ∈ kept ∧ (readTool false).enabled = false ∧
      ∃ last, (({} : Toolbox).run readingHistory).lastNamed? "read_file" = some last ∧
        last.enabled = true) ∧
    ¬ ∀ slug custom experiments kept, experiments.IsTable →
      ((({} : Toolbox).run readingHistory).filter slug custom experiments).result = .ok kept →
        ∀ d ∈ kept, ∀ name, d.name = .str name → name ∉ alwaysAvailableTools →
          d.enabled = true := by
  have hempty : ({} : Toolbox).Named := fun d hd => absurd hd List.not_mem_nil
  have hhistory : ∀ c ∈ readingHistory, c.Named := by
    simp [readingHistory, Change.Named, Change.added, readTool, Json.isStr]
  have hnever : "read_file" ∉ alwaysAvailableTools := by decide
  have hfree : ¬ (({} : Toolbox).run readingHistory).Blocked "read_file" := by
    simp [Blocked, lastNamed?, run, readingHistory, apply, add, readTool, Json.same]
  have hreach : (({} : Toolbox).run readingHistory).Reachable (readTool false) "read_file" :=
    Or.inl ⟨.read, by decide⟩
  have hin : readTool false ∈ (({} : Toolbox).run readingHistory).definitions :=
    mem_run_of_added (c := .add (readTool false)) (by simp [readingHistory]) (by simp [Change.added])
  obtain ⟨hkept, hiff⟩ := offered_enabled_iff hempty hhistory
  refine ⟨hempty, hhistory, ?_, fun henabled => ?_⟩
  · have hflags : allOn.IsTable := Or.inr ⟨_, rfl⟩
    obtain ⟨kept, hresult, hlast⟩ := hkept (.str "trial") [openMode] allOn hflags
    have hoffered := (filter_keeps (hempty.run hhistory) hflags hresult _).mpr
      ⟨hin, offers_of_reachable rfl hfree hreach⟩
    exact ⟨kept, hresult, hoffered, rfl, (hlast _ hoffered _ rfl hnever).2⟩
  · exact hiff.mp henabled _ hin ⟨rfl, "read_file", rfl, hnever, hfree, hreach⟩

end ModePolicy.Toolbox
