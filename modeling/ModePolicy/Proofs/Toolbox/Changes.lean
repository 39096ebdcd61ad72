import ModePolicy.Proofs.Toolbox.Filter

/-!
# Toolboxes over their history

A toolbox is changed by adding definitions, among them those of tools of external servers, and by
switching names off and on. What one change does to the definitions is said once (`Change.added`);
the rest is induction over the history:

> `definitions_run`: the definitions are those there were, followed by those added, in order.
> `Named.run`: if all names that come in are texts, so are all names in the box.
-/

namespace ModePolicy.Toolbox

/-- A change of a toolbox. -/
inductive Change where
  | add (d : ToolDefinition)
  | addServerTool (data : Json)
  | switchOff (name : Json)
  | switchOn (name : Json)

/-- The toolbox after a change. A change that fails leaves the toolbox as it is. -/
def apply (b : Toolbox) : Change → Toolbox
  | .add d => b.add d
  | .addServerTool data =>
    match b.addServerTool data with
    | .ok box => box
    | .error _ => b
  | .switchOff name => b.switchOff name
  | .switchOn name => b.switchOn name

/-- The toolbox after a history of changes. -/
def run (b : Toolbox) (history : List Change) : Toolbox := history.foldl apply b

/-- The definition that a change adds, if it adds one. -/
def Change.added : Change → List ToolDefinition
  | .add d => [d]
  | .addServerTool data =>
    match ToolDefinition.ofServerTool data with
    | .ok d => [d]
    | .error _ => []
  | _ => []

variable {b : Toolbox}

theorem Change.added_addServerTool {data : Json} {d : ToolDefinition}
    (h : ToolDefinition.ofServerTool data = .ok d) : (Change.addServerTool data).added = [d] := by
  simp [Change.added, h]

/-- A change puts what it adds at the end of the definitions and leaves the others alone. -/
theorem definitions_apply (b : Toolbox) (c : Change) :
    (b.apply c).definitions = b.definitions ++ c.added := by
  cases c with
  | add d => rfl
  | addServerTool data =>
    cases hread : ToolDefinition.ofServerTool data <;>
      simp [apply, addServerTool, Change.added, hread, add, Functor.map, Except.map]
  | switchOff name => cases hoff : b.isOff name <;> simp [apply, switchOff, Change.added, hoff]
  | switchOn name => simp [apply, switchOn, Change.added]

/-- **The definitions are those there were, followed by those added.** -/
theorem definitions_run (history : List Change) : ∀ (b : Toolbox),
    (b.run history).definitions = b.definitions ++ history.flatMap (·.added) := by
  induction history with
  | nil => intro b; simp [run]
  | cons c rest ih =>
    intro b
    have hrun : b.run (c :: rest) = (b.apply c).run rest := rfl
    rw [hrun, ih, definitions_apply, List.flatMap_cons, List.append_assoc]

/-- The names of all definitions are texts. -/
def Named (b : Toolbox) : Prop := ∀ d ∈ b.definitions, d.name.isStr = true

/-- The name that a change brings in is a text. -/
def Change.Named (c : Change) : Prop := ∀ d ∈ c.added, d.name.isStr = true

theorem Named.run (hb : b.Named) {history : List Change} (h : ∀ c ∈ history, c.Named) :
    (b.run history).Named := by
  intro d hd
  rw [definitions_run, List.mem_append, List.mem_flatMap] at hd
  rcases hd with hold | ⟨c, hc, hadded⟩
  · exact hb d hold
  · exact h c hc d hadded

/-- What was added at some time is in the box. -/
theorem mem_run_of_added {history : List Change} {c : Change} {d : ToolDefinition}
    (hc : c ∈ history) (hd : d ∈ c.added) : d ∈ (b.run history).definitions := by
  rw [definitions_run]
  exact List.mem_append_right _ (List.mem_flatMap.mpr ⟨c, hc, hd⟩)

end ModePolicy.Toolbox
