import ModePolicy.Proofs.Mode.Validity
import ModePolicy.Proofs.Permission.Listed

/-!
# The order of grants

The entries of a mode are gone through in order, and the first one whose group has the tool decides.
So the order of entries matters in general: `docsMode` would allow more if its two grants of editing
were swapped. In a valid mode it does not matter, for two reasons that have to come together: no tool
is in two groups (`ToolGroup.eq_of_mem_tools`), and a valid mode grants no group twice
(`Mode.Valid.distinct`). Hence at most one entry is about the tool:

> `group_order_irrelevant`: a valid mode whose entries are put into another order decides as before,
> among whatever other modes it stands, and lists the same tools.
-/

namespace ModePolicy

/-- Where at most one member passes a test, the search for it does not depend on the order. -/
theorem find?_eq_of_perm {α : Type} {p : α → Bool} {xs ys : List α} (h : xs.Perm ys)
    (hone : ∀ x ∈ xs, ∀ y ∈ xs, p x = true → p y = true → x = y) : xs.find? p = ys.find? p := by
  cases hx : xs.find? p with
  | none =>
    have hnone : ∀ y ∈ ys, ¬ p y = true := fun y hy =>
      List.find?_eq_none.mp hx y (h.mem_iff.mpr hy)
    exact (List.find?_eq_none.mpr hnone).symm
  | some x =>
    have hmem := List.mem_of_find?_eq_some hx
    have hpass := List.find?_some hx
    cases hy : ys.find? p with
    | none => exact absurd hpass (List.find?_eq_none.mp hy x (h.mem_iff.mp hmem))
    | some y =>
      have hother := h.mem_iff.mpr (List.mem_of_find?_eq_some hy)
      rw [hone x hmem y hother hpass (List.find?_some hy)]

namespace Mode

variable {m : Mode} {groups : List GroupEntry}

/-- Of the entries that grant distinct groups, at most one is about a tool. -/
theorem entry_unique (hdistinct : (m.groups.map (·.group)).Nodup) {tool : Json} {e e' : GroupEntry}
    (he : e ∈ m.groups) (he' : e' ∈ m.groups) (hhas : e.group.authorises tool = true)
    (hhas' : e'.group.authorises tool = true) : e = e' := by
  obtain ⟨name, rfl⟩ := ToolGroup.text_of_authorises hhas
  have hgroup : e.group = e'.group :=
    ToolGroup.eq_of_mem_tools (ToolGroup.authorises_str.mp hhas) (ToolGroup.authorises_str.mp hhas')
  exact List.inj_on_of_nodup_map hdistinct he he' hgroup

/-- A mode of distinct groups decides as before when its entries are put into another order. -/
theorem decidesAs_of_perm (hdistinct : (m.groups.map (·.group)).Nodup)
    (hperm : groups.Perm m.groups) : ({ m with groups } : Mode).DecidesAs m := by
  intro tool params
  have hfind : m.groups.find? (·.group.authorises tool) = groups.find? (·.group.authorises tool) :=
    find?_eq_of_perm hperm.symm fun e he e' he' => entry_unique hdistinct he he'
  unfold decide
  rw [hfind]
  rfl

/-- A mode that takes the place of one with its slug is found where that one was. -/
theorem find?_replaced {n : Mode} (halike : n.DecidesAs m) (hslug : n.slug = m.slug) (slug : Json)
    (before after : List Mode) :
    Option.Rel DecidesAs (find? slug (before ++ n :: after)) (find? slug (before ++ m :: after)) := by
  have hself : ∀ found : Option Mode, Option.Rel DecidesAs found found := by
    intro found
    cases found with
    | none => exact .none
    | some k => exact .some fun _ _ => rfl
  have hhas : n.hasSlug slug = m.hasSlug slug := by
    unfold hasSlug
    rw [hslug]
  unfold find?
  rw [List.find?_append, List.find?_append, List.find?_cons, List.find?_cons, hhas]
  cases before.find? (·.hasSlug slug) with
  | some k => exact hself _
  | none =>
    -- the two lists differ only if this is the place that the slug leads to
    cases m.hasSlug slug with
    | true => exact .some halike
    | false => exact hself _

/-- The tools listed are the same, be it in another order. -/
theorem tools_perm (hperm : groups.Perm m.groups) :
    ({ m with groups } : Mode).tools.Perm m.tools := by
  refine (List.perm_ext_iff_of_nodup (firstSeen_nodup _) (firstSeen_nodup _)).mpr fun name => ?_
  change name ∈ ({ m with groups } : Mode).tools ↔ name ∈ m.tools
  rw [mem_tools, mem_tools]
  refine or_congr_left (exists_congr fun entry => and_congr_left fun _ => ?_)
  exact hperm.mem_iff

/-- **The order of grants is irrelevant in a valid mode.** With its entries in another order, and
whatever custom modes stand around it, every use is decided as before, for every slug, and reports
the same on the way; and the mode lists the same tools. -/
theorem group_order_irrelevant (hvalid : Mode.flaws m.toJson = .ok [])
    (hperm : groups.Perm m.groups) :
    (∀ (use : ToolUse) (before after : List Mode),
      use.check (before ++ { m with groups } :: after) = use.check (before ++ m :: after)) ∧
    ({ m with groups } : Mode).tools.Perm m.tools := by
  have halike : ({ m with groups } : Mode).DecidesAs m :=
    decidesAs_of_perm (Mode.flaws_toJson.mp hvalid).distinct hperm
  refine ⟨fun use before after => ToolUse.check_of_decidesAs ?_, tools_perm hperm⟩
  exact find?_replaced halike rfl use.slug before after

/-- A mode that grants editing of Markdown files among other groups. -/
def proseMode : Mode where
  slug := .str "docs"
  name := .str "Prose"
  role := .str "You write prose."
  groups := [.simple .read, .restricted .edit markdownOnly, .simple .command]

/-- The entries of that mode, the last one first. -/
def proseGroups : List GroupEntry := proseMode.groups.reverse

/-- That mode is valid. So with its entries the other way round it decides alike, also where a mode
stands before it that has its slug. -/
theorem proseMode_reversed :
    Mode.flaws proseMode.toJson = .ok [] ∧ proseGroups.Perm proseMode.groups ∧
    (∀ use : ToolUse, use.check [docsMode, { proseMode with groups := proseGroups }] =
      use.check [docsMode, proseMode]) ∧
    scriptWrite.check [{ proseMode with groups := proseGroups }] = scriptWrite.check [proseMode] ∧
    ({ proseMode with groups := proseGroups } : Mode).tools.Perm proseMode.tools := by
  have hoptions : markdownOnly.Valid := ⟨Or.inr ⟨_, _, rfl, rfl⟩, rfl⟩
  have hentries : ∀ e ∈ proseMode.groups, e.Valid := by
    intro e he options hsome
    obtain rfl : options = markdownOnly := by
      simp only [proseMode, List.mem_cons, List.not_mem_nil, or_false] at he
      rcases he with rfl | rfl | rfl <;> simp_all [GroupEntry.options?]
    exact hoptions
  have hvalid : Mode.flaws proseMode.toJson = .ok [] :=
    Mode.flaws_toJson.mpr ⟨rfl, rfl, rfl, rfl, hentries, by decide⟩
  have hperm : proseGroups.Perm proseMode.groups := List.reverse_perm _
  obtain ⟨hcheck, htools⟩ := group_order_irrelevant hvalid hperm
  exact ⟨hvalid, hperm, fun use => hcheck use [docsMode] [], hcheck scriptWrite [] [], htools⟩

end Mode

end ModePolicy
