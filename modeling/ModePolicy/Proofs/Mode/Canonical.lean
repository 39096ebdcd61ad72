import ModePolicy.Proofs.Profile.Changes

/-!
# The canonical form of a mode

Data of a mode come in many forms: a field may stand under either of two names, hold null or be left
out, and options may be empty. What is written of a mode has one form (`Mode.toJson`). Loading checks
the data as they come, registering checks the mode as it is written, and saved modes are loaded
again, so the form written must not be worse than the data:

> `validated_has_canonical_form`: data without flaws are read as a mode whose written form is without
> flaws too, so that it can be registered; and that form, like each entry in it, is read back as it
> was.

Reading back needs no flawless mode: it holds of every mode there is.
-/

namespace ModePolicy.Mode

/-- A mode that is read from data without flaws can be registered, whatever the profile. -/
theorem register_of_reads {data : Json} {m : Mode} (h : Reads data m) (p : Profile) :
    (p.register m).result = .ok { p with customModes := m.place p.customModes } :=
  Profile.register_succeeds.mpr ⟨h.valid, rfl⟩

/-- **Data without flaws have a canonical form.** They are read as a mode; what is written of it is
without flaws, it can be registered, and it is read back as it was, as is each of its entries. Every
mode is read back as it was, be it valid or not. -/
theorem validated_has_canonical_form :
    (∀ data, flaws data = .ok [] → ∃ m, ofJson data = .ok m ∧ flaws m.toJson = .ok [] ∧
      (∀ p : Profile,
        (p.register m).result = .ok { p with customModes := m.place p.customModes }) ∧
      ofJson m.toJson = .ok m ∧ ∀ e ∈ m.groups, GroupEntry.ofJson e.toJson = .ok e) ∧
    ∀ m : Mode, ofJson m.toJson = .ok m := by
  refine ⟨fun data h => ?_, ofJson_toJson⟩
  obtain ⟨m, hreads⟩ := exists_reads h
  exact ⟨m, hreads.read, flaws_toJson.mpr hreads.valid, register_of_reads hreads, ofJson_toJson m,
    fun e _ => GroupEntry.ofJson_toJson e⟩

/-- The data of a mode under the names with underscores, with nulls and with empty options. -/
def looseDocs : Json := .obj [
  ("slug", .str "docs"),
  ("name", .str "Docs"),
  ("role_definition", .str "You write."),
  ("custom_instructions", .null),
  ("groups", .arr [
    .arr [.str "read", .obj []],
    .arr [.str "edit", .obj [("description", .null), ("file_regex", .str "\\.md$")]],
    .str "mcp"])]

/-- The canonical form of these data. -/
def canonicalDocs : Json := .obj [
  ("slug", .str "docs"),
  ("name", .str "Docs"),
  ("roleDefinition", .str "You write."),
  ("groups", .arr [
    .arr [.str "read", .obj []],
    .arr [.str "edit", .obj [("fileRegex", .str "\\.md$")]],
    .str "mcp"])]

/-- These data are without flaws, and so is the canonical form of the mode that they are read as,
which an empty profile accepts. -/
theorem looseDocs_canonical :
    flaws looseDocs = .ok [] ∧ ∃ m, ofJson looseDocs = .ok m ∧ m.toJson = canonicalDocs ∧
      flaws canonicalDocs = .ok [] ∧ ofJson canonicalDocs = .ok m ∧
      (({} : Profile).register m).result = .ok { customModes := [m] } := by
  have hflawless : flaws looseDocs = .ok [] := rfl
  obtain ⟨m, hread, hwritten, hregistered, hback, -⟩ :=
    validated_has_canonical_form.1 looseDocs hflawless
  have hform : m.toJson = canonicalDocs := by
    obtain rfl := Except.ok.inj ((show ofJson looseDocs = .ok _ from rfl).symm.trans hread)
    rfl
  rw [hform] at hwritten hback
  exact ⟨hflawless, m, hread, hform, hwritten, hback, hregistered {}⟩

end ModePolicy.Mode
