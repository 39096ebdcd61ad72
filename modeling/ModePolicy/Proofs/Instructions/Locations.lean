import ModePolicy.Instructions.Rules
import ModePolicy.Proofs.Outcome

/-!
# Where rules are kept

The paths with rules for one mode come from its slug. Whatever the slug is, its first part stands at
the end of a name (`Rules.modePaths_parts`), so the single file is never in the directory that it
stands in for. If the slug has no slashes, there is nothing else in the name and nothing after it.
-/

namespace ModePolicy

/-! ## Pieces of a text -/

namespace Text

variable {sep : Char} {u : List Char}

theorem splitAtChar_ne_nil (sep : Char) (cs : List Char) : splitAtChar sep cs ≠ [] := by
  cases cs with
  | nil => simp [splitAtChar]
  | cons c rest =>
    unfold splitAtChar
    split
    · simp
    · split <;> simp

/-- The first piece of a text grows by what is put before the text. -/
theorem splitAtChar_append (h : sep ∉ u) (v : List Char) :
    ∃ piece pieces, splitAtChar sep v = piece :: pieces ∧
      splitAtChar sep (u ++ v) = (u ++ piece) :: pieces := by
  induction u with
  | nil =>
    obtain ⟨piece, pieces, hv⟩ := List.exists_cons_of_ne_nil (splitAtChar_ne_nil sep v)
    exact ⟨piece, pieces, hv, hv⟩
  | cons c u ih =>
    obtain ⟨hc, hu⟩ := not_or.mp (mt List.mem_cons.mpr h)
    obtain ⟨piece, pieces, hv, huv⟩ := ih hu
    refine ⟨piece, pieces, hv, ?_⟩
    rw [List.cons_append, splitAtChar, if_neg (by simpa using Ne.symm hc), huv]
    rfl

/-- A text without separators is one piece. -/
theorem splitAtChar_of_notMem (h : sep ∉ u) : splitAtChar sep u = [u] := by
  obtain ⟨piece, pieces, hnil, hu⟩ := splitAtChar_append h []
  obtain ⟨rfl, rfl⟩ := List.cons.inj (show [[]] = piece :: pieces from hnil)
  simpa using hu

/-- And a separator after it ends the piece. -/
theorem splitAtChar_append_cons (h : sep ∉ u) (v : List Char) :
    splitAtChar sep (u ++ sep :: v) = u :: splitAtChar sep v := by
  have hsep : splitAtChar sep (sep :: v) = [] :: splitAtChar sep v := by
    rw [splitAtChar, if_pos (beq_self_eq_true sep)]
  obtain ⟨piece, pieces, hv, huv⟩ := splitAtChar_append h (sep :: v)
  obtain ⟨rfl, rfl⟩ := List.cons.inj (hsep.symm.trans hv)
  simpa using huv

end Text

/-! ## Relative paths -/

namespace Path

variable {p q : Path}

theorem join_parts (h : q.anchor = "") : (p.join q).parts = p.parts ++ q.parts := by
  simp [join, h]

@[simp] theorem child_parts (p : Path) (name : String) : (p.child name).parts = p.parts ++ [name] := rfl

end Path

namespace Rules

/-! All four paths are relative. -/

theorem anchor_directory : directory.anchor = "" := rfl

theorem anchor_singleFile : singleFile.anchor = "" := rfl

theorem anchor_modeDirectory (slug : String) : (modeDirectory slug).anchor = "" := by
  simp [modeDirectory, Path.ofString, String.toList_append]

theorem anchor_modeSingleFile (slug : String) : (modeSingleFile slug).anchor = "" := by
  simp [modeSingleFile, Path.ofString, String.toList_append]

theorem parts_directory : directory.parts = [".modeguard", "rules"] := rfl

theorem parts_singleFile : singleFile.parts = [".modeguardrules"] := rfl

/-- The parts of the paths with rules for one mode: the first piece of its slug is at the end of a
name, and what follows are the other pieces. -/
theorem modePaths_parts (slug : String) : ∃ piece others,
    (modeDirectory slug).parts = ".modeguard" :: ("rules-" ++ piece) :: others ∧
    (modeSingleFile slug).parts = (".modeguardrules-" ++ piece) :: others ∧
    ('/' ∉ slug.toList → piece = slug ∧ others = []) := by
  obtain ⟨piece, pieces, hslug, hrules⟩ :=
    Text.splitAtChar_append (show '/' ∉ "rules-".toList by decide) slug.toList
  obtain ⟨_, _, hslug', hsingle⟩ :=
    Text.splitAtChar_append (show '/' ∉ ".modeguardrules-".toList by decide) slug.toList
  obtain ⟨rfl, rfl⟩ := List.cons.inj (hslug.symm.trans hslug')
  have hkept : ∀ start : String, start.toList.length > 1 →
      (start ++ String.ofList piece != "" && start ++ String.ofList piece != ".") = true := by
    intro start hstart
    have hlength : (start ++ String.ofList piece).toList.length > 1 := by
      rw [String.toList_append, List.length_append]
      omega
    simp only [Bool.and_eq_true, bne_iff_ne, ne_eq]
    constructor
    · intro h
      rw [h] at hlength
      exact absurd hlength (by decide)
    · intro h
      rw [h] at hlength
      exact absurd hlength (by decide)
  refine ⟨String.ofList piece, (pieces.map String.ofList).filter fun p => p != "" && p != ".",
    ?_, ?_, fun hplain => ?_⟩
  · have hdirectory : (".modeguard/rules-" ++ slug).toList =
        ".modeguard".toList ++ '/' :: ("rules-".toList ++ slug.toList) := by
      rw [String.toList_append]
      rfl
    have hfirst : ((".modeguard" : String) != "" && (".modeguard" : String) != ".") = true := by decide
    simp only [modeDirectory, Path.ofString, hdirectory,
      Text.splitAtChar_append_cons (show '/' ∉ ".modeguard".toList by decide), hrules, List.map_cons,
      String.ofList_append, String.ofList_toList, List.filter_cons, hfirst,
      hkept "rules-" (by decide), if_true]
  · simp only [modeSingleFile, Path.ofString, String.toList_append, hsingle, List.map_cons,
      String.ofList_append, String.ofList_toList, List.filter_cons,
      hkept ".modeguardrules-" (by decide), if_true]
  · rw [Text.splitAtChar_of_notMem hplain] at hslug
    obtain ⟨rfl, rfl⟩ := List.cons.inj hslug
    exact ⟨String.ofList_toList, rfl⟩

variable {workspace : Path} {name : String}

/-- The single file with general rules is not in the directory with general rules. -/
theorem singleFile_not_child :
    workspace.join singleFile ≠ (workspace.join directory).child name := by
  intro h
  have hparts := congrArg Path.parts h
  rw [Path.child_parts, Path.join_parts anchor_singleFile, Path.join_parts anchor_directory,
    parts_singleFile, parts_directory, List.append_assoc] at hparts
  exact absurd (List.append_cancel_left hparts) (by simp)

/-- The single file with the rules for a mode is not in the directory with those rules. -/
theorem modeSingleFile_not_child {slug : String} :
    workspace.join (modeSingleFile slug) ≠ (workspace.join (modeDirectory slug)).child name := by
  intro h
  obtain ⟨piece, others, hdirectory, hsingle, -⟩ := modePaths_parts slug
  have hparts := congrArg Path.parts h
  rw [Path.child_parts, Path.join_parts (anchor_modeSingleFile slug),
    Path.join_parts (anchor_modeDirectory slug), hsingle, hdirectory, List.append_assoc] at hparts
  have hlength := congrArg List.length (List.append_cancel_left hparts)
  simp at hlength

end Rules
end ModePolicy
