import ModePolicy.Proofs.Outcome
import ModePolicy.Text.Blank

/-!
# White space at the ends of a text

What `trim` leaves of a text neither begins nor ends with white space (`Text.IsTrimmed`), and nothing
but white space is taken off (`exists_padding`). Both together tell what it is:

> `trim_padded`: a trimmed text with white space before and after it is trimmed to that text.
-/

namespace ModePolicy.Text

/-- Neither the first nor the last character is white space. -/
structure IsTrimmed (cs : List Char) : Prop where
  first : ∀ c ∈ cs.head?, isBlank c = false
  last : ∀ c ∈ cs.getLast?, isBlank c = false

theorem isTrimmed_nil : IsTrimmed [] := ⟨by simp, by simp⟩

variable {cs before after between : List Char}

/-- What stands between the ends of a text does not count. -/
theorem IsTrimmed.around (hfront : ∀ c ∈ before.head?, isBlank c = false) (hbefore : before ≠ [])
    (hback : ∀ c ∈ after.getLast?, isBlank c = false) (hafter : after ≠ []) :
    IsTrimmed (before ++ between ++ after) := by
  refine ⟨?_, ?_⟩
  · rwa [List.append_assoc, List.head?_append_of_ne_nil _ hbefore]
  · rwa [List.getLast?_append_of_ne_nil _ hafter]

/-- Nothing is dropped from the front of a text that does not begin with white space. -/
theorem dropWhile_isBlank (h : ∀ c ∈ cs.head?, isBlank c = false) :
    cs.dropWhile isBlank = cs := by
  cases cs with
  | nil => rfl
  | cons c rest => rw [List.dropWhile_cons_of_neg (by simp [h c rfl])]

theorem head_dropWhile_isBlank (cs : List Char) :
    ∀ c ∈ (cs.dropWhile isBlank).head?, isBlank c = false := by
  intro c hc
  have hhead := List.head?_dropWhile_not isBlank cs
  rwa [Option.mem_def.mp hc] at hhead

/-- **White space around a trimmed text is all that is taken off.** -/
theorem trim_padded (hbefore : ∀ c ∈ before, isBlank c = true) (hafter : ∀ c ∈ after, isBlank c = true)
    (h : IsTrimmed cs) : trim (before ++ cs ++ after) = cs := by
  have hfront : (before ++ cs ++ after).dropWhile isBlank = (cs ++ after).dropWhile isBlank := by
    rw [List.append_assoc, List.dropWhile_append_of_pos hbefore]
  unfold trim
  rw [hfront]
  cases cs with
  | nil => rw [List.nil_append, List.dropWhile_eq_nil_iff.mpr hafter]; rfl
  | cons c rest =>
    have hstart : (c :: rest ++ after).dropWhile isBlank = c :: rest ++ after :=
      dropWhile_isBlank fun d hd => h.first d hd
    have hend : ((c :: rest).reverse).dropWhile isBlank = (c :: rest).reverse :=
      dropWhile_isBlank fun d hd => h.last d (List.head?_reverse ▸ hd)
    rw [hstart, List.reverse_append,
      List.dropWhile_append_of_pos fun d hd => hafter d (List.mem_reverse.mp hd), hend,
      List.reverse_reverse]

theorem IsTrimmed.trim_eq (h : IsTrimmed cs) : trim cs = cs := by
  have hpadded := trim_padded (List.forall_mem_nil _) (List.forall_mem_nil _) h
  rwa [List.append_nil, List.nil_append] at hpadded

/-- A text is what is left of it, between white space. -/
theorem exists_padding (cs : List Char) : ∃ before after, cs = before ++ trim cs ++ after ∧
    (∀ c ∈ before, isBlank c = true) ∧ (∀ c ∈ after, isBlank c = true) ∧ IsTrimmed (trim cs) := by
  have hcut : cs.dropWhile isBlank =
      trim cs ++ ((cs.dropWhile isBlank).reverse.takeWhile isBlank).reverse := by
    unfold trim
    rw [← List.reverse_append, List.takeWhile_append_dropWhile, List.reverse_reverse]
  refine ⟨cs.takeWhile isBlank, ((cs.dropWhile isBlank).reverse.takeWhile isBlank).reverse, ?_,
    fun c hc => List.mem_takeWhile_imp hc, fun c hc => ?_, fun c hc => ?_, fun c hc => ?_⟩
  · rw [List.append_assoc, ← hcut, List.takeWhile_append_dropWhile]
  · exact List.mem_takeWhile_imp (List.mem_reverse.mp hc)
  · -- the first character that is left is the first one that is not dropped
    refine head_dropWhile_isBlank cs c ?_
    rw [hcut, List.head?_append, Option.mem_def.mp hc]
    rfl
  · refine head_dropWhile_isBlank (cs.dropWhile isBlank).reverse c ?_
    rwa [← List.getLast?_reverse]

theorem isTrimmed_trim (cs : List Char) : IsTrimmed (trim cs) := by
  obtain ⟨before, after, -, -, -, h⟩ := exists_padding cs
  exact h

/-- Nothing is left exactly of white space. -/
theorem trim_eq_nil_iff : trim cs = [] ↔ ∀ c ∈ cs, isBlank c = true := by
  constructor
  · intro h
    obtain ⟨before, after, hcs, hbefore, hafter, -⟩ := exists_padding cs
    rw [h, List.append_nil] at hcs
    rw [hcs]
    exact List.forall_mem_append.mpr ⟨hbefore, hafter⟩
  · intro h
    have hpadded := trim_padded h (List.forall_mem_nil _) isTrimmed_nil
    rwa [List.append_nil, List.append_nil] at hpadded

/-- A text that does not begin with white space keeps its beginning. -/
theorem exists_trim_cons {c : Char} (h : isBlank c = false) : ∃ rest, trim (c :: cs) = c :: rest := by
  obtain ⟨before, after, hcs, hbefore, hafter, -⟩ := exists_padding (c :: cs)
  cases before with
  | cons d before =>
    obtain ⟨rfl, -⟩ := List.cons_eq_cons.mp hcs
    exact absurd (hbefore c (by simp)) (by simp [h])
  | nil =>
    cases htrim : trim (c :: cs) with
    | nil => exact absurd (trim_eq_nil_iff.mp htrim c (by simp)) (by simp [h])
    | cons d rest =>
      rw [htrim] at hcs
      obtain ⟨rfl, -⟩ := List.cons_eq_cons.mp hcs
      exact ⟨rest, rfl⟩

@[simp] theorem toList_strip (s : String) : (strip s).toList = trim s.toList := by
  rw [strip, String.toList_ofList]

theorem isBlankText_iff {s : String} : isBlankText s = true ↔ ∀ c ∈ s.toList, isBlank c = true := by
  rw [isBlankText, List.all_eq_true]

end ModePolicy.Text
