import ModePolicy.Instructions.RuleFile
import ModePolicy.Proofs.Text.Blank

/-!
# The text of several rule files

Each rule file makes a block: a line that names where the rules are from, and what the file says,
without white space at its ends. The blocks are put together line by line, with an empty line after
each, and white space at the ends of the whole is taken off. A block begins with a number sign and ends
with the last character that its file has to say, so this takes off the last empty line and no more:

> `joined_is_trimmed`: the blocks with one empty line between them neither begin nor end with white
> space.

So nothing is lost and nothing comes in between (`merge_lossless`).
-/

namespace ModePolicy.RuleFile

/-- What a rule file makes of a text: its heading, and below it what the file says. -/
def block (r : RuleFile) : String := r.heading ++ "\n" ++ Text.strip r.content

/-- The blocks of rule files, with one empty line between them. -/
def joined (rules : List RuleFile) : String := "\n\n".intercalate (rules.map block)

variable {r : RuleFile} {rules others : List RuleFile}

@[simp] theorem joined_nil : joined [] = "" := String.intercalate_nil

@[simp] theorem joined_singleton : joined [r] = r.block := String.intercalate_singleton

theorem joined_cons (h : rules ≠ []) : joined (r :: rules) = r.block ++ "\n\n" ++ joined rules := by
  obtain ⟨next, rest, rfl⟩ := List.exists_cons_of_ne_nil h
  exact String.intercalate_cons_cons

theorem joined_append (hrules : rules ≠ []) (hothers : others ≠ []) :
    joined (rules ++ others) = joined rules ++ "\n\n" ++ joined others := by
  induction rules with
  | nil => exact absurd rfl hrules
  | cons r rest ih =>
    rw [List.cons_append, joined_cons (List.append_ne_nil_of_right_ne_nil rest hothers)]
    by_cases hrest : rest = []
    · rw [hrest, List.nil_append, joined_singleton]
    · rw [ih hrest, joined_cons hrest]
      simp only [String.append_assoc]

/-- Line by line, the blocks are followed by an empty line. -/
theorem lines_joined (h : rules ≠ []) :
    "\n".intercalate (rules.flatMap parts) = joined rules ++ "\n" := by
  induction rules with
  | nil => exact absurd rfl h
  | cons r rest ih =>
    by_cases hrest : rest = []
    · subst hrest
      simp [parts, block, String.append_assoc]
    · obtain ⟨line, lines, hlines⟩ : ∃ line lines, rest.flatMap parts = line :: lines := by
        obtain ⟨next, others, rfl⟩ := List.exists_cons_of_ne_nil hrest
        exact ⟨_, _, rfl⟩
      have hthree : (r :: rest).flatMap parts =
          r.heading :: Text.strip r.content :: "" :: line :: lines := by
        rw [List.flatMap_cons, hlines]
        rfl
      rw [hthree, String.intercalate_cons_cons, String.intercalate_cons_cons,
        String.intercalate_cons_cons, ← hlines, ih hrest, joined_cons hrest, block]
      have hbreak : ("\n\n" : String) = "\n" ++ "\n" := rfl
      simp only [String.append_assoc, hbreak, String.empty_append]

theorem strip_ne_nil (h : Text.isBlankText r.content = false) : Text.trim r.content.toList ≠ [] := by
  rw [Ne, Text.trim_eq_nil_iff, ← Text.isBlankText_iff, h]
  exact Bool.false_ne_true

theorem toList_block (r : RuleFile) : ∃ between, r.block.toList =
    ['#'] ++ between ++ Text.trim r.content.toList := by
  refine ⟨(" Rules from " ++ r.source ++ ": " ++ r.path.name ++ "\n").toList, ?_⟩
  have hsign : ("# Rules from " : String).toList = '#' :: " Rules from ".toList := rfl
  simp [block, heading, String.toList_append, hsign]

theorem block_is_trimmed (h : Text.isBlankText r.content = false) :
    Text.IsTrimmed r.block.toList ∧ r.block.toList ≠ [] := by
  obtain ⟨between, hblock⟩ := toList_block r
  rw [hblock]
  refine ⟨Text.IsTrimmed.around (by simp; rfl) (by simp) (Text.isTrimmed_trim _).last
    (strip_ne_nil h), by simp⟩

/-- The blocks of files that have something to say neither begin nor end with white space. -/
theorem joined_is_trimmed (h : ∀ r ∈ rules, Text.isBlankText r.content = false) (hne : rules ≠ []) :
    Text.IsTrimmed (joined rules).toList ∧ (joined rules).toList ≠ [] := by
  induction rules with
  | nil => exact absurd rfl hne
  | cons r rest ih =>
    obtain ⟨hr, hrest⟩ := List.forall_mem_cons.mp h
    by_cases hnil : rest = []
    · subst hnil
      rw [joined_singleton]
      exact block_is_trimmed hr
    · obtain ⟨htrimmed, hfilled⟩ := block_is_trimmed hr
      obtain ⟨hlast, hends⟩ := ih hrest hnil
      rw [joined_cons hnil, String.toList_append, String.toList_append]
      exact ⟨.around htrimmed.first hfilled hlast.last hends, by simp⟩

/-- Merging puts the blocks together. -/
theorem merge_eq_joined (h : ∀ r ∈ rules, Text.isBlankText r.content = false) :
    merge rules = joined rules := by
  by_cases hne : rules = []
  · subst hne
    rfl
  · have hpadded := Text.trim_padded (List.forall_mem_nil _)
      (List.forall_mem_singleton.mpr (show Text.isBlank '\n' = true from rfl))
      (joined_is_trimmed h hne).1
    rw [merge, lines_joined hne, Text.strip, String.toList_append]
    exact (congrArg String.ofList hpadded).trans String.ofList_toList

theorem joined_eq_empty_iff (h : ∀ r ∈ rules, Text.isBlankText r.content = false) :
    joined rules = "" ↔ rules = [] := by
  constructor
  · intro hempty
    by_contra hne
    exact (joined_is_trimmed h hne).2 (by rw [hempty]; rfl)
  · intro hnil
    rw [hnil, joined_nil]

/-- **The merged text is that of the rule files one after another**, if they all have something to
say: a heading and the content of each, with one empty line between them. It is empty for no files
only, and the text of two lists is that of the first, an empty line and that of the second; so each
file has its block right after the text of the files before it. Of a content nothing but white space
at its ends is missing. -/
theorem merge_lossless (h : ∀ r ∈ rules, Text.isBlankText r.content = false) :
    merge rules = "\n\n".intercalate (rules.map fun r =>
      "# Rules from " ++ r.source ++ ": " ++ r.path.name ++ "\n" ++ Text.strip r.content) ∧
    (merge rules = "" ↔ rules = []) ∧
    (∀ first second, first ≠ [] → second ≠ [] → rules = first ++ second →
      merge rules = merge first ++ "\n\n" ++ merge second) ∧
    ∀ r ∈ rules, ∃ before after, r.content = before ++ Text.strip r.content ++ after ∧
      Text.isBlankText before = true ∧ Text.isBlankText after = true := by
  refine ⟨merge_eq_joined h, ?_, fun first second hfirst hsecond hrules => ?_, fun r hr => ?_⟩
  · rw [merge_eq_joined h, joined_eq_empty_iff h]
  · subst hrules
    obtain ⟨h₁, h₂⟩ := List.forall_mem_append.mp h
    rw [merge_eq_joined h, merge_eq_joined h₁, merge_eq_joined h₂, joined_append hfirst hsecond]
  · obtain ⟨before, after, hcontent, hbefore, hafter, -⟩ := Text.exists_padding r.content.toList
    refine ⟨String.ofList before, String.ofList after, ?_, ?_, ?_⟩
    · rw [← String.toList_inj]
      simpa using hcontent
    · simpa [Text.isBlankText] using hbefore
    · simpa [Text.isBlankText] using hafter

/-- Two files: the first has an em space before its text, and in it an empty line and a line like the
heading of the second; the second has a no-break space at its end. -/
def guideRules : List RuleFile :=
  [⟨⟨"", ["a.md"]⟩, "\u2003Be kind.\n\n# Rules from local: b.md\n", "global"⟩,
    ⟨⟨"", ["rules", "b.md"]⟩, "\nBe brief.\u00a0", "local"⟩]

theorem guideRules_merged : (∀ r ∈ guideRules, Text.isBlankText r.content = false) ∧
    merge guideRules = "# Rules from global: a.md\nBe kind.\n\n# Rules from local: b.md\n\n" ++
      "# Rules from local: b.md\nBe brief." := by
  have hsaid : ∀ r ∈ guideRules, Text.isBlankText r.content = false := by decide
  exact ⟨hsaid, (merge_lossless hsaid).1.trans (by decide)⟩

end ModePolicy.RuleFile
