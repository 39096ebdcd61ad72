import ModePolicy.CommandLine.Run
import ModePolicy.Proofs.Console.Markup
import ModePolicy.Proofs.Outcome

/-!
# Lines of markup

What the commands put into markup is escaped, so that it is shown as it is, with one exception: the
line on a denied call names a tool and a mode, and each is escaped by itself.

> `errorLines_succeed`, `titled_succeeds`, `modeLines_succeed`: failures and modes are always shown.
>
> `decisionLines_denied`, `decisionLines_denied_stray`: a denial is shown unless a closing tag begins in
> the name of the tool and ends in the slug of the mode.
-/

namespace ModePolicy.CommandLine

open Console.Markup

/-- Markup is shown if each closing tag in it has one to close. -/
theorem markupLines_of_showable {markup : String} (h : Showable markup) :
    ∃ lines, markupLines markup = .ok lines := by
  obtain ⟨cs, hcs⟩ := showable_iff.mp h
  exact ⟨Console.displayChars cs, by rw [markupLines, Console.displayMarkup, hcs]; rfl⟩

theorem markupLines_of_not_showable {markup : String} (h : ¬ Showable markup) :
    ∃ stray, markupLines markup = .error (.strayTag stray) := by
  cases hplain : plain? markup with
  | ok cs => exact absurd (showable_iff.mpr ⟨cs, hplain⟩) h
  | error stray => exact ⟨stray, by rw [markupLines, Console.displayMarkup, hplain]; rfl⟩

theorem isStyle_red : IsStyle ['r', 'e', 'd'] := ⟨by simp, by simp [isTagStart]⟩

theorem isStyle_bold : IsStyle ['b', 'o', 'l', 'd'] := ⟨by simp, by simp [isTagStart]⟩

/-- An escaped text in a style. -/
theorem strayFrom_styled {style : List Char} (hstyle : IsStyle style) (text : String)
    (rest : List Char) :
    ∃ opened, strayFrom [] 0 ('[' :: (style ++ ']' ::
      ((escape text).toList ++ '[' :: '/' :: (style ++ ']' :: rest)))) = strayFrom opened 0 rest := by
  rw [hstyle.strayFrom_opens]
  obtain ⟨slashes, hescape⟩ := @strayFrom_escape [style] 0
    ('[' :: '/' :: (style ++ ']' :: rest)) text (fun _ => rfl) rfl
  obtain ⟨opened, hclose⟩ := hstyle.strayFrom_closes [] slashes rest
  exact ⟨opened, hescape.trans hclose⟩

/-- An escaped text with nothing but text after it. -/
theorem strayFrom_escape_last (opened : List (List Char)) (text : String) {rest : List Char}
    (h : ∀ c ∈ rest, isBracket c = false) :
    strayFrom opened 0 ((escape text).toList ++ rest) = none := by
  obtain ⟨slashes, hescape⟩ := @strayFrom_escape opened 0 rest text
    (fun _ => closes_eq_false h) rfl
  exact hescape.trans (strayFrom_eq_none (notMem_of_noBracket h).1)

theorem strayFrom_escape_alone {opened : List (List Char)} {text : String} :
    strayFrom opened 0 (escape text).toList = none := by
  have h := strayFrom_escape_last opened text (List.forall_mem_nil _)
  rwa [List.append_nil] at h

theorem errorLines_succeed (text : String) : ∃ lines, errorLines text = .ok lines := by
  refine markupLines_of_showable ?_
  obtain ⟨opened, hstyled⟩ := strayFrom_styled isStyle_red text []
  rw [Showable]
  simp only [String.toList_append, String.reduceToList, List.cons_append, List.nil_append]
    at hstyled ⊢
  rw [hstyled, strayFrom_nil]

theorem titled_succeeds {title : String} (htitle : '[' ∉ title.toList) (why : Failure) :
    ∃ lines, titled title why = .ok { status := statusUsage, lines } := by
  have hshown : Showable ("[red]" ++ title ++ ":[/red] " ++ escape why.message) := by
    have htext : '[' ∉ title.toList ++ [':'] := by simp [htitle]
    obtain ⟨slashes, happend⟩ := @strayFrom_append [['r', 'e', 'd']] 0 _
      ('[' :: '/' :: (['r', 'e', 'd'] ++ ']' :: ' ' :: (escape why.message).toList)) htext
    obtain ⟨opened, hclose⟩ := isStyle_red.strayFrom_closes [] slashes
      (' ' :: (escape why.message).toList)
    have hmessage : strayFrom opened 0 (' ' :: (escape why.message).toList) = none :=
      (strayFrom_char (by decide) (by decide)).trans strayFrom_escape_alone
    have hopen := isStyle_red.strayFrom_opens [] (title.toList ++ [':']
      ++ '[' :: '/' :: (['r', 'e', 'd'] ++ ']' :: ' ' :: (escape why.message).toList))
    rw [Showable]
    simp only [String.toList_append, String.reduceToList, List.append_assoc, List.cons_append,
      List.nil_append] at hopen happend hclose ⊢
    rw [hopen, happend, hclose, hmessage]
  obtain ⟨lines, hlines⟩ := markupLines_of_showable hshown
  exact ⟨lines, by rw [titled, hlines]; rfl⟩

/-- What is shown of a mode is shown whatever its texts are. -/
theorem modeLines_succeed (m : Mode) (tools : List String) :
    ∃ lines, modeLines m tools = .ok lines := by
  have hheading : Showable ("[bold]" ++ escape m.name.plain ++ "[/bold] (" ++ escape m.slug.plain
      ++ ")") := by
    obtain ⟨opened, hstyled⟩ := strayFrom_styled isStyle_bold m.name.plain
      (' ' :: '(' :: ((escape m.slug.plain).toList ++ [')']))
    have hslug : strayFrom opened 0 ((escape m.slug.plain).toList ++ [')']) = none :=
      strayFrom_escape_last opened m.slug.plain (by simp [isBracket])
    have hspace : strayFrom opened 0 (' ' :: '(' :: ((escape m.slug.plain).toList ++ [')'])) = none :=
      (strayFrom_char (by decide) (by decide)).trans
        ((strayFrom_char (by decide) (by decide)).trans hslug)
    rw [Showable]
    simp only [String.toList_append, String.reduceToList, List.append_assoc, List.cons_append,
      List.nil_append] at hstyled ⊢
    rw [hstyled, hspace]
  obtain ⟨heading, hheading⟩ := markupLines_of_showable hheading
  obtain ⟨role, hrole⟩ := markupLines_of_showable
    (show Showable "[bold]Role definition[/bold]" from rfl)
  obtain ⟨title, htitle⟩ := markupLines_of_showable
    (show Showable "[bold]Custom instructions[/bold]" from rfl)
  have hinstructions : ∃ lines, instructionLines m.instructions = .ok lines := by
    unfold instructionLines
    split
    · exact ⟨_, by rw [htitle]; rfl⟩
    · exact ⟨_, rfl⟩
  obtain ⟨instructions, hinstructions⟩ := hinstructions
  exact ⟨_, by rw [modeLines, hheading, hrole, hinstructions]; rfl⟩

/-! ## Decisions -/

/-- The line on a call names the tool and the mode, each escaped by itself. -/
theorem showable_call {lead tool slug tail : String}
    (hlead : ∀ rest, strayFrom [] 0 (lead.toList ++ rest) = strayFrom [] 0 rest)
    (htail : ∀ c ∈ tail.toList, isBracket c = false) :
    Showable (lead ++ escape tool ++ " in " ++ escape slug ++ " (" ++ tail ++ ")")
      ↔ ¬ ClosesBetween tool slug := by
  have hrest : ∀ c ∈ " (".toList ++ (tail.toList ++ ")".toList), isBracket c = false := by
    refine List.forall_mem_append.mpr ⟨by simp [isBracket], List.forall_mem_append.mpr ⟨htail, ?_⟩⟩
    simp [isBracket]
  have hmarkup : (lead ++ escape tool ++ " in " ++ escape slug ++ " (" ++ tail ++ ")").toList
      = lead.toList ++ between tool slug (" (".toList ++ (tail.toList ++ ")".toList)) := by
    simp only [between, String.toList_append, List.append_assoc]
  rw [Showable, hmarkup, hlead, strayFrom_between_iff hrest]

theorem denial_noBracket (why : Denial) : ∀ c ∈ why.name.toList, isBracket c = false := by
  cases why <;> simp [Denial.name, isBracket]

variable {tool slug : String}

theorem showable_denied (why : Denial) :
    Showable ("[red]denied[/red] " ++ escape tool ++ " in " ++ escape slug ++ " (" ++ why.name ++ ")")
      ↔ ¬ ClosesBetween tool slug :=
  showable_call (fun _ => rfl) (denial_noBracket why)

/-- **A denial is shown unless a closing tag begins in the name of the tool and ends in the slug.** -/
theorem decisionLines_denied (h : ¬ ClosesBetween tool slug) (why : Denial) :
    ∃ lines, decisionLines tool slug (.denied why) = .ok lines :=
  markupLines_of_showable ((showable_denied why).mpr h)

theorem decisionLines_denied_stray (h : ClosesBetween tool slug) (why : Denial) :
    ∃ stray, decisionLines tool slug (.denied why) = .error (.strayTag stray) :=
  markupLines_of_not_showable fun hshown => (showable_denied why).mp hshown h

theorem decisionLines_violation (tool slug : String) (v : PathViolation) :
    ∃ lines, decisionLines tool slug (.violation v) = .ok lines := by
  refine markupLines_of_showable ?_
  have hlead : ∀ rest, strayFrom [] 0 ("[yellow]violation[/yellow] ".toList ++ rest)
      = strayFrom [] 0 rest := fun _ => rfl
  rw [Showable, String.toList_append, hlead, strayFrom_escape_alone]

theorem decisionLines_allowed (htool : '[' ∉ tool.toList) (slug : String)
    (group : Option ToolGroup) : ∃ lines, decisionLines tool slug (.allowed group) = .ok lines := by
  have htail : ∀ c ∈ ((group.map (·.name)).getD "always available").toList,
      isBracket c = false := by
    cases group with
    | none => simp [isBracket]
    | some group => cases group <;> simp [ToolGroup.name, isBracket]
  refine markupLines_of_showable ((showable_call (fun _ => rfl) htail).mpr ?_)
  rintro ⟨before, name, more, after, htext, -⟩
  exact htool (by simp [htext])

end ModePolicy.CommandLine
