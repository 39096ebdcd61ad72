import ModePolicy.Console.Markup
import ModePolicy.Proofs.Text.Blank

/-!
# Escaped texts in markup

`escape` looks at one text at a time, and a text by itself is protected: none of its brackets begins
a tag. Where markup puts an escaped text before another one, a bracket that is left open at the end
of the first may be closed in the second, and neither of them knew.

> `strayFrom_escape`: unless a bracket is left open and closed later, markup after an escaped text is
> read as if the text were not there.
>
> `strayFrom_between_iff`: two escaped texts with ` in ` between them hold a tag that closes nothing
> iff a closing tag begins in the first and ends in the second (`ClosesBetween`).
-/

namespace ModePolicy.Console.Markup

/-- The first closing tag of markup that has nothing to close, after a number of backslashes not yet
looked at. -/
def strayFrom (opened : List (List Char)) (slashes : Nat) (cs : List Char) : Option StrayTag :=
  strayTag? opened (piecesFrom slashes none cs)

variable {opened : List (List Char)} {slashes : Nat} {c : Char} {cs text rest : List Char}

/-! ## Character by character -/

@[simp] theorem strayTag?_backslashes (n : Nat) (pieces : List Piece) :
    strayTag? opened (backslashes n ++ pieces) = strayTag? opened pieces := by
  induction n with
  | zero => rfl
  | succ n ih => rw [← ih]; rfl

@[simp] theorem strayFrom_nil : strayFrom opened slashes [] = none := by
  have h : strayTag? opened (backslashes slashes ++ []) = none := strayTag?_backslashes slashes []
  rwa [List.append_nil] at h

/-- A character that is neither a backslash nor an opening bracket is shown. -/
theorem strayFrom_char (hslash : c ≠ '\\') (hopen : c ≠ '[') :
    strayFrom opened slashes (c :: rest) = strayFrom opened 0 rest := by
  simp [strayFrom, piecesFrom, hslash, hopen, strayTag?]

/-- A bracket that begins no tag, or has a backslash of its own, is shown. -/
theorem strayFrom_bracket (h : isTag rest = true → slashes % 2 = 1) :
    strayFrom opened slashes ('[' :: rest) = strayFrom opened 0 rest := by
  unfold strayFrom
  cases htag : isTag rest with
  | true => simp [piecesFrom, htag, h htag, strayTag?]
  | false => simp [piecesFrom, htag, strayTag?]

theorem piecesFrom_inside (start : List Char) (h : ']' ∉ text) :
    piecesFrom 0 (some start) (text ++ ']' :: rest)
      = .tag (start.reverse ++ text) :: piecesFrom 0 none rest := by
  induction text generalizing start with
  | nil => simp [piecesFrom]
  | cons c text ih =>
    obtain ⟨hc, htext⟩ := not_or.mp (List.mem_cons.not.mp h)
    simp [piecesFrom, Ne.symm hc, ih (c :: start) htext]

/-- A tag without a backslash of its own is read to its closing bracket. -/
theorem strayFrom_tag (htag : isTag (text ++ ']' :: rest) = true) (hclose : ']' ∉ text)
    (heven : slashes % 2 = 0) :
    strayFrom opened slashes ('[' :: (text ++ ']' :: rest))
      = strayTag? opened (.tag text :: piecesFrom 0 none rest) := by
  simp [strayFrom, piecesFrom, htag, heven, piecesFrom_inside [] hclose]

/-! ## Brackets -/

/-- A bracket. -/
def isBracket (c : Char) : Bool := c == '[' || c == ']'

/-- The last bracket of a text is an opening one: what comes after the text may close it. -/
def hangs (cs : List Char) : Bool := cs.reverse.find? isBracket == some '['

theorem closes_eq (cs : List Char) : closes cs = (cs.find? isBracket == some ']') := rfl

theorem closes_cons (h : isBracket c = false) : closes (c :: rest) = closes rest := by
  simp [closes_eq, h]

theorem closes_append (h : ∀ c ∈ text, isBracket c = false) :
    closes (text ++ rest) = closes rest := by
  have hnone : text.find? isBracket = none := by simpa using h
  simp [closes_eq, hnone]

theorem closes_append_of_mem (h : ∃ c ∈ text, isBracket c = true) :
    closes (text ++ rest) = closes text := by
  obtain ⟨found, hfound⟩ := Option.isSome_iff_exists.mp (List.find?_isSome.mpr h)
  simp [closes_eq, hfound]

theorem closes_eq_false (h : ∀ c ∈ cs, isBracket c = false) : closes cs = false := by
  have hnone : cs.find? isBracket = none := by simpa using h
  simp [closes_eq, hnone]

theorem ne_open_of_not_isBracket (h : isBracket c = false) : c ≠ '[' := by
  rintro rfl
  exact absurd h (by decide)

theorem isBracket_of_isTagStart (h : isTagStart c = true) : isBracket c = false := by
  refine Bool.eq_false_iff.mpr fun hbracket => ?_
  have hc : c = '[' ∨ c = ']' := by simpa [isBracket] using hbracket
  rcases hc with rfl | rfl <;> exact absurd h (by decide)

theorem closes_of_isTag (h : isTag cs = true) : closes cs = true := by
  cases cs with
  | nil => exact absurd h (by decide)
  | cons c rest =>
    obtain ⟨hstart, hcloses⟩ := Bool.and_eq_true_iff.mp h
    rwa [closes_cons (isBracket_of_isTagStart hstart)]

/-- A tag: what may stand after a bracket, and the bracket that closes it. -/
theorem isTag_cons (hc : isTagStart c = true) (h : ∀ c ∈ text, isBracket c = false) :
    isTag (c :: text ++ ']' :: rest) = true :=
  Bool.and_eq_true_iff.mpr ⟨hc, (closes_append h).trans rfl⟩

theorem hangs_cons (h : hangs cs = true) : hangs (c :: cs) = true := by
  have hfound : cs.reverse.find? isBracket = some '[' := by simpa [hangs] using h
  simp [hangs, hfound]

theorem hangs_bracket (h : ∀ c ∈ cs, isBracket c = false) : hangs ('[' :: cs) = true := by
  have hnone : cs.reverse.find? isBracket = none := by simpa using h
  simp [hangs, hnone, isBracket]

/-- No bracket that the one text leaves open is closed in the other. -/
def Settled (cs rest : List Char) : Prop := hangs cs = true → closes rest = false

theorem Settled.tail (h : Settled (c :: cs) rest) : Settled cs rest :=
  fun hhangs => h (hangs_cons hhangs)

/-- Whether a bracket begins a tag is settled by the text it is in. -/
theorem Settled.isTag_append (h : Settled ('[' :: cs) rest) : isTag (cs ++ rest) = isTag cs := by
  cases cs with
  | nil =>
    refine Bool.eq_false_iff.mpr fun htag => ?_
    exact absurd (closes_of_isTag htag) (by simp [h (hangs_bracket (by simp))])
  | cons c cs =>
    cases hstart : isTagStart c with
    | false => simp [isTag, hstart]
    | true =>
      have hcloses : closes (cs ++ rest) = closes cs := by
        by_cases hbracket : ∃ d ∈ cs, isBracket d = true
        · exact closes_append_of_mem hbracket
        · have hnone : ∀ d ∈ cs, isBracket d = false := by simpa using hbracket
          have hopen : hangs ('[' :: c :: cs) = true := hangs_bracket fun d hd => by
            rcases List.mem_cons.mp hd with rfl | hd
            exacts [isBracket_of_isTagStart hstart, hnone d hd]
          rw [closes_append hnone, h hopen, closes_eq_false hnone]
      simp [isTag, hstart, hcloses]

/-! ## Escaped text -/

theorem leadsToTag_backslash : leadsToTag ('\\' :: rest) = leadsToTag rest := by
  simp [leadsToTag]

theorem leadsToTag_bracket : leadsToTag ('[' :: rest) = isTag rest := by
  simp [leadsToTag]

/-- What is escaped has the brackets of the text, in their order. -/
theorem find?_isBracket_escapeTags (cs : List Char) :
    (escapeTags cs).find? isBracket = cs.find? isBracket := by
  have hslash : isBracket '\\' = false := by decide
  have hopen : isBracket '[' = true := by decide
  induction cs with
  | nil => rfl
  | cons c rest ih =>
    unfold escapeTags
    split
    case isTrue h =>
      obtain rfl : c = '\\' := by simpa using (Bool.and_eq_true_iff.mp h).1
      simp [hslash, ih]
    case isFalse =>
      split
      case isTrue h =>
        obtain rfl : c = '[' := by simpa using (Bool.and_eq_true_iff.mp h).1
        simp [hslash, hopen]
      case isFalse => simp [List.find?_cons, ih]

theorem closes_escapeTags_append (cs rest : List Char) :
    closes (escapeTags cs ++ rest) = closes (cs ++ rest) := by
  simp [closes_eq, find?_isBracket_escapeTags]

theorem isTag_escapeTags_append (cs rest : List Char) :
    isTag (escapeTags cs ++ rest) = isTag (cs ++ rest) := by
  have hslash : isTagStart '\\' = false := by decide
  have hopen : isTagStart '[' = false := by decide
  cases cs with
  | nil => rfl
  | cons c cs =>
    unfold escapeTags
    split
    case isTrue h =>
      obtain rfl : c = '\\' := by simpa using (Bool.and_eq_true_iff.mp h).1
      simp [isTag, hslash]
    case isFalse =>
      split
      case isTrue h =>
        obtain rfl : c = '[' := by simpa using (Bool.and_eq_true_iff.mp h).1
        simp [isTag, hslash, hopen]
      case isFalse => simp [isTag, closes_escapeTags_append]

/-- The backslashes at the end of a text, with those before it if it has nothing else. -/
def slashesAfter (slashes : Nat) (cs : List Char) : Nat :=
  cs.foldl (fun n c => if c == '\\' then n + 1 else 0) slashes

/-- **An escaped text holds no tag.** -/
theorem strayFrom_escapeTags (hsettled : Settled cs rest)
    (heven : leadsToTag cs = true → slashes % 2 = 0) :
    strayFrom opened slashes (escapeTags cs ++ rest)
      = strayFrom opened (slashesAfter slashes (escapeTags cs)) rest := by
  -- A bracket that begins a tag in the text comes after an even number of backslashes: those before
  -- it are doubled, and those before the text are even if they stand right before it.
  induction cs generalizing slashes with
  | nil => rfl
  | cons c cs ih =>
    unfold escapeTags
    split
    case isTrue h =>
      obtain ⟨hc, hleads⟩ := Bool.and_eq_true_iff.mp h
      obtain rfl : c = '\\' := by simpa using hc
      have hslashes := heven (leadsToTag_backslash.trans hleads)
      exact ih hsettled.tail fun _ => by omega
    case isFalse hdouble =>
      split
      case isTrue h =>
        obtain ⟨hc, htag⟩ := Bool.and_eq_true_iff.mp h
        obtain rfl : c = '[' := by simpa using hc
        have hslashes := heven (leadsToTag_bracket.trans htag)
        have hopen : strayFrom opened (slashes + 1) ('[' :: (escapeTags cs ++ rest))
            = strayFrom opened 0 (escapeTags cs ++ rest) := strayFrom_bracket fun _ => by omega
        exact hopen.trans (ih hsettled.tail fun _ => rfl)
      case isFalse hprotect =>
        by_cases hslash : c = '\\'
        · subst hslash
          refine ih hsettled.tail fun hleads => ?_
          exact absurd hleads (by simpa using hdouble)
        by_cases hopen : c = '['
        · subst hopen
          have htag : isTag (escapeTags cs ++ rest) = false := by
            rw [isTag_escapeTags_append, hsettled.isTag_append]
            simpa using hprotect
          exact (strayFrom_bracket (by simp [htag])).trans (ih hsettled.tail fun _ => rfl)
        · have hstep : strayFrom opened slashes (c :: (escapeTags cs ++ rest))
              = strayFrom opened 0 (escapeTags cs ++ rest) := strayFrom_char hslash hopen
          have hafter : slashesAfter slashes (c :: escapeTags cs)
              = slashesAfter 0 (escapeTags cs) := by simp [slashesAfter, hslash]
          rw [List.cons_append, hstep, hafter]
          exact ih hsettled.tail fun _ => rfl

/-- An escaped text is the text with its tags escaped, and perhaps a backslash. -/
theorem toList_escape (s : String) :
    ∃ more, (more = [] ∨ more = ['\\']) ∧ (escape s).toList = escapeTags s.toList ++ more := by
  unfold escape
  by_cases h : endsOpen (escapeTags s.toList) = true
  · exact ⟨['\\'], .inr rfl, by simp [h]⟩
  · exact ⟨[], .inl rfl, by simp [h]⟩

/-- **Markup after an escaped text is read as if the text were not there**, but for backslashes. -/
theorem strayFrom_escape {s : String} (hsettled : Settled s.toList rest) (heven : slashes % 2 = 0) :
    ∃ after, strayFrom opened slashes ((escape s).toList ++ rest)
      = strayFrom opened after rest := by
  obtain ⟨more, rfl | rfl, hescape⟩ := toList_escape s
  · rw [hescape, List.append_nil]
    exact ⟨_, strayFrom_escapeTags hsettled fun _ => heven⟩
  · have hsettled : Settled s.toList ('\\' :: rest) := hsettled
    rw [hescape, List.append_assoc]
    exact ⟨_, strayFrom_escapeTags hsettled fun _ => heven⟩

/-- Markup after a text without opening brackets is read as if the text were not there, but for
backslashes. -/
theorem strayFrom_append (h : '[' ∉ text) :
    ∃ after, strayFrom opened slashes (text ++ rest) = strayFrom opened after rest := by
  induction text generalizing slashes with
  | nil => exact ⟨slashes, rfl⟩
  | cons c text ih =>
    obtain ⟨hc, htext⟩ := not_or.mp (List.mem_cons.not.mp h)
    by_cases hslash : c = '\\'
    · subst hslash
      exact ih htext
    · obtain ⟨after, hafter⟩ := @ih 0 htext
      exact ⟨after, (strayFrom_char hslash (Ne.symm hc)).trans hafter⟩

theorem strayFrom_eq_none (h : '[' ∉ text) : strayFrom opened slashes text = none := by
  obtain ⟨after, hafter⟩ := @strayFrom_append opened slashes text [] h
  rw [← List.append_nil text, hafter, strayFrom_nil]

/-! ## A tag from one escaped text into the next -/

/-- A closing tag begins in the one text and ends in the other: the last bracket of the first is
opened before a slash, without a backslash of its own, and the first bracket of the second closes
it. -/
def ClosesBetween (s t : String) : Prop :=
  ∃ before name more after, s.toList = before ++ '[' :: '/' :: name ∧
    t.toList = more ++ ']' :: after ∧ (∀ c ∈ name, isBracket c = false) ∧
    (∀ c ∈ more, isBracket c = false) ∧ slashesAfter 0 before % 2 = 0

theorem exists_append_of_hangs (h : hangs cs = true) :
    ∃ before name, cs = before ++ '[' :: name ∧ ∀ c ∈ name, isBracket c = false := by
  have hfound : cs.reverse.find? isBracket = some '[' := by simpa [hangs] using h
  obtain ⟨-, last, first, hcs, hlast⟩ := List.find?_eq_some_iff_append.mp hfound
  refine ⟨first.reverse, last.reverse, ?_, fun c hc => ?_⟩
  · rw [← List.reverse_reverse cs, hcs]
    simp
  · simpa using hlast c (List.mem_reverse.mp hc)

theorem exists_append_of_closes (h : closes cs = true) :
    ∃ more after, cs = more ++ ']' :: after ∧ ∀ c ∈ more, isBracket c = false := by
  have hfound : cs.find? isBracket = some ']' := by simpa [closes_eq] using h
  obtain ⟨-, more, after, hcs, hmore⟩ := List.find?_eq_some_iff_append.mp hfound
  exact ⟨more, after, hcs, fun c hc => by simpa using hmore c hc⟩

theorem notMem_of_noBracket (h : ∀ c ∈ text, isBracket c = false) : '[' ∉ text ∧ ']' ∉ text :=
  ⟨fun hmem => absurd (h _ hmem) (by decide), fun hmem => absurd (h _ hmem) (by decide)⟩

theorem leadsToTag_cons_of_ne (hslash : c ≠ '\\') (hopen : c ≠ '[') :
    leadsToTag (c :: rest) = false := by
  simp [leadsToTag, hslash, hopen]

/-- A bracket that begins no tag does not make one of what comes before it. -/
theorem leadsToTag_append_bracket (htag : isTag rest = false) (cs : List Char) :
    leadsToTag (cs ++ '[' :: rest) = leadsToTag cs := by
  induction cs with
  | nil => exact leadsToTag_bracket.trans htag
  | cons c cs ih =>
    have hsettled : Settled ('[' :: cs) ('[' :: rest) := fun _ => rfl
    by_cases hslash : c = '\\'
    · rw [hslash, List.cons_append, leadsToTag_backslash, leadsToTag_backslash, ih]
    by_cases hopen : c = '['
    · rw [hopen, List.cons_append, leadsToTag_bracket, leadsToTag_bracket, hsettled.isTag_append]
    · rw [List.cons_append, leadsToTag_cons_of_ne hslash hopen, leadsToTag_cons_of_ne hslash hopen]

/-- Text around a bracket that begins no tag is escaped by itself. -/
theorem escapeTags_append_bracket (htag : isTag rest = false) (cs : List Char) :
    escapeTags (cs ++ '[' :: rest) = escapeTags cs ++ '[' :: escapeTags rest := by
  induction cs with
  | nil => simp [escapeTags, htag]
  | cons c cs ih =>
    have hsettled : Settled ('[' :: cs) ('[' :: rest) := fun _ => rfl
    simp only [List.cons_append, escapeTags, leadsToTag_append_bracket htag,
      hsettled.isTag_append, ih]
    split
    · rfl
    · split <;> rfl

theorem leadsToTag_eq_false (h : ∀ c ∈ text, isBracket c = false) :
    leadsToTag (text ++ ']' :: rest) = false := by
  induction text with
  | nil => rfl
  | cons c text ih =>
    obtain ⟨hc, htext⟩ := List.forall_mem_cons.mp h
    by_cases hslash : c = '\\'
    · rw [hslash, List.cons_append, leadsToTag_backslash, ih htext]
    · exact leadsToTag_cons_of_ne hslash (ne_open_of_not_isBracket hc)

/-- Up to a closing bracket that comes first nothing is escaped. -/
theorem escapeTags_append_close (h : ∀ c ∈ text, isBracket c = false) :
    escapeTags (text ++ ']' :: rest) = text ++ ']' :: escapeTags rest := by
  induction text with
  | nil => simp [escapeTags]
  | cons c text ih =>
    obtain ⟨hc, htext⟩ := List.forall_mem_cons.mp h
    simp [escapeTags, leadsToTag_eq_false htext, ne_open_of_not_isBracket hc, ih htext]

theorem escapeTags_eq_self (h : '[' ∉ cs) : escapeTags cs = cs := by
  induction cs with
  | nil => rfl
  | cons c cs ih =>
    obtain ⟨hc, hcs⟩ := not_or.mp (List.mem_cons.not.mp h)
    have hleads : leadsToTag cs = false := by
      unfold leadsToTag
      split
      case h_1 hdrop =>
        have hmem : '[' ∈ cs.dropWhile (· == '\\') := by simp [hdrop]
        exact absurd ((List.dropWhile_sublist _).subset hmem) hcs
      case h_2 => rfl
    simp [escapeTags, hleads, Ne.symm hc, ih hcs]

/-- Backslashes before a text that has other characters do not stand at its end. -/
theorem slashesAfter_eq (h : ∃ c ∈ cs, c ≠ '\\') (m n : Nat) :
    slashesAfter m cs = slashesAfter n cs := by
  induction cs generalizing m n with
  | nil => simp at h
  | cons c cs ih =>
    by_cases hslash : c = '\\'
    · subst hslash
      exact ih (by simpa using h) (m + 1) (n + 1)
    · simp [slashesAfter, hslash]

/-- Backslashes at the end are not escaped. -/
theorem slashesAfter_escapeTags (slashes : Nat) (cs : List Char) :
    slashesAfter slashes (escapeTags cs) = slashesAfter slashes cs := by
  induction cs generalizing slashes with
  | nil => rfl
  | cons c cs ih =>
    unfold escapeTags
    split
    case isTrue h =>
      obtain ⟨hc, hleads⟩ := Bool.and_eq_true_iff.mp h
      obtain rfl : c = '\\' := by simpa using hc
      have hother : ∃ c ∈ cs, c ≠ '\\' := by
        by_contra hnone
        have hall : ∀ c ∈ cs, c = '\\' := by simpa using hnone
        have hdrop : cs.dropWhile (· == '\\') = [] :=
          List.dropWhile_eq_nil_iff.mpr fun c hc => by simp [hall c hc]
        exact absurd hleads (by simp [leadsToTag, hdrop])
      exact (ih (slashes + 2)).trans (slashesAfter_eq hother _ _)
    case isFalse =>
      split
      case isTrue h =>
        obtain rfl : c = '[' := by simpa using (Bool.and_eq_true_iff.mp h).1
        exact ih 0
      case isFalse => exact ih _

/-- A tag begins with a character that is part of its name and stays as it is. -/
theorem isTagStart_stays (h : isTagStart c = true) :
    c.toLower = c ∧ Text.isBlank c = false ∧ c ≠ '=' := by
  have hcases : ('a' ≤ c ∧ c ≤ 'z') ∨ c = '#' ∨ c = '/' ∨ c = '@' := by
    simpa [isTagStart, or_assoc] using h
  obtain ⟨hlow, hhigh⟩ | rfl | rfl | rfl := hcases
  · have hlow : 97 ≤ c.toNat := hlow
    have hhigh : c.toNat ≤ 122 := hhigh
    refine ⟨dif_neg ?_, ?_, ?_⟩
    · rintro ⟨-, hupper⟩
      have hupper : c.toNat ≤ 90 := hupper
      omega
    · simp [Text.isBlank, Text.isBlankCode]
      omega
    · rintro rfl
      exact absurd hlow (by decide)
  all_goals decide

theorem tagName_cons (h : isTagStart c = true) (text : List Char) :
    ∃ name, tagName (c :: text) = c :: name := by
  obtain ⟨hlower, hblank, hequals⟩ := isTagStart_stays h
  have hcut : (c :: text).takeWhile (· != '=') = c :: text.takeWhile (· != '=') := by
    simp [hequals]
  obtain ⟨rest, hrest⟩ := @Text.exists_trim_cons (text.takeWhile (· != '=')) c hblank
  exact ⟨rest.map Char.toLower, by rw [tagName, hcut, hrest, List.map_cons, hlower]⟩

/-- A closing tag closes nothing where no tag is open. -/
theorem strayTag?_slash (text : List Char) (pieces : List Piece) :
    strayTag? [] (.tag ('/' :: text) :: pieces) = some ⟨'/' :: text⟩ := by
  obtain ⟨name, hname⟩ := tagName_cons (c := '/') (by decide) text
  have hclose : closeTag [] (Text.trim name) = none := by simp [closeTag]
  simp [strayTag?, hname, hclose]

/-- Any other tag opens. -/
theorem strayTag?_opening (hstart : isTagStart c = true) (hc : c ≠ '/') (text : List Char)
    (pieces : List Piece) : ∃ opened', strayTag? opened (.tag (c :: text) :: pieces)
      = strayTag? opened' pieces := by
  obtain ⟨name, hname⟩ := tagName_cons hstart text
  exact ⟨(c :: name) :: opened, by simp [strayTag?, hname, hc]⟩

section Between

variable {s t : String}

/-- The markup of two escaped texts with ` in ` between them, and of what follows. -/
def between (s t : String) (rest : List Char) : List Char :=
  (escape s).toList ++ (" in ".toList ++ ((escape t).toList ++ rest))

theorem noBracket_gap : ∀ c ∈ " in ".toList, isBracket c = false := by
  simp [isBracket]

theorem noBracket_of_slash (h : text = [] ∨ text = ['\\']) : ∀ c ∈ text, isBracket c = false := by
  rcases h with rfl | rfl <;> simp [isBracket]

theorem strayFrom_second (hrest : ∀ c ∈ rest, isBracket c = false) :
    strayFrom opened slashes (" in ".toList ++ ((escape t).toList ++ rest)) = none := by
  have hsettled : Settled t.toList rest := fun _ => closes_eq_false hrest
  obtain ⟨after, hescape⟩ := @strayFrom_escape opened 0 rest t hsettled rfl
  have hgap : strayFrom opened slashes (" in ".toList ++ ((escape t).toList ++ rest))
      = strayFrom opened 0 ((escape t).toList ++ rest) := by
    have hshown := @strayFrom_char opened
    simp [hshown]
  rw [hgap, hescape]
  exact strayFrom_eq_none (notMem_of_noBracket hrest).1

theorem closes_of_closes_escape (hrest : ∀ c ∈ rest, isBracket c = false)
    (h : closes (" in ".toList ++ ((escape t).toList ++ rest)) = true) : closes t.toList = true := by
  obtain ⟨slash, hslash, hescape⟩ := toList_escape t
  have hnone : ∀ c ∈ slash ++ rest, isBracket c = false :=
    List.forall_mem_append.mpr ⟨noBracket_of_slash hslash, hrest⟩
  rw [closes_append noBracket_gap, hescape, List.append_assoc, closes_escapeTags_append] at h
  by_cases hbracket : ∃ c ∈ t.toList, isBracket c = true
  · rwa [closes_append_of_mem hbracket] at h
  · have htext : ∀ c ∈ t.toList, isBracket c = false := by simpa using hbracket
    rw [closes_append htext, closes_eq_false hnone] at h
    exact absurd h (by decide)

/-- A bracket left open in the first text and closed in the second is read with what stands between
them, and nothing after it closes a tag. -/
theorem between_eq {before name more after : List Char} (hs : s.toList = before ++ '[' :: name)
    (ht : t.toList = more ++ ']' :: after) (hname : ∀ c ∈ name, isBracket c = false)
    (hmore : ∀ c ∈ more, isBracket c = false) (hrest : ∀ c ∈ rest, isBracket c = false) :
    ∃ gap tail, (∀ c ∈ gap, isBracket c = false) ∧ (∀ c ∈ gap.head?, isTagStart c = false)
      ∧ (∀ opened, strayFrom opened 0 tail = none)
      ∧ strayFrom [] 0 (between s t rest)
        = strayFrom [] (slashesAfter 0 before) ('[' :: (name ++ gap ++ ']' :: tail)) := by
  have hopen : isTag name = false := by
    refine Bool.eq_false_iff.mpr fun htag => ?_
    exact absurd (closes_of_isTag htag) (by simp [closes_eq_false hname])
  obtain ⟨slash, hslash, hfirst⟩ := toList_escape s
  obtain ⟨slash', hslash', hsecond⟩ := toList_escape t
  rw [hs, escapeTags_append_bracket hopen, escapeTags_eq_self (notMem_of_noBracket hname).1] at hfirst
  rw [ht, escapeTags_append_close hmore] at hsecond
  refine ⟨slash ++ " in ".toList ++ more, escapeTags after ++ (slash' ++ rest), ?_, ?_, ?_, ?_⟩
  · exact List.forall_mem_append.mpr ⟨List.forall_mem_append.mpr
      ⟨noBracket_of_slash hslash, noBracket_gap⟩, hmore⟩
  · rcases hslash with rfl | rfl <;> simp [isTagStart]
  · intro opened
    have hnone : ∀ c ∈ slash' ++ rest, isBracket c = false :=
      List.forall_mem_append.mpr ⟨noBracket_of_slash hslash', hrest⟩
    have hsettled : Settled after (slash' ++ rest) := fun _ => closes_eq_false hnone
    rw [strayFrom_escapeTags hsettled fun _ => rfl]
    exact strayFrom_eq_none (notMem_of_noBracket hnone).1
  · have hsettled : Settled before ('[' :: (name ++ (slash ++ (" in ".toList ++ (more ++ ']' ::
        (escapeTags after ++ (slash' ++ rest))))))) := fun _ => rfl
    have hbefore := @strayFrom_escapeTags [] 0 before _ hsettled fun _ => rfl
    rw [slashesAfter_escapeTags] at hbefore
    rw [between, hfirst, hsecond]
    simpa using hbefore

/-- Unless it begins a closing tag, that bracket takes nothing away: it is shown, or it begins a tag
that opens. -/
theorem strayFrom_between_shown {before name more after : List Char}
    (hs : s.toList = before ++ '[' :: name) (ht : t.toList = more ++ ']' :: after)
    (hname : ∀ c ∈ name, isBracket c = false) (hmore : ∀ c ∈ more, isBracket c = false)
    (hrest : ∀ c ∈ rest, isBracket c = false)
    (hclosing : slashesAfter 0 before % 2 = 0 → ∀ closing, name ≠ '/' :: closing) :
    strayFrom [] 0 (between s t rest) = none := by
  obtain ⟨gap, tail, hgap, hhead, htail, heq⟩ := between_eq hs ht hname hmore hrest
  have htext : ∀ c ∈ name ++ gap, isBracket c = false := List.forall_mem_append.mpr ⟨hname, hgap⟩
  rw [heq]
  by_cases hread : isTag (name ++ gap ++ ']' :: tail) = true ∧ slashesAfter 0 before % 2 = 0
  swap
  · -- the bracket is shown, and so is what comes after it
    have hodd : isTag (name ++ gap ++ ']' :: tail) = true → slashesAfter 0 before % 2 = 1 :=
      fun htag => Nat.mod_two_ne_zero.mp (not_and.mp hread htag)
    rw [strayFrom_bracket hodd]
    obtain ⟨slashes, happend⟩ := @strayFrom_append [] 0 _ (']' :: tail)
      (notMem_of_noBracket htext).1
    rw [happend, strayFrom_char (by decide) (by decide), htail]
  obtain ⟨htag, heven⟩ := hread
  rw [strayFrom_tag htag (notMem_of_noBracket htext).2 heven]
  cases name with
  | nil =>
    -- the bracket is followed by the space between the texts
    cases gap with
    | nil => exact absurd htag (by simp [isTag, isTagStart])
    | cons c gap => exact absurd htag (by simp [isTag, hhead c rfl])
  | cons c name =>
    have hslash : c ≠ '/' := by
      rintro rfl
      exact hclosing heven name rfl
    have hstart : isTagStart c = true := (Bool.and_eq_true_iff.mp htag).1
    obtain ⟨opened, hopening⟩ := @strayTag?_opening [] c hstart hslash (name ++ gap)
      (piecesFrom 0 none tail)
    exact hopening.trans (htail opened)

/-- **Two escaped texts hold a tag that closes nothing iff a closing tag begins in the first and ends
in the second.** -/
theorem strayFrom_between_iff (hrest : ∀ c ∈ rest, isBracket c = false) :
    strayFrom [] 0 (between s t rest) = none ↔ ¬ ClosesBetween s t := by
  constructor
  · rintro hnone ⟨before, name, more, after, hs, ht, hname, hmore, heven⟩
    have hslash : ∀ c ∈ '/' :: name, isBracket c = false :=
      List.forall_mem_cons.mpr ⟨by decide, hname⟩
    obtain ⟨gap, tail, hgap, -, -, heq⟩ := between_eq hs ht hslash hmore hrest
    have htext : ∀ c ∈ name ++ gap, isBracket c = false := List.forall_mem_append.mpr ⟨hname, hgap⟩
    have hclose : ']' ∉ '/' :: (name ++ gap) := by
      simpa using (notMem_of_noBracket htext).2
    have hstray := (strayFrom_tag (@isTag_cons '/' _ tail (by decide) htext) hclose heven).trans
      (strayTag?_slash (name ++ gap) _)
    rw [heq] at hnone
    exact absurd (hstray.symm.trans hnone) (by simp)
  · intro hclosed
    by_cases hleft : hangs s.toList = true ∧
        closes (" in ".toList ++ ((escape t).toList ++ rest)) = true
    swap
    · -- nothing is left open, or nothing closes it
      have hsettled : Settled s.toList (" in ".toList ++ ((escape t).toList ++ rest)) := by
        intro hhangs
        simpa [hhangs] using hleft
      obtain ⟨after, hescape⟩ := @strayFrom_escape [] 0 _ s hsettled rfl
      exact hescape.trans (strayFrom_second hrest)
    obtain ⟨before, name, hs, hname⟩ := exists_append_of_hangs hleft.1
    obtain ⟨more, after, ht, hmore⟩ := exists_append_of_closes (closes_of_closes_escape hrest hleft.2)
    refine strayFrom_between_shown hs ht hname hmore hrest fun heven closing heq => ?_
    rw [heq] at hs hname
    exact hclosed ⟨before, closing, more, after, hs, ht, (List.forall_mem_cons.mp hname).2, hmore,
      heven⟩

end Between

/-! ## Styles -/

theorem isTrimmed_of_letters (h : ∀ c ∈ text, isTagStart c = true) : Text.IsTrimmed text :=
  ⟨fun c hc => (isTagStart_stays (h c (List.mem_of_mem_head? hc))).2.1,
    fun c hc => (isTagStart_stays (h c (List.mem_of_mem_getLast? hc))).2.1⟩

theorem tagName_eq_self (h : ∀ c ∈ text, isTagStart c = true) : tagName text = text := by
  have hcut : text.takeWhile (· != '=') = text :=
    List.takeWhile_eq_self_iff.mpr fun c hc => by simpa using (isTagStart_stays (h c hc)).2.2
  have hlower : text.map Char.toLower = text.map id :=
    List.map_congr_left fun c hc => (isTagStart_stays (h c hc)).1
  rw [tagName, hcut, (isTrimmed_of_letters h).trim_eq, hlower, List.map_id]

/-- The name of a style: small letters only. -/
structure IsStyle (name : List Char) : Prop where
  nonempty : name ≠ []
  letters : ∀ c ∈ name, isTagStart c = true ∧ c ≠ '/'

namespace IsStyle

variable {name : List Char}

theorem tagStart (h : IsStyle name) : ∀ c ∈ name, isTagStart c = true :=
  fun c hc => (h.letters c hc).1

theorem noBracket (h : IsStyle name) : ∀ c ∈ name, isBracket c = false :=
  fun c hc => isBracket_of_isTagStart (h.tagStart c hc)

/-- The tag of a style opens it. -/
theorem strayFrom_opens (h : IsStyle name) (opened : List (List Char)) (rest : List Char) :
    strayFrom opened 0 ('[' :: (name ++ ']' :: rest)) = strayFrom (name :: opened) 0 rest := by
  cases name with
  | nil => exact absurd rfl h.nonempty
  | cons c name =>
    obtain ⟨hc, hslash⟩ := h.letters c (by simp)
    have htag := @isTag_cons c name rest hc (List.forall_mem_cons.mp h.noBracket).2
    rw [strayFrom_tag htag (notMem_of_noBracket h.noBracket).2 rfl]
    simp [strayTag?, tagName_eq_self h.tagStart, hslash, strayFrom]

/-- Its closing tag closes it, unless a backslash makes text of the tag. -/
theorem strayFrom_closes (h : IsStyle name) (opened : List (List Char)) (slashes : Nat)
    (rest : List Char) : ∃ opened', strayFrom (name :: opened) slashes
      ('[' :: '/' :: (name ++ ']' :: rest)) = strayFrom opened' 0 rest := by
  have hslash : ∀ c ∈ '/' :: name, isTagStart c = true :=
    List.forall_mem_cons.mpr ⟨by decide, h.tagStart⟩
  have hplain : ∀ c ∈ '/' :: name, isBracket c = false :=
    fun c hc => isBracket_of_isTagStart (hslash c hc)
  rcases Nat.mod_two_eq_zero_or_one slashes with heven | hodd
  · have htag := @isTag_cons '/' name rest (by decide) h.noBracket
    have hclose : closeTag (name :: opened) (Text.trim name) = some opened := by
      simp [closeTag, (isTrimmed_of_letters h.tagStart).trim_eq, h.nonempty]
    have hread : strayFrom (name :: opened) slashes ('[' :: ('/' :: name ++ ']' :: rest))
        = strayTag? (name :: opened) (.tag ('/' :: name) :: piecesFrom 0 none rest) :=
      strayFrom_tag htag (notMem_of_noBracket hplain).2 heven
    refine ⟨opened, hread.trans ?_⟩
    simp [strayTag?, tagName_eq_self hslash, hclose, strayFrom]
  · obtain ⟨after, hshown⟩ := @strayFrom_append (name :: opened) 0 ('/' :: name) (']' :: rest)
      (notMem_of_noBracket hplain).1
    refine ⟨name :: opened, (strayFrom_bracket fun _ => hodd).trans (hshown.trans ?_)⟩
    exact strayFrom_char (by decide) (by decide)

end IsStyle

/-! ## Markup that can be shown -/

/-- Every tag that closes has one to close. -/
def Showable (markup : String) : Prop := strayFrom [] 0 markup.toList = none

theorem showable_iff {markup : String} : Showable markup ↔ ∃ cs, plain? markup = .ok cs := by
  have hpieces : strayFrom [] 0 markup.toList = strayTag? [] (pieces markup.toList) := rfl
  rw [Showable, hpieces, plain?]
  cases strayTag? [] (pieces markup.toList) <;> simp

end ModePolicy.Console.Markup
