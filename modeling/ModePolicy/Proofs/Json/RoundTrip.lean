import ModePolicy.Json.Printer
import ModePolicy.Json.Reader
import ModePolicy.Proofs.Json.Values
import ModePolicy.Proofs.Outcome

/-!
# Reading back what was written

> `parse_pretty`: the text of a value is read back as that value.

The values are those that settings are made of (`Textual`): texts, truth values, null, and lists and
objects of them, an object without a name that is repeated. Numbers are left out, since no setting
is one and the text of a number can be read back only if what follows it is no digit.

Each part of the reader has one lemma that says what it takes from the front of a text, whatever
follows: `readString_stringText` for a string, `readValue_render` for a value. The steps of the
reader are bounded, so these lemmas carry a bound as well: the length of what was written is enough.
-/

namespace ModePolicy

/-! ## Hexadecimal digits -/

theorem Text.hexValue_hexDigit : ∀ k < 16, Text.hexValue? (Text.hexDigit k) = some k := by decide

/-- The last digits of a number are read as what they leave of it. -/
theorem Text.hexNumber_hexDigits (width : Nat) :
    ∀ n, Text.hexNumber? (Text.hexDigits n width) = some (n % 16 ^ width) := by
  induction width with
  | zero => intro n; simp [Text.hexDigits, Text.hexNumber?, Nat.mod_one]
  | succ width ih =>
    intro n
    have hdigit := Text.hexValue_hexDigit (n % 16) (Nat.mod_lt _ (by omega))
    have hsplit : n % 16 ^ (width + 1) = n / 16 % 16 ^ width * 16 + n % 16 := by
      rw [Nat.pow_succ', Nat.mod_mul]
      omega
    have ih := ih (n / 16)
    unfold Text.hexNumber? at ih
    unfold Text.hexDigits Text.hexNumber?
    rw [List.foldl_append, ih, hsplit]
    simp [hdigit]

namespace Json

/-! ## Strings -/

section Strings

variable {start cs rest tail : List Char}

/-- An escape of one letter. -/
theorem readString_escape {c e : Char} (hc : c ≠ 'u') (he : unescape? c = some e)
    (h : readString start tail = .ok (cs, rest)) :
    readString start ('\\' :: c :: tail) = .ok (e :: cs, rest) := by
  rw [readString]
  · simp [he, h]
  all_goals simp [hc]

/-- An escape by a code that is no half of a surrogate pair. -/
theorem readString_code {a b c d : Char} {n : Nat} (hn : Text.hexNumber? [a, b, c, d] = some n)
    (hlow : n < 0xD800) (hne : tail ≠ []) (h : readString start tail = .ok (cs, rest)) :
    readString start ('\\' :: 'u' :: a :: b :: c :: d :: tail) = .ok (Char.ofNat n :: cs, rest) := by
  have hhigh : isHighSurrogate n = false := by simp [isHighSurrogate]; omega
  have hchar : charOfCode n = Char.ofNat n := by rw [charOfCode, if_neg (by simp; omega)]
  -- a second escape by code is looked at as well, but only to complete a surrogate pair
  by_cases hpair : ∃ e f g k y ys, tail = '\\' :: 'u' :: e :: f :: g :: k :: y :: ys
  · obtain ⟨e, f, g, k, y, ys, rfl⟩ := hpair
    rw [readString]
    simp [hn, hhigh, hchar, h]
  · obtain ⟨x, xs, rfl⟩ := List.exists_cons_of_ne_nil hne
    rw [readString]
    · simp [hn, hchar, h]
    · intro e f g k y ys hx hxs
      exact hpair ⟨e, f, g, k, y, ys, by rw [hx, hxs]⟩

/-- A character that stands for itself. -/
theorem readString_plain {c : Char} (hslash : c ≠ '\\') (hquote : c ≠ '\x22')
    (hcontrol : 0x20 ≤ c.toNat) (h : readString start tail = .ok (cs, rest)) :
    readString start (c :: tail) = .ok (c :: cs, rest) := by
  have hcode : ¬ c.toNat < 0x20 := by omega
  rw [readString]
  · simp [hquote, hcode, h]
  all_goals simp [hslash]

/-- What is written for a character is read as that character. -/
theorem readString_stringChar {c : Char} (hne : tail ≠ [])
    (h : readString start tail = .ok (cs, rest)) :
    readString start (stringChar c ++ tail) = .ok (c :: cs, rest) := by
  unfold stringChar
  split_ifs with h₁ h₂ h₃ h₄ h₅ h₆ h₇
  · rcases (by simpa using h₁ : c = Text.quotationMark ∨ c = '\\') with rfl | rfl
    · exact readString_escape (by decide) (by decide) h
    · exact readString_escape (by decide) (by decide) h
  · rw [beq_iff_eq.mp h₂]
    exact readString_escape (by decide) (by decide) h
  · rw [beq_iff_eq.mp h₃]
    exact readString_escape (by decide) (by decide) h
  · rw [beq_iff_eq.mp h₄]
    exact readString_escape (by decide) (by decide) h
  · rw [beq_iff_eq.mp h₅]
    exact readString_escape (by decide) (by decide) h
  · rw [beq_iff_eq.mp h₆]
    exact readString_escape (by decide) (by decide) h
  · -- a control character without a short escape; its code is no half of a surrogate pair
    have hn : Text.hexNumber? (Text.hexDigits c.toNat 4) = some c.toNat := by
      rw [Text.hexNumber_hexDigits, Nat.mod_eq_of_lt (by omega)]
    have hread := readString_code hn (by omega) hne h
    rwa [Char.ofNat_toNat] at hread
  · have hc : c ≠ Text.quotationMark ∧ c ≠ '\\' := by simpa using h₁
    exact readString_plain hc.2 hc.1 (by omega) h

/-- **A string is read back**, up to its closing quotation mark. -/
theorem readString_chars (start rest cs : List Char) :
    readString start (cs.flatMap stringChar ++ '\x22' :: rest) = .ok (cs, rest) := by
  induction cs with
  | nil => rfl
  | cons c cs ih =>
    rw [List.flatMap_cons, List.append_assoc]
    exact readString_stringChar (by simp) ih

end Strings

/-! ## White space -/

/-- Nothing is skipped before a character that is no white space. -/
theorem skipSpace_cons {c : Char} {cs : List Char} (hc : isSpace c = false) :
    skipSpace (c :: cs) = c :: cs := by
  unfold skipSpace
  rw [List.dropWhile_cons_of_neg (by simp [hc])]

/-- A new line is skipped. -/
theorem skipSpace_newLine {level : Nat} {c : Char} {cs : List Char} (hc : isSpace c = false) :
    skipSpace (newLine level ++ c :: cs) = c :: cs := by
  have hspaces : ∀ d ∈ newLine level, isSpace d = true := by
    intro d hd
    rcases List.mem_cons.mp hd with rfl | hd
    · rfl
    · rw [(List.mem_replicate.mp hd).2]
      rfl
  unfold skipSpace
  rw [List.dropWhile_append_of_pos hspaces]
  exact skipSpace_cons hc

/-! ## Values -/

mutual

/-- The value is made of texts, truth values and null, and no object in it repeats a name. -/
def Textual : Json → Prop
  | .null => True
  | .bool _ => True
  | .int _ => False
  | .float _ => False
  | .str _ => True
  | .arr items => TextualItems items
  | .obj fields => (Fields.names fields).Nodup ∧ TextualFields fields

/-- Every item of the list is. -/
def TextualItems : List Json → Prop
  | [] => True
  | x :: xs => x.Textual ∧ TextualItems xs

/-- Every value of the fields is. -/
def TextualFields : List (String × Json) → Prop
  | [] => True
  | (_, x) :: xs => x.Textual ∧ TextualFields xs

end

/-- What is written for a value starts with a character that is no white space, ends no list and is
no byte order mark. -/
theorem render_head (level : Nat) {v : Json} (hv : v.Textual) :
    ∃ c cs, render level v = c :: cs ∧ isSpace c = false ∧ c ≠ ']' ∧ c ≠ '\uFEFF' := by
  cases v with
  | null => exact ⟨_, _, rfl, by decide⟩
  | bool b => cases b <;> exact ⟨_, _, rfl, by decide⟩
  | int n => exact hv.elim
  | float x => exact hv.elim
  | str s => exact ⟨_, _, rfl, by decide⟩
  | arr items =>
    unfold render block
    split <;> exact ⟨_, _, rfl, by decide⟩
  | obj fields =>
    unfold render block
    split <;> exact ⟨_, _, rfl, by decide⟩

section Steps

variable {steps : Nat} {cs rest after : List Char} {c : Char} {v : Json} {items : List Json}
  {name : String} {fields : List (String × Json)}

theorem stringText_append (chars tail : List Char) :
    stringText chars ++ tail = '\x22' :: (chars.flatMap stringChar ++ '\x22' :: tail) := by
  simp [stringText, Text.quotationMark]

theorem readValue_str (steps : Nat) (s : String) (rest : List Char) :
    readValue (steps + 1) (stringText s.toList ++ rest) = .ok (.str s, rest) := by
  rw [stringText_append]
  unfold readValue
  simp [readString_chars]

/-- A list that is not empty. -/
theorem readValue_arr (hskip : skipSpace cs = c :: after) (hc : c ≠ ']')
    (h : readItems steps (c :: after) = .ok (items, rest)) :
    readValue (steps + 1) ('[' :: cs) = .ok (.arr items, rest) := by
  unfold readValue
  simp only [hskip]
  split
  · rename_i heq
    exact absurd (List.cons.inj heq).1 hc
  · rename_i heq
    simp [h]

/-- An object that is not empty. -/
theorem readValue_obj (hskip : skipSpace cs = c :: after) (hc : c ≠ '\x7d')
    (h : readFields steps (c :: after) = .ok (fields, rest)) :
    readValue (steps + 1) ('\x7b' :: cs) = .ok (.obj (Fields.ofList fields), rest) := by
  unfold readValue
  simp only [hskip]
  split
  · rename_i heq
    exact absurd (List.cons.inj heq).1 hc
  · simp [h]

/-- The last item of a list. -/
theorem readItems_last (hv : readValue steps cs = .ok (v, after))
    (hskip : skipSpace after = ']' :: rest) :
    readItems (steps + 1) cs = .ok ([v], rest) := by
  unfold readItems
  simp [hv, hskip]

/-- An item before another one. -/
theorem readItems_next (hv : readValue steps cs = .ok (v, ',' :: after))
    (h : readItems steps (skipSpace after) = .ok (items, rest)) :
    readItems (steps + 1) cs = .ok (v :: items, rest) := by
  have hcomma : skipSpace (',' :: after) = ',' :: after := skipSpace_cons rfl
  unfold readItems
  simp [hv, hcomma, h]

/-- The last field of an object. -/
theorem readFields_last (hspace : skipSpace (' ' :: cs) = cs)
    (hv : readValue steps cs = .ok (v, after)) (hskip : skipSpace after = '\x7d' :: rest) :
    readFields (steps + 1) (stringText name.toList ++ ':' :: ' ' :: cs) = .ok ([(name, v)], rest) := by
  have hcolon : skipSpace (':' :: ' ' :: cs) = ':' :: ' ' :: cs := skipSpace_cons rfl
  unfold readFields
  simp [stringText_append, readString_chars, hcolon, hspace, hv, hskip]

/-- A field before another one. -/
theorem readFields_next (hspace : skipSpace (' ' :: cs) = cs)
    (hv : readValue steps cs = .ok (v, ',' :: after))
    (h : readFields steps (skipSpace after) = .ok (fields, rest)) :
    readFields (steps + 1) (stringText name.toList ++ ':' :: ' ' :: cs) =
      .ok ((name, v) :: fields, rest) := by
  have hcolon : skipSpace (':' :: ' ' :: cs) = ':' :: ' ' :: cs := skipSpace_cons rfl
  have hcomma : skipSpace (',' :: after) = ',' :: after := skipSpace_cons rfl
  unfold readFields
  simp [stringText_append, readString_chars, hcolon, hspace, hv, hcomma, h]

end Steps

/-! ## Members of lists and objects -/

/-- The items of a list as they stand in its text, from the first to the last. -/
def itemsText (level : Nat) (items : List Json) : List Char :=
  joinWith (',' :: newLine level) (renderItems level items)

/-- The fields of an object as they stand in its text. -/
def fieldsText (level : Nat) (fields : List (String × Json)) : List Char :=
  joinWith (',' :: newLine level) (renderFields level fields)

theorem render_arr (level : Nat) (x : Json) (xs : List Json) :
    render level (.arr (x :: xs)) =
      '[' :: (newLine (level + 1) ++ (itemsText (level + 1) (x :: xs) ++ (newLine level ++ [']']))) := by
  simp [render, block, renderItems, itemsText]

theorem render_obj (level : Nat) (f : String × Json) (fs : List (String × Json)) :
    render level (.obj (f :: fs)) =
      '\x7b' :: (newLine (level + 1) ++
        (fieldsText (level + 1) (f :: fs) ++ (newLine level ++ ['\x7d']))) := by
  simp [render, block, renderFields, fieldsText]

theorem itemsText_cons (level : Nat) (x y : Json) (ys : List Json) :
    itemsText level (x :: y :: ys) =
      render level x ++ ',' :: (newLine level ++ itemsText level (y :: ys)) := by
  simp [itemsText, renderItems, joinWith]

theorem fieldsText_singleton (level : Nat) (name : String) (x : Json) :
    fieldsText level [(name, x)] = stringText name.toList ++ ':' :: ' ' :: render level x := rfl

theorem fieldsText_cons (level : Nat) (name : String) (x : Json) (f : String × Json)
    (fs : List (String × Json)) :
    fieldsText level ((name, x) :: f :: fs) =
      stringText name.toList ++ ':' :: ' ' ::
        (render level x ++ ',' :: (newLine level ++ fieldsText level (f :: fs))) := by
  simp [fieldsText, renderFields, joinWith]

/-- The items after a new line start the rest of the text. -/
theorem itemsText_head (level : Nat) {x : Json} (hx : x.Textual) (xs : List Json) :
    ∃ c cs, itemsText level (x :: xs) = c :: cs ∧ isSpace c = false ∧ c ≠ ']' := by
  obtain ⟨c, cs, hcs, hc, hend, -⟩ := render_head level hx
  cases xs with
  | nil => exact ⟨c, cs, hcs, hc, hend⟩
  | cons y ys => exact ⟨c, _, by rw [itemsText_cons, hcs]; rfl, hc, hend⟩

theorem fieldsText_head (level : Nat) (f : String × Json) (fs : List (String × Json)) :
    ∃ cs, fieldsText level (f :: fs) = '\x22' :: cs := by
  cases fs with
  | nil => exact ⟨_, rfl⟩
  | cons g gs => exact ⟨_, fieldsText_cons level f.1 f.2 g gs⟩

/-- What is written for a value starts the rest of a text, after white space. -/
theorem skipSpace_render (level : Nat) {v : Json} (hv : v.Textual) (tail : List Char) :
    skipSpace (' ' :: (render level v ++ tail)) = render level v ++ tail := by
  obtain ⟨c, cs, hcs, hc, -⟩ := render_head level hv
  rw [hcs]
  exact skipSpace_cons hc

mutual

/-- **A value is read back** from the front of a text. -/
theorem readValue_render (v : Json) (hv : v.Textual) {level steps : Nat} {rest : List Char}
    (h : (render level v).length < steps) :
    readValue steps (render level v ++ rest) = .ok (v, rest) := by
  obtain ⟨n, rfl⟩ : ∃ n, steps = n + 1 := Nat.exists_eq_add_one.mpr (by omega)
  -- one step is spent on the value; its members are shorter than its text by the brackets at least,
  -- which pays for the step that each list of members takes
  match v, hv with
  | .null, _ => rfl
  | .bool true, _ => rfl
  | .bool false, _ => rfl
  | .str s, _ => exact readValue_str n s rest
  | .arr [], _ => rfl
  | .arr (x :: xs), hv =>
    obtain ⟨c, cs, hcs, hc, hne⟩ := itemsText_head (level + 1) hv.1 xs
    rw [render_arr] at h ⊢
    simp only [List.length_cons, List.length_append] at h
    have hread := readItems_items x xs hv level rest
      (by omega : (itemsText (level + 1) (x :: xs)).length + 1 < n)
    simp only [List.cons_append, List.append_assoc]
    rw [hcs, List.cons_append] at hread ⊢
    exact readValue_arr (skipSpace_newLine hc) hne hread
  | .obj [], _ => rfl
  | .obj (f :: fs), hv =>
    obtain ⟨cs, hcs⟩ := fieldsText_head (level + 1) f fs
    rw [render_obj] at h ⊢
    simp only [List.length_cons, List.length_append] at h
    have hread := readFields_fields f fs hv.2 level rest
      (by omega : (fieldsText (level + 1) (f :: fs)).length + 1 < n)
    simp only [List.cons_append, List.append_assoc]
    rw [hcs, List.cons_append] at hread ⊢
    refine (readValue_obj (skipSpace_newLine rfl) (by decide) hread).trans ?_
    rw [Fields.ofList_of_nodup hv.1]
termination_by steps

/-- The items of a list are read back, up to its closing bracket. -/
theorem readItems_items (x : Json) (xs : List Json) (hitems : TextualItems (x :: xs)) (outer : Nat)
    (rest : List Char) {level steps : Nat} (h : (itemsText level (x :: xs)).length + 1 < steps) :
    readItems steps (itemsText level (x :: xs) ++ (newLine outer ++ ']' :: rest)) =
      .ok (x :: xs, rest) := by
  obtain ⟨n, rfl⟩ : ∃ n, steps = n + 1 := Nat.exists_eq_add_one.mpr (by omega)
  match xs, hitems with
  | [], hx =>
    have hread : readValue n (render level x ++ (newLine outer ++ ']' :: rest)) =
        .ok (x, newLine outer ++ ']' :: rest) :=
      readValue_render x hx.1 (Nat.succ_lt_succ_iff.mp h)
    exact readItems_last hread (skipSpace_newLine rfl)
  | y :: ys, hx =>
    obtain ⟨c, cs, hcs, hc, -⟩ := itemsText_head level hx.2.1 ys
    rw [itemsText_cons] at h ⊢
    simp only [List.length_append, List.length_cons] at h
    have hlater := readItems_items y ys hx.2 outer rest
      (by omega : (itemsText level (y :: ys)).length + 1 < n)
    simp only [List.cons_append, List.append_assoc]
    refine readItems_next (readValue_render x hx.1 (by omega)) ?_
    rw [hcs, List.cons_append] at hlater ⊢
    rw [skipSpace_newLine hc]
    exact hlater
termination_by steps

/-- The fields of an object are read back, up to its closing brace. -/
theorem readFields_fields (f : String × Json) (fs : List (String × Json))
    (hfields : TextualFields (f :: fs)) (outer : Nat) (rest : List Char) {level steps : Nat}
    (h : (fieldsText level (f :: fs)).length + 1 < steps) :
    readFields steps (fieldsText level (f :: fs) ++ (newLine outer ++ '\x7d' :: rest)) =
      .ok (f :: fs, rest) := by
  obtain ⟨n, rfl⟩ : ∃ n, steps = n + 1 := Nat.exists_eq_add_one.mpr (by omega)
  match f, fs, hfields with
  | (name, x), [], hx =>
    rw [fieldsText_singleton] at h ⊢
    simp only [List.length_append, List.length_cons] at h
    have hread : readValue n (render level x ++ (newLine outer ++ '\x7d' :: rest)) =
        .ok (x, newLine outer ++ '\x7d' :: rest) := readValue_render x hx.1 (by omega)
    simp only [List.cons_append, List.append_assoc]
    exact readFields_last (skipSpace_render level hx.1 _) hread (skipSpace_newLine rfl)
  | (name, x), g :: gs, hx =>
    obtain ⟨cs, hcs⟩ := fieldsText_head level g gs
    rw [fieldsText_cons] at h ⊢
    simp only [List.length_append, List.length_cons] at h
    have hlater := readFields_fields g gs hx.2 outer rest
      (by omega : (fieldsText level (g :: gs)).length + 1 < n)
    simp only [List.cons_append, List.append_assoc]
    refine readFields_next (skipSpace_render level hx.1 _) (readValue_render x hx.1 (by omega)) ?_
    rw [hcs, List.cons_append] at hlater ⊢
    rw [skipSpace_newLine rfl]
    exact hlater
termination_by steps

end

/-- **The text of a value is read back as that value.** -/
theorem parse_pretty (v : Json) (hv : v.Textual) : parse v.pretty = .ok v := by
  obtain ⟨c, cs, hcs, hc, -, hmark⟩ := render_head 0 hv
  have hread : readValue (2 * (render 0 v).length + 1) (render 0 v ++ []) = .ok (v, []) :=
    readValue_render v hv (by omega)
  rw [List.append_nil] at hread
  have hdocument : readDocument (render 0 v) = .ok v := by
    rw [hcs] at hread ⊢
    unfold readDocument
    split
    · rename_i heq
      exact absurd (List.cons.inj heq).1 hmark
    · rw [skipSpace_cons hc, hread]
      rfl
  unfold parse pretty
  rw [String.toList_ofList, hdocument]
  rfl

end Json

end ModePolicy
