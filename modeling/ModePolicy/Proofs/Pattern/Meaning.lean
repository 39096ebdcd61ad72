import ModePolicy.Proofs.Pattern.Groupless

/-!
# What an expression matches

The matcher tries the ways of a match in an order. Whether it finds one does not depend on that order:
an expression relates each place of a text to the places where a match that begins there may end
(`Pattern.Spans`), and

> `Pattern.run_finds`: a match is found exactly if the rest of it succeeds at one of these places;
> `Regex.find?_isSome_iff`: a search finds something exactly if some place of the text is related to
> another.

This is so for expressions without groups in which every way is tried (`Pattern.triesAll`). An atomic
part and a possessive repetition keep their first way only, and the relation does not tell which one
that is.

The rounds of a repetition are bounded by what is left of the text, and a round that stays where it is
must be the last. Both ways to repeat have that in common (`Pattern.IsLoop`), so that no end of a
repetition is missed is shown once (`Pattern.IsLoop.finds`): rounds that stay in place may be left
out.
-/

namespace ModePolicy

/-- The state at a place where no group is set. -/
abbrev Cursor.unmarked (c : Cursor) : MatchState := { cursor := c }

/-- A match was found. -/
def Outcome.Found : Outcome → Prop
  | .ok _ => True
  | .error _ => False

/-- The matching tries all places that the relation allows: it finds a match exactly if the rest of
the match is found from one of them. -/
def Matching.Finds (m : Matching) (R : Cursor → Cursor → Prop) : Prop :=
  ∀ (c : Cursor) (k : Continuation), k.Unmarking →
    (Outcome.Found (m c.unmarked k) ↔ ∃ d, R c d ∧ Outcome.Found (k d.unmarked))

@[simp] theorem MatchState.not_found_fail (s : MatchState) : ¬ Outcome.Found s.fail := id

/-- A second attempt is made where the first one was. -/
theorem MatchState.orElse_found {c : Cursor} {moveBack : Bool} {first : Outcome}
    {second : Continuation} (hfirst : Outcome.Unmarked first) :
    Outcome.Found (c.unmarked.orElse moveBack first second) ↔
      Outcome.Found first ∨ Outcome.Found (second c.unmarked) := by
  cases first with
  | ok s => simp [orElse, Outcome.Found]
  | error left =>
    have hleft : Marks.givenUp moveBack [] left = [] := Marks.givenUp_nil rfl hfirst
    simp [orElse, Outcome.Found, hleft]

/-- The second place is in the same text, the same or further on. -/
def Cursor.Leads (c d : Cursor) : Prop :=
  ∃ u, c.after = u ++ d.after ∧ d.before = u.reverse ++ c.before

namespace Cursor.Leads

variable {c d e : Cursor}

theorem refl (c : Cursor) : c.Leads c := ⟨[], rfl, rfl⟩

theorem trans (h : c.Leads d) (h' : d.Leads e) : c.Leads e := by
  obtain ⟨u, hafter, hbefore⟩ := h
  obtain ⟨v, hafter', hbefore'⟩ := h'
  exact ⟨u ++ v, by simp [hafter, hafter'], by simp [hbefore, hbefore']⟩

theorem eq_or_shorter (h : c.Leads d) : d = c ∨ d.after.length < c.after.length := by
  obtain ⟨u, hafter, hbefore⟩ := h
  obtain ⟨before, after⟩ := c
  obtain ⟨before', after'⟩ := d
  cases u with
  | nil =>
    obtain rfl : after = after' := hafter
    obtain rfl : before' = before := hbefore
    exact Or.inl rfl
  | cons x u =>
    obtain rfl : after = x :: u ++ after' := hafter
    exact Or.inr (by simp)

end Cursor.Leads

namespace Matching.Finds

variable {m m' : Matching} {R S : Cursor → Cursor → Prop}

/-- The first way is found exactly if there is any. -/
theorem firstWay (h : m.Finds R) (c : Cursor) :
    Outcome.Found (Pattern.firstWay m c.unmarked) ↔ ∃ d, R c d := by
  have hway : Outcome.Found (Pattern.firstWay m c.unmarked) ↔ ∃ d, R c d ∧ True :=
    h c .ok fun _ hs => hs
  simpa using hway

/-- One matching after another finds the places that lie behind both. -/
theorem andThen (h : m.Finds R) (h' : m'.Finds S) (hunmarking : m'.Unmarking) :
    Matching.Finds (fun s k => m s fun t => m' t k) fun c d => ∃ e, R c e ∧ S e d := by
  intro c k hk
  have hrest : Continuation.Unmarking fun t => m' t k := fun t ht => hunmarking t k ht hk
  rw [h c _ hrest]
  simp only [h' _ k hk]
  constructor
  · intro hfound
    obtain ⟨e, he, d, hd, hfound⟩ := hfound
    exact ⟨d, ⟨e, he, hd⟩, hfound⟩
  · intro hfound
    obtain ⟨d, ⟨e, he, hd⟩, hfound⟩ := hfound
    exact ⟨e, he, d, hd, hfound⟩

end Matching.Finds

namespace Pattern

/-! ## The relation -/

/-- A number of rounds, each from where the one before has ended. -/
def Rounds (R : Cursor → Cursor → Prop) : Nat → Cursor → Cursor → Prop
  | 0, c, d => d = c
  | n + 1, c, d => ∃ e, R c e ∧ Rounds R n e d

/-- The next character passes a test, and the second place is behind it. -/
def ReadsOne (p : Char → Bool) (c d : Cursor) : Prop :=
  ∃ x rest, c.after = x :: rest ∧ p x = true ∧ d = ⟨x :: c.before, rest⟩

/-- A match that begins at the first place may end at the second. Groups count as unset. -/
def Spans : Pattern → Flags → Cursor → Cursor → Prop
  | .empty, _ => fun c d => d = c
  | .never, _ => fun _ _ => False
  | .code n, f =>
    ReadsOne fun x => if f.ignoreCase then (f.variants x.toNat).contains n else x.toNat == n
  | .any, f => ReadsOne fun x => f.dotAll || x != '\n'
  | .oneOf negated items, f => ReadsOne fun x => items.any (·.holds f x.toNat) != negated
  | .anchor a, f => fun c d => a.holds f c = true ∧ d = c
  | .seq p q, f => fun c d => ∃ e, p.Spans f c e ∧ q.Spans f e d
  | .alt p q, f => fun c d => p.Spans f c d ∨ q.Spans f c d
  | .repeated least more _ body, f => fun c d =>
    ∃ n, (∀ most ∈ more, n ≤ most) ∧ Rounds (body.Spans f) (least + n) c d
  | .capture _ body, f => body.Spans f
  | .flagged on off body, f => body.Spans (f.inside on off)
  | .atomic body, f => body.Spans f
  | .again _, _ => fun _ _ => False
  | .ahead negated body, f => fun c d => d = c ∧ ((∃ e, body.Spans f c e) ↔ negated = false)
  | .behind negated width body, f => fun c d =>
    d = c ∧ ((∃ b e, c.back? width = some b ∧ body.Spans f b e) ↔ negated = false)
  | .ifGroup _ _ no, f => no.Spans f

/-- The relation leads onward, or stays. -/
def Onward (R : Cursor → Cursor → Prop) : Prop := ∀ c d, R c d → c.Leads d

theorem readsOne_onward (p : Char → Bool) : Onward (ReadsOne p) := by
  intro c d hd
  obtain ⟨x, rest, hafter, -, rfl⟩ := hd
  exact ⟨[x], hafter, rfl⟩

/-- Every way of the expression is tried, as far as that is needed: no part keeps its first way. -/
def triesAll : Pattern → Bool
  | .atomic _ | .repeated _ _ .possessive _ => false
  | .seq p q | .alt p q | .ifGroup _ p q => p.triesAll && q.triesAll
  | .repeated _ _ _ body | .capture _ body | .flagged _ _ body => body.triesAll
  | .ahead _ body | .behind _ _ body => body.triesAll
  | _ => true

section Rounds

variable {R : Cursor → Cursor → Prop}

theorem rounds_onward (h : Onward R) (n : Nat) : Onward (Rounds R n) := by
  induction n with
  | zero =>
    intro c d hd
    obtain rfl : d = c := hd
    exact Cursor.Leads.refl d
  | succ n ih =>
    intro c d hd
    obtain ⟨e, he, hd⟩ := hd
    exact (h c e he).trans (ih e d hd)

/-- Some rounds, and then some more. -/
theorem rounds_add {n k : Nat} : ∀ {c d : Cursor},
    Rounds R (n + k) c d ↔ ∃ e, Rounds R n c e ∧ Rounds R k e d := by
  induction n with
  | zero => simp [Rounds]
  | succ n ih =>
    intro c d
    rw [Nat.succ_add]
    simp only [Rounds, ih]
    constructor
    · intro h
      obtain ⟨e, he, b, hb, hd⟩ := h
      exact ⟨b, ⟨e, he, hb⟩, hd⟩
    · intro h
      obtain ⟨b, ⟨e, he, hb⟩, hd⟩ := h
      exact ⟨e, he, b, hb, hd⟩

/-- A round that moves on. -/
def Moving (R : Cursor → Cursor → Prop) (c d : Cursor) : Prop :=
  R c d ∧ d.after.length < c.after.length

/-- Rounds that stay in place can be left out. -/
theorem rounds_moving (h : Onward R) {n : Nat} : ∀ {c d : Cursor},
    Rounds R n c d → ∃ k ≤ n, Rounds (Moving R) k c d := by
  induction n with
  | zero => exact fun hd => ⟨0, Nat.le_refl 0, hd⟩
  | succ n ih =>
    intro c d hd
    obtain ⟨e, he, hd⟩ := hd
    obtain ⟨k, hk, hmoving⟩ := ih hd
    rcases (h c e he).eq_or_shorter with rfl | hshorter
    · exact ⟨k, Nat.le_succ_of_le hk, hmoving⟩
    · exact ⟨k + 1, Nat.succ_le_succ hk, e, ⟨he, hshorter⟩, hmoving⟩

end Rounds

/-- An expression leads onward, or stays. -/
theorem spans_onward (p : Pattern) : ∀ f, Onward (p.Spans f) := by
  induction p with
  | empty => exact fun f c d hd => hd ▸ Cursor.Leads.refl c
  | never => exact fun f c d hd => False.elim hd
  | code n => exact fun f => readsOne_onward _
  | any => exact fun f => readsOne_onward _
  | oneOf negated items => exact fun f => readsOne_onward _
  | anchor a => exact fun f c d hd => hd.2 ▸ Cursor.Leads.refl c
  | seq p q ihp ihq =>
    intro f c d hd
    obtain ⟨e, he, hd⟩ := hd
    exact (ihp f c e he).trans (ihq f e d hd)
  | alt p q ihp ihq => exact fun f c d hd => hd.elim (ihp f c d) (ihq f c d)
  | repeated least more greed body ih =>
    intro f c d hd
    obtain ⟨n, -, hd⟩ := hd
    exact rounds_onward (ih f) _ c d hd
  | capture index body ih => exact ih
  | flagged on off body ih => exact fun f => ih (f.inside on off)
  | atomic body ih => exact ih
  | again index => exact fun f c d hd => False.elim hd
  | ahead negated body ih => exact fun f c d hd => hd.1 ▸ Cursor.Leads.refl c
  | behind negated width body ih => exact fun f c d hd => hd.1 ▸ Cursor.Leads.refl c
  | ifGroup index yes no ihyes ihno => exact ihno

/-! ## The ways to repeat -/

theorem rounds_finds {m : Matching} {R : Cursor → Cursor → Prop} (hm : m.Unmarking) (h : m.Finds R)
    (n : Nat) : Matching.Finds (rounds m n) (Rounds R n) := by
  induction n with
  | zero =>
    intro c k hk
    simp [rounds, Rounds]
  | succ n ih => exact h.andThen ih (rounds_unmarking hm n)

/-- What both ways to repeat have in common: they stop here, or they go on with another round if that
may begin. -/
structure IsLoop (m : Matching) (loop : Nat → Option Nat → Option Nat → Matching) : Prop where
  unmarking : ∀ steps room last, Matching.Unmarking (loop steps room last)
  stop : ∀ room last c k, Outcome.Found (loop 0 room last c k) ↔ Outcome.Found (k c)
  step : ∀ steps room last (c : Cursor) (k : Continuation), k.Unmarking →
    (Outcome.Found (loop (steps + 1) room last c.unmarked k) ↔
      Outcome.Found (k c.unmarked) ∨
      mayGoOn room last c.unmarked = true ∧ Outcome.Found (m c.unmarked fun t =>
        loop steps (room.map (· - 1)) (some c.after.length) t k))

section Loop

variable {m : Matching}

theorem manyFirst_isLoop (hm : m.Unmarking) (moveBack : Bool) :
    IsLoop m (manyFirst moveBack m) := by
  refine ⟨manyFirst_unmarking hm, fun room last c k => Iff.rfl, fun steps room last c k hk => ?_⟩
  rw [manyFirst]
  by_cases hgo : mayGoOn room last c.unmarked = true
  · have hround : Outcome.Unmarked (m c.unmarked fun t =>
        manyFirst moveBack m steps (room.map (· - 1)) (some c.after.length) t k) :=
      hm _ _ rfl fun t ht => manyFirst_unmarking hm steps _ _ t k ht hk
    rw [if_pos hgo, MatchState.orElse_found hround]
    simp only [hgo, true_and]
    exact or_comm
  · rw [if_neg hgo]
    exact (or_iff_left fun h => hgo h.1).symm

theorem fewFirst_isLoop (hm : m.Unmarking) (moveBack : Bool) : IsLoop m (fewFirst moveBack m) := by
  refine ⟨fewFirst_unmarking hm, fun room last c k => Iff.rfl, fun steps room last c k hk => ?_⟩
  rw [fewFirst, MatchState.orElse_found (hk _ rfl)]
  refine or_congr_right ?_
  by_cases hgo : mayGoOn room last c.unmarked = true
  · simp [hgo]
  · simp [hgo]

variable {R : Cursor → Cursor → Prop} {loop : Nat → Option Nat → Option Nat → Matching}
  {k : Continuation}

theorem IsLoop.rest_unmarking (hloop : IsLoop m loop) (hk : k.Unmarking) {steps : Nat}
    {room last : Option Nat} : Continuation.Unmarking fun t => loop steps room last t k :=
  fun t ht => hloop.unmarking steps room last t k ht hk

/-- What a repetition finds lies behind a number of rounds. -/
theorem IsLoop.sound (hloop : IsLoop m loop) (h : m.Finds R) (hk : k.Unmarking) (steps : Nat) :
    ∀ {room last : Option Nat} {c : Cursor}, Outcome.Found (loop steps room last c.unmarked k) →
      ∃ n d, (∀ most ∈ room, n ≤ most) ∧ Rounds R n c d ∧ Outcome.Found (k d.unmarked) := by
  induction steps with
  | zero =>
    intro room last c hfound
    exact ⟨0, c, fun most _ => Nat.zero_le most, rfl, (hloop.stop ..).mp hfound⟩
  | succ steps ih =>
    intro room last c hfound
    rcases (hloop.step steps room last c k hk).mp hfound with hhere | ⟨hgo, hround⟩
    · exact ⟨0, c, fun most _ => Nat.zero_le most, rfl, hhere⟩
    · obtain ⟨e, he, hfound⟩ := (h c _ (hloop.rest_unmarking hk)).mp hround
      obtain ⟨n, d, hn, hd, hfound⟩ := ih hfound
      refine ⟨n + 1, d, fun most hmost => ?_, ⟨e, he, hd⟩, hfound⟩
      -- a round could begin, so there was room for one more than the later ones take
      rw [Option.mem_def.mp hmost] at hn hgo
      have hroom : most ≠ 0 := fun hzero => by simp [mayGoOn, hzero] at hgo
      have hleft : n ≤ most - 1 := hn _ rfl
      omega

/-- No end of rounds that all move on is missed. -/
theorem IsLoop.complete (hloop : IsLoop m loop) (h : m.Finds R) (hk : k.Unmarking) {d : Cursor}
    (hfound : Outcome.Found (k d.unmarked)) (n : Nat) :
    ∀ {steps : Nat} {room last : Option Nat} {c : Cursor}, Rounds (Moving R) n c d →
      (∀ most ∈ room, n ≤ most) → last ≠ some c.after.length → c.after.length < steps →
      Outcome.Found (loop steps room last c.unmarked k) := by
  induction n with
  | zero =>
    intro steps room last c hd _ _ hsteps
    obtain rfl : d = c := hd
    obtain ⟨steps, rfl⟩ := Nat.exists_eq_add_one_of_ne_zero (Nat.ne_zero_of_lt hsteps)
    exact (hloop.step steps room last d k hk).mpr (Or.inl hfound)
  | succ n ih =>
    intro steps room last c hd hroom hlast hsteps
    obtain ⟨e, ⟨he, hshorter⟩, hd⟩ := hd
    obtain ⟨steps, rfl⟩ := Nat.exists_eq_add_one_of_ne_zero (Nat.ne_zero_of_lt hsteps)
    have hgo : mayGoOn room last c.unmarked = true := by
      have hleft : room ≠ some 0 := fun hzero => absurd (hroom 0 hzero) (Nat.not_succ_le_zero n)
      simp [mayGoOn, hleft, hlast]
    -- the next round begins further on than this one, so it may go on again
    have hleft : e.after.length < steps := by omega
    refine (hloop.step steps room last c k hk).mpr (Or.inr ⟨hgo, ?_⟩)
    refine (h c _ (hloop.rest_unmarking hk)).mpr ⟨e, he, ih hd (fun most hmost => ?_) ?_ hleft⟩
    · obtain ⟨whole, hwhole, rfl⟩ := Option.mem_map.mp hmost
      exact Nat.le_sub_one_of_lt (hroom whole hwhole)
    · exact fun hsame => absurd (Option.some.inj hsame) (Nat.ne_of_gt hshorter)

/-- **A repetition finds the ends of all numbers of rounds that are allowed**, as it takes more steps
than there are characters left. -/
theorem IsLoop.finds (hloop : IsLoop m loop) (h : m.Finds R) (honward : Onward R)
    (more : Option Nat) :
    Matching.Finds (fun s k => loop (s.cursor.after.length + 2) more none s k) fun c d =>
      ∃ n, (∀ most ∈ more, n ≤ most) ∧ Rounds R n c d := by
  intro c k hk
  constructor
  · intro hfound
    obtain ⟨n, d, hn, hd, hfound⟩ := hloop.sound h hk _ hfound
    exact ⟨d, ⟨n, hn, hd⟩, hfound⟩
  · intro hrounds
    obtain ⟨d, ⟨n, hn, hd⟩, hfound⟩ := hrounds
    obtain ⟨fewer, hfewer, hmoving⟩ := rounds_moving honward hd
    exact hloop.complete h hk hfound fewer hmoving
      (fun most hmost => hfewer.trans (hn most hmost)) (by simp)
      (Nat.lt_add_of_pos_right Nat.two_pos)

end Loop

/-- The further rounds come after the least number of them. -/
theorem exists_rounds_add {R : Cursor → Cursor → Prop} {least : Nat} {more : Option Nat}
    {c d : Cursor} :
    (∃ n, (∀ most ∈ more, n ≤ most) ∧ Rounds R (least + n) c d) ↔
      ∃ e, Rounds R least c e ∧ ∃ n, (∀ most ∈ more, n ≤ most) ∧ Rounds R n e d := by
  simp only [rounds_add]
  constructor
  · intro h
    obtain ⟨n, hn, e, he, hd⟩ := h
    exact ⟨e, he, n, hn, hd⟩
  · intro h
    obtain ⟨e, he, n, hn, hd⟩ := h
    exact ⟨n, hn, e, he, hd⟩

theorem repeating_finds {m : Matching} {R : Cursor → Cursor → Prop} (hm : m.Unmarking)
    (h : m.Finds R) (honward : Onward R) (inside single : Bool) (least : Nat) (more : Option Nat)
    {greed : Greed} (hgreed : greed ≠ .possessive) :
    Matching.Finds (repeating inside single m least more greed) fun c d =>
      ∃ n, (∀ most ∈ more, n ≤ most) ∧ Rounds R (least + n) c d := by
  simp only [exists_rounds_add]
  have hleast := rounds_finds hm h least
  cases greed with
  | greedy =>
    have hmany := fun moveBack => manyFirst_isLoop hm moveBack
    cases single with
    | true =>
      -- one choice among all places where the repetition may end, which may be given up as well
      have hlast : ∀ k : Continuation, k.Unmarking →
          Continuation.Unmarking fun t => t.orElse inside (k t) (·.fail) := fun k hk t ht =>
        MatchState.orElse_unmarked ht (hk t ht) fun u hu => hu
      refine hleast.andThen (fun c k hk => ?_) fun s k hs hk =>
        (hmany inside).unmarking _ _ _ s _ hs (hlast k hk)
      refine ((hmany inside).finds h honward more c _ (hlast k hk)).trans ?_
      refine exists_congr fun d => and_congr_right fun _ => ?_
      rw [MatchState.orElse_found (hk d.unmarked rfl)]
      exact or_iff_left (MatchState.not_found_fail _)
    | false =>
      exact hleast.andThen ((hmany true).finds h honward more) fun s k hs hk =>
        (hmany true).rest_unmarking hk s hs
  | «lazy» =>
    have hfew := fewFirst_isLoop hm inside
    exact hleast.andThen (hfew.finds h honward more) fun s k hs hk => hfew.rest_unmarking hk s hs
  | possessive => exact absurd rfl hgreed

/-! ## Expressions -/

theorem oneChar_finds (p : Char → Bool) : Matching.Finds (oneChar p) (ReadsOne p) := by
  intro c k hk
  unfold oneChar ReadsOne
  cases hafter : c.after with
  | nil => simp
  | cons x rest =>
    by_cases hx : p x = true
    · simp [hx]
    · simp [hx]

section LookAround

variable {c : Cursor} {k : Continuation} {way : Outcome}

/-- A look-around goes on from where it was, if there is a way. -/
theorem looked_found (hway : Outcome.Unmarked way) :
    Outcome.Found (way >>= fun t => k { c.unmarked with marks := t.marks }) ↔
      Outcome.Found way ∧ Outcome.Found (k c.unmarked) := by
  cases way with
  | ok t =>
    have hmarks : t.marks = [] := hway
    simp [Outcome.Found, hmarks]
  | error left => exact iff_of_false id fun h => h.1

/-- And one that must not match goes on if there is none. -/
theorem negated_found {moveBack : Bool} (way : Outcome) : Outcome.Unmarked way →
    (Outcome.Found (match way with
      | .ok t => t.fail
      | .error left => k { c.unmarked with marks := Marks.givenUp moveBack [] left }) ↔
      ¬ Outcome.Found way ∧ Outcome.Found (k c.unmarked)) := by
  intro hway
  cases way with
  | ok t => exact iff_of_false id fun h => h.1 trivial
  | error left =>
    have hleft : Marks.givenUp moveBack [] left = [] := Marks.givenUp_nil rfl hway
    simp [Outcome.Found, hleft]

/-- Either kind of look-around stays in its place. -/
theorem stays_found {P : Prop} {negated : Bool} :
    (∃ d, (d = c ∧ (P ↔ negated = false)) ∧ Outcome.Found (k d.unmarked)) ↔
      (P ↔ negated = false) ∧ Outcome.Found (k c.unmarked) := by
  simp

end LookAround

/-- **The matcher finds a match exactly if there is one**: it tries every place where the expression
may end. -/
theorem run_finds (p : Pattern) : ∀ (f : Flags) (inside : Bool), p.hasGroup = false →
    p.triesAll = true → Matching.Finds (p.run f inside) (p.Spans f) := by
  -- flags, place and continuation vary with the part of the expression that is come to
  induction p with
  | empty =>
    intro f inside _ _ c k hk
    simp [run, Spans]
  | never =>
    intro f inside _ _ c k hk
    simp [run, Spans]
  | code n => exact fun _ _ _ _ => oneChar_finds _
  | any => exact fun _ _ _ _ => oneChar_finds _
  | oneOf negated items => exact fun _ _ _ _ => oneChar_finds _
  | anchor a =>
    intro f inside _ _ c k hk
    by_cases ha : a.holds f c = true
    · simp [run, Spans, ha]
    · simp [run, Spans, ha]
  | seq p q ihp ihq =>
    intro f inside hgroup htries
    obtain ⟨hp, hq⟩ := Bool.or_eq_false_iff.mp hgroup
    obtain ⟨hp', hq'⟩ := Bool.and_eq_true_iff.mp htries
    exact (ihp f inside hp hp').andThen (ihq f inside hq hq') (run_unmarking q f inside hq)
  | alt p q ihp ihq =>
    intro f inside hgroup htries c k hk
    obtain ⟨hp, hq⟩ := Bool.or_eq_false_iff.mp hgroup
    obtain ⟨hp', hq'⟩ := Bool.and_eq_true_iff.mp htries
    have hfirst := run_unmarking p f inside hp c.unmarked k rfl hk
    have hsecond := run_unmarking q f inside hq c.unmarked k rfl hk
    unfold run Spans
    rw [MatchState.orElse_found hfirst, MatchState.orElse_found hsecond, ihp f inside hp hp' c k hk,
      ihq f inside hq hq' c k hk]
    simp [or_and_right, exists_or]
  | repeated least more greed body ih =>
    intro f inside hgroup htries
    have hgreed : greed ≠ .possessive := by
      intro h
      rw [h] at htries
      exact absurd htries (by simp [triesAll])
    have hbody : body.triesAll = true := by
      cases greed with
      | possessive => exact absurd rfl hgreed
      | _ => exact htries
    exact repeating_finds (run_unmarking body f _ hgroup) (ih f _ hgroup hbody)
      (spans_onward body f) inside _ least more hgreed
  | capture index body ih => exact fun _ _ h _ => absurd h (by simp [hasGroup])
  | flagged on off body ih => exact fun f inside h h' => ih _ inside h h'
  | atomic body ih => exact fun _ _ _ h => absurd h (by simp [triesAll])
  | again index =>
    intro f inside _ _ c k hk
    have hunset : c.unmarked.marks.span? index = none := rfl
    simp [run, Spans, hunset]
  | ahead negated body ih =>
    intro f inside hgroup htries c k hk
    have hway := firstWay_unmarked (run_unmarking body f inside hgroup) (rfl : c.unmarked.marks = [])
    have hspans := (ih f inside hgroup htries).firstWay c
    unfold Spans
    rw [stays_found]
    cases negated with
    | false =>
      unfold run
      rw [looked_found hway, hspans]
      simp
    | true =>
      refine (negated_found _ hway).trans ?_
      rw [hspans]
      simp
  | behind negated width body ih =>
    -- the body starts further back, if the text reaches that far
    intro f inside hgroup htries c k hk
    unfold Spans
    rw [stays_found]
    cases hback : c.back? width with
    | none =>
      cases negated with
      | false => simp [run, hback]
      | true => simp [run, hback]
    | some b =>
      have hway := firstWay_unmarked (run_unmarking body f inside hgroup) (rfl : b.unmarked.marks = [])
      have hspans := (ih f inside hgroup htries).firstWay b
      unfold run
      simp only [hback]
      cases negated with
      | false =>
        rw [looked_found hway, hspans]
        simp
      | true =>
        refine (negated_found _ hway).trans ?_
        rw [hspans]
        simp
  | ifGroup index yes no ihyes ihno =>
    intro f inside hgroup htries c k hk
    obtain ⟨-, hno⟩ := Bool.or_eq_false_iff.mp hgroup
    obtain ⟨-, hno'⟩ := Bool.and_eq_true_iff.mp htries
    have hunset : c.unmarked.marks.span? index = none := rfl
    unfold run Spans
    rw [hunset]
    exact ihno f inside hno hno' c k hk

/-! ## Texts and line ends -/

theorem spans_code {f : Flags} (hcase : f.ignoreCase = false) {x : Char} {c d : Cursor} :
    (Pattern.code x.toNat).Spans f c d ↔ c.after = x :: d.after ∧ d.before = x :: c.before := by
  constructor
  · intro h
    obtain ⟨y, rest, hafter, hy, rfl⟩ := h
    obtain rfl : y = x := Char.toNat_inj.mp (by simpa [hcase] using hy)
    exact ⟨hafter, rfl⟩
  · intro h
    obtain ⟨before, after⟩ := d
    obtain ⟨hafter, rfl⟩ := h
    exact ⟨x, after, hafter, by simp [hcase], rfl⟩

/-- A text, and then an expression. -/
def textThen (text : List Char) (p : Pattern) : Pattern :=
  text.foldr (fun x q => .seq (.code x.toNat) q) p

theorem spans_textThen {f : Flags} (hcase : f.ignoreCase = false) {p : Pattern} {d : Cursor}
    (text : List Char) : ∀ {c : Cursor}, (textThen text p).Spans f c d ↔
      ∃ rest, c.after = text ++ rest ∧ p.Spans f ⟨text.reverse ++ c.before, rest⟩ d := by
  induction text with
  | nil => simp [textThen]
  | cons x text ih =>
    intro c
    constructor
    · intro h
      obtain ⟨e, hx, h⟩ := h
      obtain ⟨hafter, hbefore⟩ := (spans_code hcase).mp hx
      obtain ⟨rest, hrest, h⟩ := ih.mp h
      rw [hrest] at hafter
      rw [hbefore] at h
      exact ⟨rest, hafter, by simpa using h⟩
    · intro h
      obtain ⟨rest, hafter, h⟩ := h
      exact ⟨⟨x :: c.before, text ++ rest⟩, (spans_code hcase).mpr ⟨hafter, rfl⟩,
        ih.mpr ⟨rest, rfl, by simpa using h⟩⟩

/-- Rounds of one character each read a text of characters that pass the test. -/
theorem rounds_readsOne {p : Char → Bool} {n : Nat} : ∀ {c d : Cursor},
    Rounds (ReadsOne p) n c d ↔
      ∃ v, v.length = n ∧ (∀ x ∈ v, p x = true) ∧ c.after = v ++ d.after ∧
        d.before = v.reverse ++ c.before := by
  induction n with
  | zero =>
    intro c d
    constructor
    · intro h
      obtain rfl : d = c := h
      exact ⟨[], rfl, by simp, rfl, rfl⟩
    · intro h
      obtain ⟨v, hv, -, hafter, hbefore⟩ := h
      obtain rfl := List.length_eq_zero_iff.mp hv
      obtain ⟨before, after⟩ := d
      obtain rfl : c.after = after := hafter
      obtain rfl : before = c.before := hbefore
      rfl
  | succ n ih =>
    intro c d
    constructor
    · intro h
      obtain ⟨e, ⟨x, rest, hafter, hx, rfl⟩, h⟩ := h
      obtain ⟨v, hlength, hv, hrest, hbefore⟩ := ih.mp h
      refine ⟨x :: v, congrArg (· + 1) hlength, List.forall_mem_cons.mpr ⟨hx, hv⟩, ?_, ?_⟩
      · exact hafter.trans (congrArg (x :: ·) hrest)
      · simpa using hbefore
    · intro h
      obtain ⟨v, hlength, hv, hafter, hbefore⟩ := h
      obtain ⟨x, v, rfl⟩ := List.exists_cons_of_length_eq_add_one hlength
      obtain ⟨hx, hv⟩ := List.forall_mem_cons.mp hv
      refine ⟨⟨x :: c.before, v ++ d.after⟩, ⟨x, _, hafter, hx, rfl⟩,
        ih.mpr ⟨v, Nat.succ.inj hlength, hv, rfl, ?_⟩⟩
      simpa using hbefore

/-- Any characters of one line, and then an expression. -/
theorem spans_anyThen {f : Flags} (hdots : f.dotAll = false) {greed : Greed} {p : Pattern}
    {c d : Cursor} : (Pattern.seq (.repeated 0 none greed .any) p).Spans f c d ↔
      ∃ v rest, c.after = v ++ rest ∧ '\n' ∉ v ∧ p.Spans f ⟨v.reverse ++ c.before, rest⟩ d := by
  have hline : ∀ v : List Char, (∀ x ∈ v, (f.dotAll || x != '\n') = true) ↔ '\n' ∉ v := by
    intro v
    simpa [hdots] using List.forall_mem_ne'
  constructor
  · intro h
    obtain ⟨e, ⟨n, -, hrounds⟩, h⟩ := h
    obtain ⟨v, -, hv, hafter, hbefore⟩ := rounds_readsOne.mp hrounds
    exact ⟨v, e.after, hafter, (hline v).mp hv, hbefore ▸ h⟩
  · intro h
    obtain ⟨v, rest, hafter, hv, h⟩ := h
    exact ⟨_, ⟨v.length, by simp, rounds_readsOne.mpr
      ⟨v, (Nat.zero_add _).symm, (hline v).mpr hv, hafter, rfl⟩⟩, h⟩

/-- The end of a line also stands before a line feed that ends the text. -/
theorem spans_lineEnd {f : Flags} (hlines : f.multiLine = false) {c d : Cursor} :
    (Pattern.anchor .lineEnd).Spans f c d ↔ (c.after = [] ∨ c.after = ['\n']) ∧ d = c := by
  simp [Spans, Anchor.holds, hlines]

end Pattern

/-! ## Searches -/

namespace Regex

variable {r : Regex}

theorem matchAt?_isSome_iff (hgroup : r.body.hasGroup = false) (htries : r.body.triesAll = true)
    {c : Cursor} :
    (r.matchAt? c).isSome = true ↔
      r.least ≤ c.after.length ∧ ∃ d, r.body.Spans r.flags c d := by
  have hspans := (r.body.run_finds r.flags false hgroup htries).firstWay c
  unfold Pattern.firstWay at hspans
  unfold matchAt?
  by_cases hshort : c.after.length < r.least
  · rw [if_pos hshort]
    exact iff_of_false (by simp) fun h => absurd h.1 (Nat.not_le.mpr hshort)
  · rw [if_neg hshort, ← hspans]
    cases r.body.run r.flags false c.unmarked .ok with
    | ok s => simp [Outcome.Found, Except.toOption, Nat.not_lt.mp hshort]
    | error left => simp [Outcome.Found, Except.toOption]

/-- A search goes through all places of the text that begin with a character of the class, if one is
given. -/
theorem findFrom_isSome_iff (first : Option (Bool × List ClassItem)) (after : List Char) :
    ∀ before, (r.findFrom first before after).isSome = true ↔
      ∃ u v, after = u ++ v ∧ (∀ x ∈ v.head?, r.isTriedAt first x = true) ∧
        (r.matchAt? ⟨u.reverse ++ before, v⟩).isSome = true := by
  induction after with
  | nil =>
    intro before
    unfold findFrom
    constructor
    · exact fun h => ⟨[], [], rfl, by simp, h⟩
    · intro h
      obtain ⟨u, v, huv, -, h⟩ := h
      obtain ⟨rfl, rfl⟩ := List.append_eq_nil_iff.mp huv.symm
      exact h
  | cons x rest ih =>
    intro before
    -- a match is found here, or further on
    have hstep : (r.findFrom first before (x :: rest)).isSome = true ↔
        (r.isTriedAt first x = true ∧ (r.matchAt? ⟨before, x :: rest⟩).isSome = true) ∨
          (r.findFrom first (x :: before) rest).isSome = true := by
      rw [findFrom]
      by_cases htried : r.isTriedAt first x = true
      · rw [if_pos htried]
        cases r.matchAt? ⟨before, x :: rest⟩ <;> simp [htried]
      · rw [if_neg htried]
        simp [htried]
    rw [hstep, ih (x :: before)]
    constructor
    · intro h
      rcases h with ⟨htried, hhere⟩ | ⟨u, v, rfl, htried, hlater⟩
      · exact ⟨[], x :: rest, rfl, fun y hy => Option.some.inj hy ▸ htried, hhere⟩
      · exact ⟨x :: u, v, rfl, htried, by simpa using hlater⟩
    · intro h
      obtain ⟨u, v, huv, htried, h⟩ := h
      cases u with
      | nil =>
        obtain rfl : x :: rest = v := huv
        exact Or.inl ⟨htried x rfl, h⟩
      | cons y u =>
        obtain ⟨rfl, rfl⟩ := List.cons.inj huv
        exact Or.inr ⟨u, v, rfl, htried, by simpa using h⟩

/-- **A search finds something exactly if a match begins and ends somewhere in the text**, for an
expression that is tried at every character. -/
theorem find?_isSome_iff (hgroup : r.body.hasGroup = false) (htries : r.body.triesAll = true)
    (hfirst : r.firstClass? = none) {text : String} :
    (r.find? text).isSome = true ↔
      ∃ u v d, text.toList = u ++ v ∧ r.least ≤ v.length ∧
        r.body.Spans r.flags ⟨u.reverse, v⟩ d := by
  unfold find?
  rw [hfirst, findFrom_isSome_iff]
  simp [isTriedAt, matchAt?_isSome_iff hgroup htries]

end Regex

end ModePolicy
