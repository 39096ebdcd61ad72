import ModePolicy.Pattern.Lead
import ModePolicy.Proofs.Outcome

/-!
# Expressions without groups

Marks are set where a group begins and where it ends, and nowhere else. So a match of an expression
that has no group leaves no marks, and neither does an attempt that fails:

> `Regex.find?_unmarked`: what a search with such an expression finds has no marks.

In particular no group of it can end before it begins, which is the one thing that makes a match
unusable.

The matcher hands each way to match to a continuation, so what is shown of each of its parts is that
it leaves no marks if its continuation leaves none (`Matching.Unmarking`): one lemma for each way to
repeat, then one case for each constructor of expressions (`Pattern.run_unmarking`).
-/

namespace ModePolicy

/-- Neither a match that was found nor a failed attempt has left marks. -/
def Outcome.Unmarked : Outcome → Prop
  | .ok s => s.marks = []
  | .error left => left = []

/-- The rest of a match leaves no marks where there were none. -/
def Continuation.Unmarking (k : Continuation) : Prop := ∀ s, s.marks = [] → Outcome.Unmarked (k s)

/-- The matching leaves no marks where there were none, unless the rest of the match does. -/
def Matching.Unmarking (m : Matching) : Prop :=
  ∀ (s : MatchState) (k : Continuation), s.marks = [] → k.Unmarking → Outcome.Unmarked (m s k)

/-- Giving a way up leaves no marks where there were none before and after. -/
theorem Marks.givenUp_nil {moveBack : Bool} {before after : Marks} (hbefore : before = [])
    (hafter : after = []) : givenUp moveBack before after = [] := by
  subst hbefore hafter
  cases moveBack <;> rfl

theorem MatchState.orElse_unmarked {s : MatchState} {moveBack : Bool} {first : Outcome}
    {second : Continuation} (hs : s.marks = []) (hfirst : Outcome.Unmarked first)
    (hsecond : second.Unmarking) : Outcome.Unmarked (s.orElse moveBack first second) := by
  unfold orElse
  cases first with
  | ok result => exact hfirst
  | error left => exact hsecond _ (Marks.givenUp_nil hs hfirst)

theorem Outcome.bind_unmarked {first : Outcome} {k : Continuation}
    (hfirst : Outcome.Unmarked first) (hk : k.Unmarking) : Outcome.Unmarked (first >>= k) := by
  cases first with
  | ok s => exact hk s hfirst
  | error left => exact hfirst

namespace Pattern

/-! ## The ways to repeat -/

section Repetition

variable {m : Matching} (hm : m.Unmarking)
include hm

theorem rounds_unmarking (n : Nat) : Matching.Unmarking (rounds m n) := by
  induction n with
  | zero => exact fun s k hs hk => hk s hs
  | succ n ih => exact fun s k hs hk => hm s _ hs fun t ht => ih t k ht hk

theorem manyFirst_unmarking {moveBack : Bool} (steps : Nat) :
    ∀ room last, Matching.Unmarking (manyFirst moveBack m steps room last) := by
  induction steps with
  | zero => exact fun _ _ s k hs hk => hk s hs
  | succ steps ih =>
    intro room last s k hs hk
    unfold manyFirst
    split
    · exact MatchState.orElse_unmarked hs (hm s _ hs fun t ht => ih _ _ t k ht hk) hk
    · exact hk s hs

theorem fewFirst_unmarking {moveBack : Bool} (steps : Nat) :
    ∀ room last, Matching.Unmarking (fewFirst moveBack m steps room last) := by
  induction steps with
  | zero => exact fun _ _ s k hs hk => hk s hs
  | succ steps ih =>
    intro room last s k hs hk
    refine MatchState.orElse_unmarked hs (hk s hs) fun t ht => ?_
    split
    · exact hm t _ ht fun u hu => ih _ _ u k hu hk
    · exact ht

theorem firstWay_unmarked {s : MatchState} (hs : s.marks = []) :
    Outcome.Unmarked (firstWay m s) :=
  hm s _ hs fun _ ht => ht

theorem allRounds_unmarked (steps : Nat) :
    ∀ room last (s : MatchState), s.marks = [] → (allRounds m steps room last s).marks = [] := by
  induction steps with
  | zero => exact fun _ _ s hs => hs
  | succ steps ih =>
    intro room last s hs
    have hway := firstWay_unmarked hm hs
    unfold allRounds
    split
    · cases hfirst : firstWay m s with
      | ok t =>
        rw [hfirst] at hway
        exact ih _ _ t hway
      | error left => exact hs
    · exact hs

theorem firstRounds_unmarked (n : Nat) : Continuation.Unmarking (firstRounds m n) := by
  induction n with
  | zero => exact fun s hs => hs
  | succ n ih => exact fun s hs => Outcome.bind_unmarked (firstWay_unmarked hm hs) ih

theorem repeating_unmarking (inside single : Bool) (least : Nat) (more : Option Nat)
    (greed : Greed) : Matching.Unmarking (repeating inside single m least more greed) := by
  intro s k hs hk
  cases greed with
  | greedy =>
    refine rounds_unmarking hm least s _ hs fun t ht => ?_
    dsimp only
    split
    · refine manyFirst_unmarking hm _ _ _ t _ ht fun u hu => ?_
      exact MatchState.orElse_unmarked hu (hk u hu) fun v hv => hv
    · exact manyFirst_unmarking hm _ _ _ t k ht hk
  | «lazy» =>
    refine rounds_unmarking hm least s _ hs fun t ht => ?_
    exact fewFirst_unmarking hm _ _ _ t k ht hk
  | possessive =>
    exact Outcome.bind_unmarked (firstRounds_unmarked hm least s hs) fun t ht =>
      hk _ (allRounds_unmarked hm _ _ _ t ht)

end Repetition

/-! ## Expressions -/

/-- The expression has a group. -/
def hasGroup : Pattern → Bool
  | .capture .. => true
  | .seq p q | .alt p q | .ifGroup _ p q => p.hasGroup || q.hasGroup
  | .repeated _ _ _ body | .flagged _ _ body | .atomic body => body.hasGroup
  | .ahead _ body | .behind _ _ body => body.hasGroup
  | _ => false

theorem oneChar_unmarking (p : Char → Bool) : Matching.Unmarking (oneChar p) := by
  intro s k hs hk
  unfold oneChar
  split
  · exact hs
  · split
    · exact hk _ hs
    · exact hs

/-- What must not match leaves no marks whether it matches or not. -/
theorem negated_unmarked {s : MatchState} {moveBack : Bool} {k : Continuation}
    (hs : s.marks = []) (hk : k.Unmarking) (way : Outcome) :
    Outcome.Unmarked way → Outcome.Unmarked (match way with
      | .ok t => t.fail
      | .error left => k { s with marks := Marks.givenUp moveBack s.marks left }) := by
  intro hway
  cases way with
  | ok t => exact hway
  | error left => exact hk _ (Marks.givenUp_nil hs hway)

/-- **Without a group, no marks.** Groups that are asked for are all unset. -/
theorem run_unmarking (p : Pattern) : ∀ (f : Flags) (inside : Bool), p.hasGroup = false →
    Matching.Unmarking (p.run f inside) := by
  -- flags, place and continuation vary with the part of the expression that is come to
  induction p with
  | empty => exact fun _ _ _ s k hs hk => hk s hs
  | never => exact fun _ _ _ s k hs hk => hs
  | code n => exact fun _ _ _ => oneChar_unmarking _
  | any => exact fun _ _ _ => oneChar_unmarking _
  | oneOf negated items => exact fun _ _ _ => oneChar_unmarking _
  | anchor a =>
    intro f inside _ s k hs hk
    unfold run
    split
    · exact hk s hs
    · exact hs
  | seq p q ihp ihq =>
    intro f inside h s k hs hk
    obtain ⟨hp, hq⟩ := Bool.or_eq_false_iff.mp h
    exact ihp f inside hp s _ hs fun t ht => ihq f inside hq t k ht hk
  | alt p q ihp ihq =>
    intro f inside h s k hs hk
    obtain ⟨hp, hq⟩ := Bool.or_eq_false_iff.mp h
    unfold run
    refine MatchState.orElse_unmarked hs (ihp f inside hp s k hs hk) fun t ht => ?_
    exact MatchState.orElse_unmarked ht (ihq f inside hq t k ht hk) fun u hu => hu
  | repeated least more greed body ih =>
    exact fun f inside h => repeating_unmarking (ih f _ h) inside _ least more greed
  | capture index body ih => exact fun _ _ h => absurd h (by simp [hasGroup])
  | flagged on off body ih => exact fun f inside h => ih _ inside h
  | atomic body ih =>
    exact fun f inside h s k hs hk => Outcome.bind_unmarked (firstWay_unmarked (ih f inside h) hs) hk
  | again index =>
    -- no group is set, so this way fails at once
    intro f inside _ s k hs hk
    have hunset : s.marks.span? index = none := by rw [hs]; rfl
    unfold run
    rw [hunset]
    exact hs
  | ahead negated body ih =>
    intro f inside h s k hs hk
    have hway := firstWay_unmarked (ih f inside h) hs
    cases negated with
    | false => exact Outcome.bind_unmarked hway fun t ht => hk _ ht
    | true => exact negated_unmarked hs hk _ hway
  | behind negated width body ih =>
    -- the body starts further back, with the same marks
    intro f inside h s k hs hk
    have hway : ∀ cursor, Outcome.Unmarked (firstWay (body.run f inside) { s with cursor }) :=
      fun cursor => firstWay_unmarked (ih f inside h) hs
    unfold run
    cases hback : s.cursor.back? width with
    | none =>
      cases negated with
      | false => exact hs
      | true => exact hk s hs
    | some cursor =>
      cases negated with
      | false => exact Outcome.bind_unmarked (hway cursor) fun t ht => hk _ ht
      | true => exact negated_unmarked hs hk _ (hway cursor)
  | ifGroup index yes no ihyes ihno =>
    intro f inside h s k hs hk
    obtain ⟨hyes, hno⟩ := Bool.or_eq_false_iff.mp h
    unfold run
    split
    · exact ihyes f inside hyes s k hs hk
    · exact ihno f inside hno s k hs hk

end Pattern

/-! ## Searches -/

namespace Regex

variable {r : Regex} {found : MatchState}

theorem matchAt?_unmarked (h : r.body.hasGroup = false) {cursor : Cursor}
    (hfound : r.matchAt? cursor = some found) : found.marks = [] := by
  have hrun : Outcome.Unmarked (r.body.run r.flags false { cursor } .ok) :=
    Pattern.firstWay_unmarked (r.body.run_unmarking r.flags false h) rfl
  unfold matchAt? at hfound
  split at hfound
  · exact absurd hfound (by simp)
  · cases hresult : r.body.run r.flags false { cursor } .ok with
    | ok s =>
      rw [hresult] at hrun hfound
      obtain rfl : s = found := Option.some.inj hfound
      exact hrun
    | error left =>
      rw [hresult] at hfound
      exact absurd hfound (by simp [Except.toOption])

theorem findFrom_unmarked (h : r.body.hasGroup = false) (first : Option (Bool × List ClassItem))
    (after : List Char) : ∀ before, r.findFrom first before after = some found →
      found.marks = [] := by
  induction after with
  | nil => exact fun before hfound => matchAt?_unmarked h hfound
  | cons c rest ih =>
    intro before hfound
    unfold findFrom at hfound
    split at hfound
    · next result hhere =>
      split at hhere
      · obtain rfl : result = found := Option.some.inj hfound
        exact matchAt?_unmarked h hhere
      · exact absurd hhere (by simp)
    · exact ih (c :: before) hfound

/-- **What a search with an expression without groups finds has no marks.** -/
theorem find?_unmarked (h : r.body.hasGroup = false) {text : String}
    (hfound : r.find? text = some found) : found.marks = [] :=
  findFrom_unmarked h _ _ [] hfound

end Regex

end ModePolicy
