import ModePolicy.CommandLine.Options

/-!
Going through the arguments of a program or of a command, from left to right.

Options take effect in the order they come in. A plain argument is an operand if one is wanted, and
otherwise it is left over; what looks like an option and is none is left over too.
-/

namespace ModePolicy.CommandLine

/-- The operands that are wanted. -/
inductive Operands where
  | none
  | single
  | command
  deriving DecidableEq, Repr

/-- What arguments say. -/
structure Reading (α : Type) where
  /-- What options set, each with its value if it has one. -/
  settings : List (α × Option String) := []
  operands : List String := []
  extras : List String := []

namespace Reading

variable {α : Type}

/-- Lets an option take effect. -/
def perform (r : Reading α) (value : Option String) : Effect α → Except Halt (Reading α)
  | .set what => .ok { r with settings := r.settings ++ [(what, value)] }
  | .halt why => .error why

/-- Lets options take effect, each with its value. -/
def performAll (r : Reading α) : List (Effect α × Option String) → Except Halt (Reading α)
  | [] => .ok r
  | (effect, value) :: rest => do performAll (← r.perform value effect) rest

/-- Leaves an argument over. -/
def leave (r : Reading α) (text : String) : Reading α := { r with extras := r.extras ++ [text] }

/-- What was set, each time with its value if it had one, in order. -/
def values [DecidableEq α] (r : Reading α) (what : α) : List (Option String) :=
  (r.settings.filter (·.1 == what)).map (·.2)

/-- The value that was set last. -/
def lastValue? [DecidableEq α] (r : Reading α) (what : α) : Option String :=
  (r.values what).getLast?.bind id

/-- Something was set. -/
def has [DecidableEq α] (r : Reading α) (what : α) : Bool := r.settings.any (·.1 == what)

end Reading

namespace Grammar

variable {α : Type}

/-- Goes through arguments. -/
def consume (g : Grammar α) (wanted : Operands) (r : Reading α) :
    List (String × Argument α) → Except Halt (Reading α)
  | [] => .ok r
  | (_, .option spec written) :: rest => do
    let bundle ← g.unfold spec written
    let r ← r.performAll bundle.complete
    match bundle.pending, rest with
    | none, rest => consume g wanted r rest
    | some last, (value, .plain _) :: rest =>
      consume g wanted (← r.perform (some value) last.effect) rest
    | some last, _ => throw (.wrong g.program (.valueExpected last.label))
  | (_, .unknown text) :: rest => consume g wanted (r.leave text) rest
  | (_, .plain text) :: rest =>
    match wanted, rest with
    | .command, rest => .ok { r with operands := text :: rest.map (·.1) }
    | .single, (_, .separator) :: rest => consume g .none { r with operands := [text] } rest
    | .single, rest => consume g .none { r with operands := [text] } rest
    | .none, rest => consume g .none (r.leave text) rest
  | (_, .separator) :: rest =>
    match wanted, rest with
    | .command, next :: rest => .ok { r with operands := "--" :: next.1 :: rest.map (·.1) }
    | .single, (text, .plain _) :: rest => consume g .none { r with operands := [text] } rest
    | wanted, rest => consume g wanted (r.leave "--") rest

/-- What the arguments of a program or of a command say. -/
def parse (g : Grammar α) (wanted : Operands) (texts : List String) : Except Halt (Reading α) := do
  g.consume wanted {} (← g.readAll texts)

end Grammar

end ModePolicy.CommandLine
