import ModePolicy.Failure

/-!
Operations that report as they go.

A `Report` is a result, or the failure that prevented it, together with everything that was logged
up to its end. What is logged never changes the result.
-/

namespace ModePolicy

/-- How important a log entry is. -/
inductive LogLevel where
  | debug
  | info
  | warning
  | error
  deriving DecidableEq, Repr

/-- The name of a level. -/
def LogLevel.name : LogLevel → String
  | .debug => "DEBUG"
  | .info => "INFO"
  | .warning => "WARNING"
  | .error => "ERROR"

/-- The rank of a level. -/
def LogLevel.rank : LogLevel → Nat
  | .debug => 10
  | .info => 20
  | .warning => 30
  | .error => 40

/-- A log entry. -/
structure LogEntry where
  level : LogLevel
  text : String
  deriving DecidableEq, Repr

/-- An entry with its level. -/
def LogEntry.line (e : LogEntry) : String := e.level.name ++ " " ++ e.text

/-- A result or a failure, and what was logged. -/
structure Report (α : Type) where
  log : List LogEntry
  result : Except Failure α

namespace Report

variable {α β : Type}

/-- A result, with nothing logged. -/
def ok (a : α) : Report α := ⟨[], .ok a⟩

/-- A failure, with nothing logged. -/
def fail (e : Failure) : Report α := ⟨[], .error e⟩

/-- A result or a failure, with nothing logged. -/
def ofExcept (x : Except Failure α) : Report α := ⟨[], x⟩

/-- One log entry. -/
def note (level : LogLevel) (text : String) : Report Unit := ⟨[⟨level, text⟩], .ok ()⟩

/-- Goes on with the result, if there is one. -/
def andThen (x : Report α) (f : α → Report β) : Report β :=
  match x.result with
  | .ok a => ⟨x.log ++ (f a).log, (f a).result⟩
  | .error e => ⟨x.log, .error e⟩

/-- Deals with a failure, which may fail in turn; what was logged stays. -/
def recover (x : Report α) (handle : Failure → Except Failure α) : Report α :=
  match x.result with
  | .ok a => ⟨x.log, .ok a⟩
  | .error e => ⟨x.log, handle e⟩

instance : Monad Report where
  pure := ok
  bind := andThen

instance : MonadLift (Except Failure) Report where
  monadLift := ofExcept

@[simp] theorem result_pure (a : α) : (pure a : Report α).result = .ok a := rfl

@[simp] theorem result_ofExcept (x : Except Failure α) : (ofExcept x).result = x := rfl

@[simp] theorem result_note (level : LogLevel) (text : String) :
    (note level text).result = .ok () := rfl

/-- The result of two steps depends on the results of the steps only. -/
@[simp] theorem result_bind (x : Report α) (f : α → Report β) :
    (x >>= f).result = x.result.bind fun a => (f a).result := by
  cases h : x.result <;> simp [bind, andThen, h, Except.bind]

end Report

end ModePolicy
