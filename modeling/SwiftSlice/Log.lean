/-
Log messages and computations that leave some. A logged computation gives the
messages it left, in order, and then either a value or the failure that ended it;
what was logged before a failure stays.
-/

import SwiftSlice.Failure

namespace SwiftSlice

/-- A computation with a continuation has a value if both parts have one. -/
theorem bind_eq_ok_iff {ε α β : Type} {first : Except ε α} {next : α → Except ε β} {result : β} :
    (first >>= next) = .ok result ↔ ∃ value, first = .ok value ∧ next value = .ok result := by
  cases first with
  | error failure => simp [bind, Except.bind]
  | ok value => simp [bind, Except.bind]

/-- How much a message matters. -/
inductive Level
  | debug
  | info
  | warning
deriving DecidableEq, Repr

/-- The name of a level. -/
def Level.text : Level → String
  | .debug => "DEBUG"
  | .info => "INFO"
  | .warning => "WARNING"

/-- The rank of a level, higher for what matters more. -/
def Level.rank : Level → Nat
  | .debug => 0
  | .info => 1
  | .warning => 2

/-- A message with its level. -/
structure Message where
  level : Level
  text : String
deriving DecidableEq, Repr

/-- The messages of a computation and its outcome. -/
structure Logged (α : Type) where
  log : List Message
  outcome : Except Failure α

namespace Logged

/-- Goes on with the value of a computation, if it has one. -/
def bind (first : Logged α) (next : α → Logged β) : Logged β :=
  match first.outcome with
  | .error failure => ⟨first.log, .error failure⟩
  | .ok value => ⟨first.log ++ (next value).log, (next value).outcome⟩

instance : Monad Logged where
  pure value := ⟨[], .ok value⟩
  bind := bind

/-- An outcome without messages. -/
def ofExcept (outcome : Except Failure α) : Logged α :=
  ⟨[], outcome⟩

instance : MonadLift (Except Failure) Logged := ⟨ofExcept⟩

/-- Ends with a failure. -/
def fail (failure : Failure) : Logged α :=
  ⟨[], .error failure⟩

/-- Leaves one message. -/
def say (level : Level) (text : String) : Logged Unit :=
  ⟨[⟨level, text⟩], .ok ()⟩

/-! ### Outcomes -/

@[simp] theorem outcome_pure (value : α) : (pure value : Logged α).outcome = .ok value := rfl

@[simp] theorem outcome_liftM (outcome : Except Failure α) :
    (liftM outcome : Logged α).outcome = outcome := rfl

@[simp] theorem outcome_fail (failure : Failure) :
    (fail failure : Logged α).outcome = .error failure :=
  rfl

@[simp] theorem outcome_say (level : Level) (text : String) :
    (say level text).outcome = .ok () := rfl

/-- A computation with a continuation has the outcome of the continuation, if the first part has a
value. -/
theorem outcome_bind (first : Logged α) (next : α → Logged β) :
    (first >>= next).outcome = first.outcome >>= fun value => (next value).outcome := by
  show (match first.outcome with
    | .error failure => (⟨first.log, .error failure⟩ : Logged β)
    | .ok value => ⟨first.log ++ (next value).log, (next value).outcome⟩).outcome = _
  cases first.outcome <;> rfl

end Logged

end SwiftSlice
