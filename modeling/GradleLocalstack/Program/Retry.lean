import Mathlib.Data.Int.Notation
import GradleLocalstack.Model.Jvm

/-!
# `Retry`

The wrapper every task action runs in: it calls the wrapped function until it returns,
throws one of the expected errors, or has been called `maxRetries` times.  The back-off
sleep is a pause of the console; it is taken to complete.
-/

set_option autoImplicit false

namespace GradleLocalstack.Program.Retry

open Foundation GradleLocalstack.Model

variable {ω α : Type} [Console ω]

/-- `Retry.DEFAULT_MAX_RETRIES`. -/
def defaultMaxRetries : ℤ := 10

/-- The test of `handleException`: the throwable's own class, or the class of its direct
cause, is one of the expected errors.
SRC: core/Retry.java:87 -/
def isExpected (expectedErrors : List JavaClass) (t : Throwable) : Bool :=
  expectedErrors.contains t.getClass ||
    (t.getCause.any fun cause => expectedErrors.contains cause.getClass)

/-- `new RuntimeException(t)`. -/
def rethrown (t : Throwable) : Throwable :=
  .causedBy .runtimeException (some t.toString) t

/-- `new RuntimeException("Maximum retry attempts reached")`. -/
def exhausted : Throwable :=
  .plain .runtimeException (some "Maximum retry attempts reached")

/-- `Retry.doWait`.
SRC: core/Retry.java:95-101 -/
def doWait (attempt : ℕ) : Prog ω Throwable Unit :=
  Prog.update (Console.emit (.pause attempt))

/-- What `handleException` prints first. -/
def errorText (t : Throwable) : String := s!"Error: {nullable t.getMessage}"

/-- `Retry.handleException`.
SRC: core/Retry.java:84-93 -/
def handleException (attempt : ℕ) (t : Throwable) (expectedErrors : List JavaClass) :
    Prog ω Throwable Unit := do
  log (errorText t)
  if isExpected expectedErrors t then
    throw (rethrown t)
  doWait attempt
  log "Retrying..."

/-- The loop of `Retry.execute` from attempt number `attempt` on, with `remaining`
attempts left.
SRC: core/Retry.java:73-79 -/
def executeFrom (fn : Prog ω Throwable α) (expectedErrors : List JavaClass) :
    (remaining attempt : ℕ) → Prog ω Throwable α
  | 0, _ => throw exhausted
  | remaining + 1, attempt =>
    tryCatch fn fun t => do
      handleException attempt t expectedErrors
      executeFrom fn expectedErrors remaining (attempt + 1)

/-- `Retry.execute(fn, maxRetries, expectedErrors)`.
SRC: core/Retry.java:72-82 -/
def execute (fn : Prog ω Throwable α) (maxRetries : ℤ) (expectedErrors : List JavaClass) :
    Prog ω Throwable α :=
  executeFrom fn expectedErrors maxRetries.toNat 0

/-- `Retry.execute(fn)`.
SRC: core/Retry.java:29-31 -/
def executeDefault (fn : Prog ω Throwable α) : Prog ω Throwable α :=
  execute fn defaultMaxRetries []

/-- `Retry.execute(fn, expectedErrors)`.
SRC: core/Retry.java:55-57 -/
def executeExpecting (fn : Prog ω Throwable α) (expectedErrors : List JavaClass) :
    Prog ω Throwable α :=
  execute fn defaultMaxRetries expectedErrors

end GradleLocalstack.Program.Retry
