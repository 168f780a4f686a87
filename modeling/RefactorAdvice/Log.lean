import RefactorAdvice.Failure

/-!
What is logged while a command runs.
-/

namespace RefactorAdvice

inductive Level where
  | debug | info | warning | error
deriving DecidableEq, Inhabited

def Level.name : Level → String
  | .debug => "DEBUG"
  | .info => "INFO"
  | .warning => "WARNING"
  | .error => "ERROR"

structure Record where
  level : Level
  message : String
  traced : Bool := false
deriving DecidableEq, Inhabited

abbrev Log := List Record

/-- A computation that logs and may fail; what was logged before the failure stays. -/
abbrev LoggingExcept (ε : Type) := ExceptT ε (StateM Log)

abbrev Logging := LoggingExcept Failure

def logRecord (record : Record) : LoggingExcept ε Unit := modify (· ++ [record])

def warn (message : String) : LoggingExcept ε Unit := logRecord { level := .warning, message }

def LoggingExcept.outcome (x : LoggingExcept ε α) : Except ε α × Log := x.run.run []

end RefactorAdvice
