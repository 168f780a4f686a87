import RefactorAdvice.Log

/-!
What a command leaves behind: how it ended and what it wrote.
-/

namespace RefactorAdvice

structure Session where
  ending : Except Failure Nat
  out : String := ""
  err : String := ""

namespace Level

def rank : Level → Nat
  | .debug => 0
  | .info => 1
  | .warning => 2
  | .error => 3

instance : LE Level := ⟨fun a b => a.rank ≤ b.rank⟩

instance (a b : Level) : Decidable (a ≤ b) := inferInstanceAs (Decidable (a.rank ≤ b.rank))

end Level

namespace Log

def traceMark : String := "<TRACEBACK>"

def written : Log → String
  | [] => ""
  | record :: rest =>
    let line := record.level.name ++ ": " ++ record.message ++ "\n"
    if record.traced then line ++ traceMark else line ++ written rest

/-- The text of the records that reach a level, up to the first trace. -/
def shown (least : Level) (log : Log) : String :=
  Log.written (log.filter fun record => decide (least ≤ record.level))

end Log

end RefactorAdvice
