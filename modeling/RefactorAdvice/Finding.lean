import RefactorAdvice.Failure
import RefactorAdvice.Severity

/-!
A finding: what a rule says about a place in a file. Its lines count from one and its last
line, where it has one, is not above its first.
-/

namespace RefactorAdvice

structure Finding where
  file : String
  line : Nat
  column : Nat
  severity : Severity
  rule : String
  message : String
  suggestion : Option String
  snippet : Option String
  endLine : Option Nat
  line_pos : 1 ≤ line
  line_le_end : ∀ last ∈ endLine, line ≤ last
deriving DecidableEq

structure Finding.Draft where
  file : String
  line : Int
  column : Int
  severity : Severity
  rule : String
  message : String
  suggestion : Option String
  snippet : Option String
  endLine : Option Int
deriving DecidableEq

def Finding.ofDraft (d : Finding.Draft) : Except Failure Finding :=
  if first : d.line < 1 then .error .lineBelowOne
  else if d.column < 0 then .error .columnBelowZero
  else
    let build (last : Option Nat) (fits : ∀ n ∈ last, d.line.toNat ≤ n) : Finding :=
      { file := d.file, line := d.line.toNat, column := d.column.toNat
        severity := d.severity, rule := d.rule, message := d.message
        suggestion := d.suggestion, snippet := d.snippet
        endLine := last, line_pos := by omega, line_le_end := fits }
    match d.endLine with
    | none => .ok (build none (by simp))
    | some last =>
      if above : last < d.line then .error .endBeforeStart
      else .ok (build (some last.toNat) (by simp; omega))

end RefactorAdvice
