import RefactorAdvice.Code.Expr
import RefactorAdvice.Finding
import RefactorAdvice.Listing
import RefactorAdvice.Rule

/-!
From what a rule sees to what is reported. A rule leaves notices, which know nothing of the
text of the file; publishing drops those that a comment silences or that have no place, and
gives the others the line they stand on.
-/

namespace RefactorAdvice

open Code (Span)

structure Notice where
  span : Span
  severity : Severity
  rule : String
  message : String
  suggestion : String
  endLine : Option Int := none
  /-- A notice that must have a place: without one publishing fails. -/
  placeNeeded : Bool := false
deriving DecidableEq

abbrev Notices := List (Except Failure Notice)

def Rule.notice (rule : Rule) (span : Span) (message suggestion : String) : Notice :=
  { span, severity := rule.severity, rule := rule.code, message, suggestion }

namespace Listing

def silencesAt (l : Listing) (span : Span) (rule : Option String) : Bool :=
  match span.placed with
  | none => false
  | some line => l.silences line rule

def publish (l : Listing) (file : String) (n : Notice) : Except Failure (Option Finding) :=
  match n.span.placed with
  | none => if n.placeNeeded then .error .functionWithoutLine else .ok none
  | some line =>
    if l.silences line (some n.rule) then .ok none
    else
      (Finding.ofDraft
        { file, line, column := n.span.columnOrZero, severity := n.severity, rule := n.rule
          message := n.message, suggestion := some n.suggestion
          snippet := l.snippet line, endLine := n.endLine }).map some

/-- The findings of notices in order; the first failure ends them. -/
def publishAll (l : Listing) (file : String) : Notices → Except Failure (List Finding)
  | [] => .ok []
  | n :: rest => do
    let found ← l.publish file (← n)
    let others ← l.publishAll file rest
    return found.toList ++ others

end Listing

end RefactorAdvice
