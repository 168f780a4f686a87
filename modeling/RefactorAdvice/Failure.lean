import RefactorAdvice.Text.Quoted

/-!
What can go wrong while a rule runs. A failure has a kind, which decides how it is logged, and
a message, which is shown.
-/

namespace RefactorAdvice

inductive FailureKind where
  | value | type | attribute | index | key | lookup | overflow | zeroDivision
  | system | recursion | memory | runtime | encoding | document
deriving DecidableEq, Inhabited

def FailureKind.name : FailureKind → String
  | .value => "ValueError"
  | .type => "TypeError"
  | .attribute => "AttributeError"
  | .index => "IndexError"
  | .key => "KeyError"
  | .lookup => "LookupError"
  | .overflow => "OverflowError"
  | .zeroDivision => "ZeroDivisionError"
  | .system => "OSError"
  | .recursion => "RecursionError"
  | .memory => "MemoryError"
  | .runtime => "RuntimeError"
  | .encoding => "UnicodeDecodeError"
  | .document => "JSONDecodeError"

inductive Failure where
  /-- An integer with more digits than are written out. -/
  | hugeInteger
  /-- A backslash is needed where the text of a replacement field may hold none. -/
  | backslashInField
  | lineBelowOne
  | columnBelowZero
  | endBeforeStart
  | functionWithoutLine
  /-- The first of no operands was asked for. -/
  | noOperand
  /-- A failure from outside, with its text. -/
  | raised (kind : FailureKind) (text : String)
deriving DecidableEq, Inhabited

namespace Failure

def kind : Failure → FailureKind
  | .noOperand => .index
  | .raised kind _ => kind
  | _ => .value

def message : Failure → String
  | .hugeInteger =>
    "Exceeds the limit (4300 digits) for integer string conversion; " ++
      "use sys.set_int_max_str_digits() to increase the limit"
  | .backslashInField => "Unable to avoid backslash in f-string expression part"
  | .lineBelowOne => "Line number must be positive"
  | .columnBelowZero => "Column number must be non-negative"
  | .endBeforeStart => "end_line must be >= line"
  | .functionWithoutLine => "Function node has no valid line number"
  | .noOperand => "list index out of range"
  | .raised .key text => Text.quoted text
  | .raised _ text => text

/-- A kind that is foreseen in a rule; the others are logged as unexpected. -/
def isForeseen (f : Failure) : Bool :=
  match f.kind with
  | .recursion | .memory | .value | .encoding | .type | .attribute => true
  | _ => false

def isForeseenInFile (f : Failure) : Bool := f.isForeseen || f.kind == .system

end Failure

end RefactorAdvice
