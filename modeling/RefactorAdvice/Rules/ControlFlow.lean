import RefactorAdvice.Code.Tree
import RefactorAdvice.Rules.Notice

/-!
An `else` behind a body that never reaches its end.
-/

namespace RefactorAdvice.Rules.ControlFlow

open Code

inductive Ending where
  | ret | raise | brk | cont
deriving DecidableEq, Inhabited

namespace Ending

def word : Ending → String
  | .ret => "return"
  | .raise => "raise"
  | .brk => "break"
  | .cont => "continue"

def rule : Ending → Rule
  | .ret => .elseAfterReturn
  | .raise => .elseAfterRaise
  | .brk => .elseAfterBreak
  | .cont => .elseAfterContinue

end Ending

section Leaving

mutual
/-- Whether a statement leaves the body it ends on every way through it. -/
def leaves : Stmt → Bool
  | .ret .. | .raise .. | .brk _ | .cont _ => true
  | .ifElse _ _ body orelse => lastLeaves body && lastLeaves orelse
  | .tryBlock _ false body handlers orelse [] =>
    lastLeaves body && handlersLeave handlers && (orelse.isEmpty || lastLeaves orelse)
  | .matchOn _ _ cases => !cases.isEmpty && casesLeave cases
  | _ => false

def lastLeaves : List Stmt → Bool
  | [] => false
  | [s] => leaves s
  | _ :: rest => lastLeaves rest

def handlersLeave : List (Handler Stmt) → Bool
  | [] => true
  | ⟨_, _, _, body⟩ :: rest => lastLeaves body && handlersLeave rest

def casesLeave : List (MatchCase Stmt) → Bool
  | [] => true
  | ⟨_, _, body⟩ :: rest => lastLeaves body && casesLeave rest
end

end Leaving

section Endings

mutual
def ending? : Stmt → Option Ending
  | .ret .. => some .ret
  | .raise .. => some .raise
  | .brk _ => some .brk
  | .cont _ => some .cont
  | .ifElse _ _ body orelse =>
    if lastLeaves body then lastEnding? body else elifEnding? orelse
  | .tryBlock span false body handlers orelse finalbody =>
    if leaves (.tryBlock span false body handlers orelse finalbody) then
      match lastEnding? body with
      | some ending => some ending
      | none => handlersEnding? handlers
    else none
  | .matchOn _ _ cases => caseEnding? cases
  | _ => none

def lastEnding? : List Stmt → Option Ending
  | [] => none
  | [s] => ending? s
  | _ :: rest => lastEnding? rest

def elifEnding? : List Stmt → Option Ending
  | [.ifElse _ _ body _] => if lastLeaves body then lastEnding? body else none
  | _ => none

def handlersEnding? : List (Handler Stmt) → Option Ending
  | [] => none
  | ⟨_, _, _, body⟩ :: rest =>
    match lastEnding? body with
    | some ending => some ending
    | none => handlersEnding? rest

def caseEnding? : List (MatchCase Stmt) → Option Ending
  | [] => none
  | ⟨_, _, body⟩ :: _ => lastEnding? body
end

end Endings

def clauseWord : List Stmt → String
  | [.ifElse ..] => "elif"
  | _ => "else"

def check : Node → Option Notice
  | .stmt (.ifElse span _ body orelse) =>
    if !orelse.isEmpty && lastLeaves body then
      (lastEnding? body).map fun ending =>
        let clause := clauseWord orelse
        let word := ending.word
        ending.rule.notice span s!"Unnecessary '{clause}' after '{word}' statement"
          (s!"Remove '{clause}' and unindent its body since the " ++
            s!"preceding code always executes '{word}'")
    else none
  | _ => none

def notices (module : Module) : Notices :=
  module.tree.preorder.filterMap fun node => (check node).map .ok

end RefactorAdvice.Rules.ControlFlow
