import RefactorAdvice.Rules.BooleanLogic
import RefactorAdvice.Rules.Comparisons
import RefactorAdvice.Rules.Complexity
import RefactorAdvice.Rules.ContextManager
import RefactorAdvice.Rules.ControlFlow
import RefactorAdvice.Rules.DictOperations
import RefactorAdvice.Rules.Duplication
import RefactorAdvice.Rules.Loops
import RefactorAdvice.Rules.Performance

/-!
The families of rules at work on a module, and their examination one after the other.
-/

namespace RefactorAdvice.Rules

open Code

structure Verdict where
  findings : List Finding
  warnings : List String := []
deriving DecidableEq

structure Sheet where
  file : String
  listing : Listing

/--
The notices of a family that works on the tree alone. `outside` tells a family that looks for
functions whether it counts as being in one where none is around.
-/
def notices (settings : Settings) (listing : Listing) (outside : Bool) (module : Module) :
    Family → Notices
  | .complexity => Complexity.notices settings.complexity module
  | .performance =>
    Performance.notices settings.performance
      (fun span rule => listing.silencesAt span (some rule.code)) module
  | .booleanLogic => BooleanLogic.notices settings.booleanLogic outside module
  | .loops => Loops.notices module
  | .duplication => []
  | .contextManager => ContextManager.notices module
  | .controlFlow => ControlFlow.notices module
  | .dictOperations => DictOperations.notices module
  | .comparisons => Comparisons.notices module

def examine (settings : Settings) (sheet : Sheet) (outside : Bool) (module : Module)
    (family : Family) : Except Failure Verdict :=
  match family with
  | .duplication => do
    let found ← Duplication.search Duplication.usualBounds settings.duplication sheet.listing
      sheet.file module
    return { findings := found.findings, warnings := found.warnings }
  | family => do
    let findings ← sheet.listing.publishAll sheet.file
      (notices settings sheet.listing outside module family)
    return { findings }

/--
What a family keeps from one examination for the next: whether it stopped inside a function.
Only a family that looks for functions does.
-/
def staysInside (settings : Settings) (sheet : Sheet) (outside : Bool) (module : Module) :
    Family → Bool
  | .booleanLogic =>
    BooleanLogic.endsInside settings.booleanLogic outside sheet.listing module
  | _ => outside

structure Examiner where
  name : String
  examine : Sheet → Module → Except Failure Verdict

def examiners (settings : Settings) : List Examiner :=
  (Family.all.filter settings.runs).map fun family =>
    { name := family.name
      examine := fun sheet module => Rules.examine settings sheet false module family }

end RefactorAdvice.Rules
