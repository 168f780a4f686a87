import RefactorAdvice.Number.Numeral
import RefactorAdvice.Rule

/-!
What a user can set: for each family of rules whether it runs and where its limits lie, and
the patterns of files to leave out.
-/

namespace RefactorAdvice

namespace Settings

structure Complexity where
  enabled : Bool := true
  maxBranches : Int := 10
  maxNestingDepth : Int := 3
  maxFunctionLines : Int := 50
  maxArguments : Int := 5
  maxLocalVariables : Int := 15
  maxCyclomaticComplexity : Int := 10
deriving DecidableEq, Inhabited

structure Performance where
  enabled : Bool := true
  minConcatenations : Int := 3
  minDuplicateCalls : Int := 3
deriving DecidableEq, Inhabited

def usualThreshold : Binary64 := .ofDecimal false 85 (-2)

structure Duplication where
  enabled : Bool := true
  minDuplicateLines : Int := 5
  similarityThreshold : Binary64 := usualThreshold
deriving DecidableEq, Inhabited

structure BooleanLogic where
  enabled : Bool := true
  maxBooleanOperators : Int := 3
deriving DecidableEq, Inhabited

structure Switch where
  enabled : Bool := true
deriving DecidableEq, Inhabited

end Settings

structure Settings where
  complexity : Settings.Complexity := {}
  performance : Settings.Performance := {}
  duplication : Settings.Duplication := {}
  booleanLogic : Settings.BooleanLogic := {}
  loops : Settings.Switch := {}
  contextManager : Settings.Switch := {}
  controlFlow : Settings.Switch := {}
  dictOperations : Settings.Switch := {}
  comparisons : Settings.Switch := {}
  excludePatterns : List String := []
deriving DecidableEq, Inhabited

namespace Settings

def runs (s : Settings) : Family → Bool
  | .complexity => s.complexity.enabled
  | .performance => s.performance.enabled
  | .booleanLogic => s.booleanLogic.enabled
  | .loops => s.loops.enabled
  | .duplication => s.duplication.enabled
  | .contextManager => s.contextManager.enabled
  | .controlFlow => s.controlFlow.enabled
  | .dictOperations => s.dictOperations.enabled
  | .comparisons => s.comparisons.enabled

section Validity

inductive Fault where
  | below (field : String) (bound : Int) (value : Int)
  | threshold (value : Binary64)
deriving DecidableEq

def Fault.message : Fault → String
  | .below field bound value => s!"{field} must be >= {bound}, got {value}"
  | .threshold value =>
    "duplication.similarity_threshold must be between 0.0 and 1.0, got " ++ value.numeral

def firstBounds (s : Settings) : List (String × Int × Int) :=
  [("complexity.max_branches", 1, s.complexity.maxBranches),
   ("complexity.max_nesting_depth", 1, s.complexity.maxNestingDepth),
   ("complexity.max_function_lines", 1, s.complexity.maxFunctionLines),
   ("complexity.max_arguments", 1, s.complexity.maxArguments),
   ("complexity.max_local_variables", 1, s.complexity.maxLocalVariables),
   ("complexity.max_cyclomatic_complexity", 1, s.complexity.maxCyclomaticComplexity),
   ("performance.min_concatenations", 0, s.performance.minConcatenations),
   ("performance.min_duplicate_calls", 0, s.performance.minDuplicateCalls),
   ("duplication.min_duplicate_lines", 2, s.duplication.minDuplicateLines)]

def thresholdFits (s : Settings) : Bool :=
  (Binary64.ofInt 0).lessEq s.duplication.similarityThreshold &&
    s.duplication.similarityThreshold.lessEq (Binary64.ofInt 1)

/-- The first number out of range, if there is one. -/
def fault? (s : Settings) : Option Fault :=
  match s.firstBounds.find? fun (_, bound, value) => value < bound with
  | some (field, bound, value) => some (.below field bound value)
  | none =>
    if !s.thresholdFits then some (.threshold s.duplication.similarityThreshold)
    else if s.booleanLogic.maxBooleanOperators < 1 then
      some (.below "boolean_logic.max_boolean_operators" 1 s.booleanLogic.maxBooleanOperators)
    else none

end Validity

end Settings

end RefactorAdvice
