import RefactorAdvice.Severity

/-!
The rules, in families. Each rule has a short code, under which it is reported and silenced,
and a fixed severity.
-/

namespace RefactorAdvice

/-- A family of rules, checked together and switched on or off together. -/
inductive Family where
  | complexity | performance | booleanLogic | loops | duplication
  | contextManager | controlFlow | dictOperations | comparisons
deriving DecidableEq, Inhabited

namespace Family

def all : List Family :=
  [.complexity, .performance, .booleanLogic, .loops, .duplication,
   .contextManager, .controlFlow, .dictOperations, .comparisons]

def name : Family → String
  | .complexity => "complexity"
  | .performance => "performance"
  | .booleanLogic => "boolean_logic"
  | .loops => "loops"
  | .duplication => "duplication"
  | .contextManager => "context_manager"
  | .controlFlow => "control_flow"
  | .dictOperations => "dict_operations"
  | .comparisons => "comparisons"

def ofName? (s : String) : Option Family := all.find? (·.name == s)

end Family

inductive Rule where
  | longFunction | manyArguments | manyLocals | manyBranches | deepNesting | highComplexity
  | textConcatenation | listConcatenation | redundantList | lenPositive | lenZero | repeatedCall
  | crowdedBoolean | identityWithBool | lateExit | negatedAnd | negatedOr
  | rangeLen | manualIndex | nestedLookup | loopInvariant
  | duplicateBlock
  | unmanagedResource
  | elseAfterReturn | elseAfterRaise | elseAfterBreak | elseAfterContinue
  | lookupWithDefault | itemsInstead | needlessKeys | dictOfPairs
  | equalityChain | splitComparison | repeatedInstanceCheck | equalsNone | equalsBool | typeEquality
deriving DecidableEq, Inhabited

namespace Rule

def code : Rule → String
  | .longFunction => "C001"
  | .manyArguments => "C002"
  | .manyLocals => "C003"
  | .manyBranches => "C004"
  | .deepNesting => "C005"
  | .highComplexity => "C006"
  | .textConcatenation => "P001"
  | .listConcatenation => "P002"
  | .redundantList => "P004"
  | .lenPositive => "P005"
  | .lenZero => "P006"
  | .repeatedCall => "P007"
  | .crowdedBoolean => "B001"
  | .identityWithBool => "B004"
  | .lateExit => "B005"
  | .negatedAnd => "B006"
  | .negatedOr => "B007"
  | .rangeLen => "L001"
  | .manualIndex => "L002"
  | .nestedLookup => "L003"
  | .loopInvariant => "L004"
  | .duplicateBlock => "D001"
  | .unmanagedResource => "R001"
  | .elseAfterReturn => "R002"
  | .elseAfterRaise => "R003"
  | .elseAfterBreak => "R004"
  | .elseAfterContinue => "R005"
  | .lookupWithDefault => "R006"
  | .itemsInstead => "R007"
  | .needlessKeys => "R009"
  | .dictOfPairs => "R010"
  | .equalityChain => "R011"
  | .splitComparison => "R012"
  | .repeatedInstanceCheck => "R013"
  | .equalsNone => "R014"
  | .equalsBool => "R015"
  | .typeEquality => "R016"

def severity : Rule → Severity
  | .manyBranches | .deepNesting | .unmanagedResource => .high
  | .longFunction | .manyArguments | .highComplexity | .textConcatenation | .repeatedCall
  | .crowdedBoolean | .identityWithBool | .lateExit | .nestedLookup | .loopInvariant
  | .duplicateBlock | .elseAfterReturn | .elseAfterRaise | .elseAfterBreak
  | .elseAfterContinue | .itemsInstead | .equalsNone | .typeEquality => .medium
  | .manyLocals | .listConcatenation | .negatedAnd | .negatedOr | .rangeLen
  | .lookupWithDefault | .dictOfPairs | .equalityChain | .splitComparison
  | .repeatedInstanceCheck => .low
  | .redundantList | .lenPositive | .lenZero | .manualIndex | .needlessKeys
  | .equalsBool => .info

end Rule

end RefactorAdvice
