import RefactorAdvice.Settings.Coercion

/-!
Settings from a file of sections. What is not set keeps its usual value; a value that cannot be
read is refused.
-/

namespace RefactorAdvice.Settings

abbrev Lookup := String → String → Except Refusal (Option String)

section Options

def option (look : Lookup) (header name : String) (read : String → Except Refusal α) (usual : α) :
    Except Refusal α := do
  match ← look header name with
  | some text => read text
  | none => return usual

def readSwitch (text : String) : Except Refusal Bool :=
  match switchWord? (lowered text) with
  | some value => .ok value
  | none => .error (.notBoolean text)

def readInt (text : String) : Except Refusal Int := (Number.readInteger text).mapError .badNumber

def readFloat (text : String) : Except Refusal Binary64 :=
  (Number.readFloat text).mapError .badNumber

def switchOption (look : Lookup) (header : String) : Except Refusal Bool :=
  option look header "enabled" readSwitch true

def intOption (look : Lookup) (header name : String) (usual : Int) : Except Refusal Int :=
  option look header name readInt usual

end Options

/-- Settings from options, in the order in which they are looked up. -/
def ofLookup (look : Lookup) : Except Refusal Settings := do
  let usual : Settings := {}
  let limit (name : String) (usual : Int) := intOption look "complexity" name usual
  let complexity : Complexity := {
    enabled := ← switchOption look "complexity"
    maxBranches := ← limit "max_branches" usual.complexity.maxBranches
    maxNestingDepth := ← limit "max_nesting_depth" usual.complexity.maxNestingDepth
    maxFunctionLines := ← limit "max_function_lines" usual.complexity.maxFunctionLines
    maxArguments := ← limit "max_arguments" usual.complexity.maxArguments
    maxLocalVariables := ← limit "max_local_variables" usual.complexity.maxLocalVariables
    maxCyclomaticComplexity := ←
      limit "max_cyclomatic_complexity" usual.complexity.maxCyclomaticComplexity }
  let performance : Performance := {
    enabled := ← switchOption look "performance"
    minConcatenations := ←
      intOption look "performance" "min_concatenations" usual.performance.minConcatenations
    minDuplicateCalls := ←
      intOption look "performance" "min_duplicate_calls" usual.performance.minDuplicateCalls }
  let duplication : Duplication := {
    enabled := ← switchOption look "duplication"
    minDuplicateLines := ←
      intOption look "duplication" "min_duplicate_lines" usual.duplication.minDuplicateLines
    similarityThreshold := ←
      option look "duplication" "similarity_threshold" readFloat
        usual.duplication.similarityThreshold }
  let booleanLogic : BooleanLogic := {
    enabled := ← switchOption look "boolean_logic"
    maxBooleanOperators := ←
      intOption look "boolean_logic" "max_boolean_operators"
        usual.booleanLogic.maxBooleanOperators }
  checked {
    complexity, performance, duplication, booleanLogic
    loops := ⟨← switchOption look "loops"⟩
    contextManager := ⟨← switchOption look "context_manager"⟩
    controlFlow := ⟨← switchOption look "control_flow"⟩
    dictOperations := ⟨← switchOption look "dict_operations"⟩
    comparisons := ⟨← switchOption look "comparisons"⟩
    excludePatterns := ←
      option look "general" "exclude_patterns" (fun text => .ok (commaParts text)) [] }

def lookIn (document : Ini.Document) : Lookup := fun header name =>
  match document.get? header name with
  | none => .ok none
  | some (.ok text) => .ok (some text)
  | some (.error fault) => .error (.badReference fault)

def ofSections (document : Ini.Document) : Except Refusal Settings := ofLookup (lookIn document)

end RefactorAdvice.Settings
