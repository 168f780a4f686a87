import RefactorAdvice.Settings.Coercion

/-!
Settings from the table of a data file. What is not set keeps its usual value; a value of the
wrong kind is passed over with a warning.
-/

namespace RefactorAdvice.Settings

section Fields

/-- A field of a section, taken by `read`; what cannot be taken is passed over. -/
def field (header name kind : String) (read : Data → Except Refusal (Option α)) (usual : α)
    (table : List (String × Data)) : Loading α :=
  match Data.lookup name table with
  | none => return usual
  | some raw => do
    match ← liftRefusal (read raw) with
    | some value => return value
    | none =>
      let shown := raw.spelled
      warn s!"Ignoring invalid {header}.{name} value {shown} (expected {kind})"
      return usual

def boolField (header : String) (usual : Bool) (table : List (String × Data)) : Loading Bool :=
  field header "enabled" "bool" (fun raw => .ok (asBool? raw)) usual table

def intField (header name : String) (usual : Int) (table : List (String × Data)) : Loading Int :=
  field header name "int" asInt usual table

def floatField (header name : String) (usual : Binary64) (table : List (String × Data)) :
    Loading Binary64 :=
  field header name "float" asFloat usual table

/-- The table of a section; what is no table counts as an empty one. -/
def sectionTable (name : String) (table : List (String × Data)) : List (String × Data) :=
  match Data.lookup name table with
  | some (.table entries) => entries
  | _ => []

end Fields

section Sections

def complexityOf (table : List (String × Data)) : Loading Complexity := do
  let usual : Complexity := {}
  let read (name : String) (usual : Int) := intField "complexity" name usual table
  return {
    enabled := ← boolField "complexity" usual.enabled table
    maxBranches := ← read "max_branches" usual.maxBranches
    maxNestingDepth := ← read "max_nesting_depth" usual.maxNestingDepth
    maxFunctionLines := ← read "max_function_lines" usual.maxFunctionLines
    maxArguments := ← read "max_arguments" usual.maxArguments
    maxLocalVariables := ← read "max_local_variables" usual.maxLocalVariables
    maxCyclomaticComplexity := ← read "max_cyclomatic_complexity" usual.maxCyclomaticComplexity }

def performanceOf (table : List (String × Data)) : Loading Performance := do
  let usual : Performance := {}
  return {
    enabled := ← boolField "performance" usual.enabled table
    minConcatenations := ←
      intField "performance" "min_concatenations" usual.minConcatenations table
    minDuplicateCalls := ←
      intField "performance" "min_duplicate_calls" usual.minDuplicateCalls table }

def duplicationOf (table : List (String × Data)) : Loading Duplication := do
  let usual : Duplication := {}
  return {
    enabled := ← boolField "duplication" usual.enabled table
    minDuplicateLines := ←
      intField "duplication" "min_duplicate_lines" usual.minDuplicateLines table
    similarityThreshold := ←
      floatField "duplication" "similarity_threshold" usual.similarityThreshold table }

def booleanLogicOf (table : List (String × Data)) : Loading BooleanLogic := do
  let usual : BooleanLogic := {}
  return {
    enabled := ← boolField "boolean_logic" usual.enabled table
    maxBooleanOperators := ←
      intField "boolean_logic" "max_boolean_operators" usual.maxBooleanOperators table }

def switchOf (header : String) (table : List (String × Data)) : Loading Switch := do
  return { enabled := ← boolField header true table }

def patternsOf (table : List (String × Data)) : Except Refusal (List String) :=
  match Data.lookup "exclude_patterns" table with
  | some raw => (asList raw).map (·.getD [])
  | none => .ok []

end Sections

def ofOwnTable (table : List (String × Data)) : Loading Settings := do
  let settings : Settings := {
    complexity := ← complexityOf (sectionTable "complexity" table)
    performance := ← performanceOf (sectionTable "performance" table)
    duplication := ← duplicationOf (sectionTable "duplication" table)
    booleanLogic := ← booleanLogicOf (sectionTable "boolean_logic" table)
    loops := ← switchOf "loops" (sectionTable "loops" table)
    contextManager := ← switchOf "context_manager" (sectionTable "context_manager" table)
    controlFlow := ← switchOf "control_flow" (sectionTable "control_flow" table)
    dictOperations := ← switchOf "dict_operations" (sectionTable "dict_operations" table)
    comparisons := ← switchOf "comparisons" (sectionTable "comparisons" table)
    excludePatterns := ← liftRefusal (patternsOf table) }
  liftRefusal settings.checked

def ownTable (table : List (String × Data)) : Except Refusal (List (String × Data)) :=
  match (Data.lookup "tool" table).getD (.table []) with
  | .table tools =>
    match (Data.lookup "pyrefactor" tools).getD (.table []) with
    | .table own => .ok own
    | _ => .error .badSettingsTable
  | other => .error (.notTable other.kindName)

def ofTable (table : List (String × Data)) : Loading Settings := do
  ofOwnTable (← liftRefusal (ownTable table))

def isSetIn (table : List (String × Data)) : Bool :=
  match ownTable table with
  | .ok own => !own.isEmpty
  | .error _ => false

end RefactorAdvice.Settings
