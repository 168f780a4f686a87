import RefactorAdvice.Data.Basic
import RefactorAdvice.Settings.Basic

/-!
Settings written out: as a table, and as one line for the log.
-/

namespace RefactorAdvice.Settings

def sections (s : Settings) : List (String × List (String × Data)) :=
  let switch (x : Switch) : List (String × Data) := [("enabled", .bool x.enabled)]
  [("complexity",
    [("enabled", .bool s.complexity.enabled),
     ("max_branches", .int s.complexity.maxBranches),
     ("max_nesting_depth", .int s.complexity.maxNestingDepth),
     ("max_function_lines", .int s.complexity.maxFunctionLines),
     ("max_arguments", .int s.complexity.maxArguments),
     ("max_local_variables", .int s.complexity.maxLocalVariables),
     ("max_cyclomatic_complexity", .int s.complexity.maxCyclomaticComplexity)]),
   ("performance",
    [("enabled", .bool s.performance.enabled),
     ("min_concatenations", .int s.performance.minConcatenations),
     ("min_duplicate_calls", .int s.performance.minDuplicateCalls)]),
   ("duplication",
    [("enabled", .bool s.duplication.enabled),
     ("min_duplicate_lines", .int s.duplication.minDuplicateLines),
     ("similarity_threshold", .float s.duplication.similarityThreshold)]),
   ("boolean_logic",
    [("enabled", .bool s.booleanLogic.enabled),
     ("max_boolean_operators", .int s.booleanLogic.maxBooleanOperators)]),
   ("loops", switch s.loops),
   ("context_manager", switch s.contextManager),
   ("control_flow", switch s.controlFlow),
   ("dict_operations", switch s.dictOperations),
   ("comparisons", switch s.comparisons)]

def patterns (s : Settings) : Data := .list (s.excludePatterns.map .text)

def table (s : Settings) : List (String × Data) :=
  s.sections.map (fun (name, fields) => (name, .table fields)) ++ [("exclude_patterns", s.patterns)]

section Line

/-- A name of words with underscores between them, as one word with capitals. -/
def joinedName (name : String) : String :=
  String.join ((name.splitOn "_").map String.capitalize)

def spelledFields (fields : List (String × Data)) : String :=
  ", ".intercalate (fields.map fun (name, value) => name ++ "=" ++ value.spelled)

def spelled (s : Settings) : String :=
  let shown := s.sections.map fun (name, fields) =>
    name ++ "=" ++ joinedName name ++ "Config(" ++ spelledFields fields ++ ")"
  "Config(" ++ ", ".intercalate (shown ++ ["exclude_patterns=" ++ s.patterns.spelled]) ++ ")"

end Line

end RefactorAdvice.Settings
