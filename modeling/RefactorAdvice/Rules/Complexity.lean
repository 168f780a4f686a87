import RefactorAdvice.Code.Metrics
import RefactorAdvice.Rules.Notice
import RefactorAdvice.Settings.Basic

/-!
Limits on the size of a function: lines, arguments, local names, branches, nesting and
cyclomatic complexity.
-/

namespace RefactorAdvice.Rules.Complexity

open Code

structure Subject where
  span : Span
  name : String
  params : Parameters Expr
  body : List Stmt
  metrics : Metrics

def Subject.of? : Node → Option Subject
  | .stmt f@(.function span _ name params body _ _) =>
    some { span, name, params, body, metrics := f.tree.metrics }
  | _ => none

section Measures

def Subject.lastLine (f : Subject) : Option Int :=
  match f.span.endLine, f.body.getLast? with
  | some line, _ => some line
  | none, none => f.span.placed.map (↑·)
  | none, some s =>
    match s.span.endLine with
    | some line => some line
    | none => s.span.placed.map (↑·)

/-- All parameters, less a leading `self` or `cls`. -/
def Subject.argumentCount (f : Subject) : Nat :=
  let ps := f.params
  let total := ps.regular.length + ps.positionalOnly.length + ps.keywordOnly.length +
    (if ps.variadic.isSome then 1 else 0) + (if ps.keywordVariadic.isSome then 1 else 0)
  match ps.regular with
  | first :: _ => if first.name == "self" || first.name == "cls" then total - 1 else total
  | [] => total

end Measures

section Checks

def excess (f : Subject) (rule : Rule) (value limit : Int) (message suggestion : String)
    (endLine : Option Int) : Option Notice :=
  if limit < value then
    some { rule.notice f.span message suggestion with endLine, placeNeeded := true }
  else none

def lengthNotice (limits : Settings.Complexity) (f : Subject) : Option Notice :=
  match f.span.placed, f.lastLine with
  | some first, some last =>
    let count := last - first + 1
    let limit := limits.maxFunctionLines
    excess f .longFunction count limit
      s!"Function '{f.name}' is too long ({count} lines, max {limit})"
      "Consider breaking this function into smaller, more focused functions" (some last)
  | _, _ => none

def argumentsNotice (limits : Settings.Complexity) (f : Subject) : Option Notice :=
  let count := f.argumentCount
  let limit := limits.maxArguments
  excess f .manyArguments count limit
    s!"Function '{f.name}' has too many arguments ({count}, max {limit})"
    "Consider using a configuration object or dataclass to group related parameters" none

def localsNotice (limits : Settings.Complexity) (f : Subject) : Option Notice :=
  let count := f.metrics.localNames.length
  let limit := limits.maxLocalVariables
  excess f .manyLocals count limit
    s!"Function '{f.name}' has too many local variables ({count}, max {limit})"
    "Consider extracting functionality into helper functions or classes" none

def branchesNotice (limits : Settings.Complexity) (f : Subject) : Option Notice :=
  let count := f.metrics.branches
  let limit := limits.maxBranches
  excess f .manyBranches count limit
    s!"Function '{f.name}' has too many branches ({count}, max {limit})"
    "Refactor using helper functions, guard clauses, or dictionary dispatch patterns" none

def nestingNotice (limits : Settings.Complexity) (f : Subject) : Option Notice :=
  let depth := f.metrics.nesting
  let limit := limits.maxNestingDepth
  excess f .deepNesting depth limit
    s!"Function '{f.name}' has excessive nesting depth ({depth}, max {limit})"
    "Use early returns, guard clauses, or extract nested logic to separate functions" none

def complexityNotice (limits : Settings.Complexity) (f : Subject) : Option Notice :=
  let value := f.metrics.complexity
  let limit := limits.maxCyclomaticComplexity
  excess f .highComplexity value limit
    s!"Function '{f.name}' has high cyclomatic complexity ({value}, max {limit})"
    "Simplify the function by reducing decision points or extracting logic" none

def check (limits : Settings.Complexity) (f : Subject) : List Notice :=
  [lengthNotice limits f, argumentsNotice limits f, localsNotice limits f,
   branchesNotice limits f, nestingNotice limits f, complexityNotice limits f].filterMap id

end Checks

def notices (limits : Settings.Complexity) (module : Module) : Notices :=
  module.tree.preorder.flatMap fun node =>
    match Subject.of? node with
    | some f => (check limits f).map .ok
    | none => []

end RefactorAdvice.Rules.Complexity
