import RefactorAdvice.Code.Tree

/-!
Measures of a function: its local names, its branches, how deep its blocks nest and how many
ways lead through it. One walk through the function takes all of them, with a gauge that is read
at the end. A function or class inside it counts for nothing.
-/

namespace RefactorAdvice.Code

structure Metrics where
  /-- Without repetition. -/
  localNames : List String
  branches : Nat
  nesting : Nat
  complexity : Int
deriving DecidableEq, Inhabited

section Kinds

def Node.isDefinition : Node → Bool
  | .stmt (.function ..) | .stmt (.cls ..) => true
  | _ => false

def Node.isBlock : Node → Bool
  | .stmt (.forLoop ..) | .stmt (.whileLoop ..) | .stmt (.ifElse ..) | .stmt (.withBlock ..)
  | .stmt (.tryBlock ..) | .stmt (.matchOn ..) => true
  | _ => false

def isElif : List Stmt → Bool
  | [.ifElse ..] => true
  | _ => false

mutual
def Expr.storedNames : Expr → List String
  | .name _ id .store => [id]
  | .tuple _ elements _ => storedNamesOf elements
  | .list _ elements _ => storedNamesOf elements
  | .starred _ value _ => value.storedNames
  | _ => []

def storedNamesOf : List Expr → List String
  | [] => []
  | e :: rest => e.storedNames ++ storedNamesOf rest
end

def WithItem.storedNames (item : WithItem) : List String :=
  match item.target with
  | some target => target.storedNames
  | none => []

end Kinds

section Walking

structure Gauge where
  names : List String := []
  branches : Nat := 0
  depth : Nat := 0
  deepest : Nat := 0
  complexity : Int := 1
deriving DecidableEq, Inhabited

namespace Gauge

def bind (g : Gauge) (names : List String) : Gauge :=
  { g with names := names.foldr List.insert g.names }

def branch (g : Gauge) (count : Nat) : Gauge := { g with branches := g.branches + count }

def ways (g : Gauge) (count : Int) : Gauge := { g with complexity := g.complexity + count }

def descend (g : Gauge) : Gauge :=
  { g.ways 1 with depth := g.depth + 1, deepest := max g.deepest (g.depth + 1) }

/-- What a node adds on arrival. The targets of assignments, loops and `with` blocks are looked
through here, and once more where the walk comes to the names in them. -/
def arrive (g : Gauge) : Node → Gauge
  | .expr (.name _ id .store) => g.bind [id]
  | .expr (.boolOp _ _ values) => g.ways (values.length - 1)
  | .stmt (.assign _ targets _) => g.bind (storedNamesOf targets)
  | .stmt (.annAssign _ target ..) => g.bind target.storedNames
  | .stmt (.forLoop _ _ target ..) => ((g.bind target.storedNames).branch 1).descend
  | .stmt (.whileLoop ..) => (g.branch 1).descend
  | .stmt (.ifElse _ _ _ orelse) =>
    (g.branch (if orelse.isEmpty || isElif orelse then 1 else 2)).descend
  | .stmt (.withBlock _ _ items _) => (g.bind (items.flatMap WithItem.storedNames)).descend
  | .stmt (.tryBlock ..) => g.descend
  | .stmt (.matchOn _ _ cases) => ((g.branch cases.length).ways cases.length).descend
  | .stmt (.assert ..) => g.ways 1
  | .handler h => ((g.bind h.name.toList).branch 1).ways 1
  | _ => g

def depart (g : Gauge) (node : Node) : Gauge :=
  if node.isBlock then { g with depth := g.depth - 1 } else g

def metrics (g : Gauge) : Metrics :=
  { localNames := g.names
    branches := g.branches
    nesting := g.deepest
    complexity := g.complexity }

end Gauge

mutual
def Tree.gauge : Tree → Gauge → Gauge
  | .node root branches, g =>
    if root.isDefinition then g else (gauges branches (g.arrive root)).depart root

def gauges : List Tree → Gauge → Gauge
  | [], g => g
  | t :: rest, g => gauges rest (t.gauge g)
end

end Walking

def Tree.metrics (t : Tree) : Metrics := (gauges t.branches {}).metrics

/-- How deep blocks nest in a node: a function counts from its inside, a class not at all. -/
def Tree.nestingDepth (t : Tree) : Nat :=
  if t.root.isFunction then t.metrics.nesting else (t.gauge {}).deepest

structure Measured where
  name : String
  span : Span
  metrics : Metrics

def Module.measured (m : Module) : List Measured :=
  let found := m.tree.breadthFirst.filterMap fun
    | .stmt f@(.function span _ name ..) => some { name, span, metrics := f.tree.metrics }
    | _ => none
  found.mergeSort fun a b =>
    let (line, column) := (a.span.line.getD 0, a.span.columnOrZero)
    let (otherLine, otherColumn) := (b.span.line.getD 0, b.span.columnOrZero)
    decide (line < otherLine ∨ (line = otherLine ∧ column ≤ otherColumn))

end RefactorAdvice.Code
