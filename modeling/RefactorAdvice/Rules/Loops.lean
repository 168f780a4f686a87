import RefactorAdvice.Code.Likeness
import RefactorAdvice.Rules.Notice

/-!
Loops with a better form: over `range(len(…))`, with an index counted by hand, nested with
lookups inside, or with work inside that does not depend on the loop.
-/

namespace RefactorAdvice.Rules.Loops

open Code

section RangeLen

def measured? : Expr → Option Expr
  | .call _ (.name _ "range" _) (.call _ (.name _ "len" _) (collection :: _) _ :: _) _ =>
    some collection
  | _ => none

def indexedBy? (index : String) : Node → Option Expr
  | .expr (.subscript _ value (.name _ id _) _) => if id == index then some value else none
  | _ => none

/-- Whether some expression has the signature; looked at in order up to the first that has. -/
def anyAlike (signature : List Mark) : List Expr → Except Failure Bool
  | [] => .ok false
  | e :: rest => do
    if (← e.signature) == signature then return true else anyAlike signature rest

def rangeLen (span : Span) (target iter : Expr) (body : List Stmt) :
    Except Failure (Option Notice) :=
  match measured? iter, target with
  | some collection, .name _ index _ => do
    let signature ← collection.signature
    let nodes := (stmtTrees body).flatMap Tree.breadthFirst
    if ← anyAlike signature (nodes.filterMap (indexedBy? index)) then
      return some <| Rule.rangeLen.notice span "Use enumerate() instead of range(len())"
        "Replace 'for i in range(len(items)):' with 'for i, item in enumerate(items):'"
    else return none
  | _, _ => .ok none

end RangeLen

section ManualIndex

def increased? : Node → Option String
  | .stmt (.augAssign _ (.name _ id _) .add (.constant _ value)) =>
    if value.equals 1 then some id else none
  | _ => none

def sortedNames (names : List String) : List String :=
  names.eraseDups.mergeSort fun a b => decide (a ≤ b)

def manualIndex (span : Span) (body : List Stmt) : Option Notice :=
  let names := sortedNames ((preorders (stmtTrees body)).filterMap increased?)
  if names.isEmpty then none
  else
    some <| Rule.manualIndex.notice span
      ("Manual index tracking detected: " ++ ", ".intercalate names)
      "Use enumerate() to track indices automatically"

end ManualIndex

section Nesting

mutual
/-- The depth of the deepest loop in a statement, if loops that stand there are at the given depth;
zero if there is none. Definitions are not looked into, nor the `else` of a loop. -/
def deepest (depth : Nat) : Stmt → Nat
  | .forLoop _ _ _ _ body _ => max depth (deepestOf (depth + 1) body)
  | .whileLoop _ _ body _ => max depth (deepestOf (depth + 1) body)
  | .ifElse _ _ body orelse => max (deepestOf depth body) (deepestOf depth orelse)
  | .withBlock _ _ _ body => deepestOf depth body
  | .matchOn _ _ cases => deepestOfCases depth cases
  | .tryBlock _ _ body handlers orelse finalbody =>
    max (max (deepestOf depth body) (deepestOfHandlers depth handlers))
      (max (deepestOf depth orelse) (deepestOf depth finalbody))
  | _ => 0

def deepestOf (depth : Nat) : List Stmt → Nat
  | [] => 0
  | s :: rest => max (deepest depth s) (deepestOf depth rest)

def deepestOfHandlers (depth : Nat) : List (Handler Stmt) → Nat
  | [] => 0
  | ⟨_, _, _, body⟩ :: rest => max (deepestOf depth body) (deepestOfHandlers depth rest)

def deepestOfCases (depth : Nat) : List (MatchCase Stmt) → Nat
  | [] => 0
  | ⟨_, _, body⟩ :: rest => max (deepestOf depth body) (deepestOfCases depth rest)
end

def nestingDepth (body : List Stmt) : Nat := max 1 (deepestOf 2 body)

def freeDepth : Nat := 2

def isLookup : Node → Bool
  | .expr (.compare _ _ ops _) => ops.contains .member || ops.contains .notMember
  | .expr (.subscript ..) => true
  | _ => false

mutual
/-- Whether there is a lookup in one of the statements, or in the body of one that is a loop. -/
def lookupIn : List Stmt → Bool
  | [] => false
  | s :: rest => s.tree.preorder.any isLookup || lookupInLoop s || lookupIn rest

def lookupInLoop : Stmt → Bool
  | .forLoop _ _ _ _ body _ => lookupIn body
  | .whileLoop _ _ body _ => lookupIn body
  | _ => false
end

def nestedLookup (span : Span) (body : List Stmt) : Option Notice :=
  if freeDepth < nestingDepth body && lookupIn body then
    some <| Rule.nestedLookup.notice span "Nested loops with comparisons detected"
      "Consider using a dictionary or set for O(1) lookups instead of nested iteration"
  else none

end Nesting

section Invariants

def costlyMethods : List String := ["compile", "search", "match", "split", "findall", "sub"]

def isInvariantCall (names : List String) : Node → Bool
  | .expr e@(.call _ (.attribute _ _ attr _) _ _) =>
    costlyMethods.contains attr &&
      e.tree.preorder.all fun node => node.name?.all fun id => !names.contains id
  | _ => false

def invariant (span : Span) (names : List String) (body : List Stmt) : Option Notice :=
  if (preorders (stmtTrees body)).any (isInvariantCall names) then
    some <| Rule.loopInvariant.notice span "Loop-invariant code detected inside loop"
      "Move computations that don't depend on loop variable outside the loop"
  else none

def forInvariant (span : Span) (target : Expr) (body : List Stmt) : Option Notice :=
  match target with
  | .name _ id _ => invariant span [id] body
  | _ => none

def whileInvariant (span : Span) (test : Expr) (body : List Stmt) : Option Notice :=
  invariant span (test.tree.preorder.filterMap Node.name?) body

end Invariants

def check : Node → Notices
  | .stmt (.forLoop span _ target iter body _) =>
    (match rangeLen span target iter body with
      | .ok found => found.toList.map .ok
      | .error failure => [.error failure]) ++
    ((manualIndex span body).toList ++ (nestedLookup span body).toList ++
      (forInvariant span target body).toList).map .ok
  | .stmt (.whileLoop span test body _) =>
    ((manualIndex span body).toList ++ (nestedLookup span body).toList ++
      (whileInvariant span test body).toList).map .ok
  | _ => []

def notices (module : Module) : Notices := module.tree.preorder.flatMap check

end RefactorAdvice.Rules.Loops
