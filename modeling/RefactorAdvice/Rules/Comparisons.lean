import RefactorAdvice.Code.Likeness
import RefactorAdvice.Rules.Notice

/-!
Comparisons with a shorter or safer form: chains of equalities, split chains, repeated type
checks, equality with `None`, `True` or `False`, and equality of types.
-/

namespace RefactorAdvice.Rules.Comparisons

open Code

/-- Whether all expressions are alike the first; they are looked at in order up to one that is
not. -/
def allAlike (first : List Mark) : List Expr → Except Failure Bool
  | [] => .ok true
  | e :: rest => do
    if (← e.signature) == first then allAlike first rest else return false

def alikeAll : List Expr → Except Failure Bool
  | [] => .error .noOperand
  | first :: rest => do
    let signature ← first.signature
    allAlike signature (first :: rest)

section Equalities

def equality? : Expr → Option (Expr × List Expr)
  | .compare _ left [.eq] comparators => some (left, comparators.take 1)
  | _ => none

def equalityChain (span : Span) (values : List Expr) : Except Failure (Option Notice) :=
  match values.mapM equality? with
  | none => .ok none
  | some sides => do
    if !(← alikeAll (sides.map (·.1))) then return none
    match sides with
    | (left, _) :: _ :: _ =>
      let var ← left.render
      let texts ← (sides.flatMap (·.2)).mapM Expr.render
      let texts := ", ".intercalate texts
      return some <| Rule.equalityChain.notice span
        "Multiple equality comparisons can be simplified using 'in' operator"
        (s!"Use '{var} in ({texts})' instead of multiple '==' comparisons. " ++
          "Use a set if values are hashable for O(1) lookup.")
    | _ => return none

end Equalities

section InstanceChecks

def instanceCheck? : Expr → Option (Expr × Expr)
  | .call _ (.name _ "isinstance" _) (object :: type :: _) _ => some (object, type)
  | _ => none

def instanceChecks (span : Span) (values : List Expr) : Except Failure (Option Notice) :=
  if values.length < 2 then .ok none
  else
    match values.mapM instanceCheck? with
    | some ((object, type) :: rest) => do
      let checks := (object, type) :: rest
      if !(← alikeAll (checks.map (·.1))) then return none
      let var ← object.render
      let types ← checks.mapM fun (_, type) => type.render
      let types := ", ".intercalate types
      return some <| Rule.repeatedInstanceCheck.notice span
        "Multiple isinstance checks can be combined"
        s!"Use 'isinstance({var}, ({types}))' instead of multiple isinstance comparisons"
    | _ => .ok none

end InstanceChecks

section Chains

def chainSymbol? (op : CompareOp) : Option String :=
  match op with
  | .less | .lessEq | .greater | .greaterEq | .eq | .notEq => some op.symbol
  | _ => none

/-- Two comparisons that share an operand, as one chain. -/
def chain? (first second : Expr) : Except Failure (Option String) :=
  match first, second with
  | .compare _ left [op] (mid :: _), .compare _ mid' [op'] comparators => do
    let one ← mid.signature
    let other ← mid'.signature
    if one != other then return none
    match chainSymbol? op, chainSymbol? op' with
    | some symbol, some next =>
      let left ← left.render
      let mid ← mid.render
      let right ← match comparators with
        | right :: _ => right.render
        | [] => pure "c"
      return some s!"{left} {symbol} {mid} {next} {right}"
    | _, _ => return none
  | _, _ => .ok none

def firstChain : List Expr → Except Failure (Option String)
  | first :: second :: rest => do
    match ← chain? first second with
    | some text => return some text
    | none => firstChain (second :: rest)
  | _ => .ok none

def splitComparison (span : Span) (values : List Expr) : Except Failure (Option Notice) := do
  match ← firstChain values with
  | none => return none
  | some text =>
    return some <| Rule.splitComparison.notice span
      "Comparison can be chained for better readability"
      s!"Use '{text}' instead of separate comparisons"

end Chains

section Singletons

inductive Singleton where
  | none
  | bool (value : Bool)
deriving DecidableEq

def singleton? : Expr → Option Singleton
  | .constant _ .none => some .none
  | .constant _ (.bool b) => some (.bool b)
  | _ => Option.none

def singletonSide? (left right : Expr) : Option (Singleton × Expr) :=
  match singleton? left with
  | some value => some (value, right)
  | Option.none => (singleton? right).map (·, left)

def noneNotice (span : Span) (negated : Bool) : Notice :=
  let good := if negated then "is not" else "is"
  let bad := if negated then "!=" else "=="
  Rule.equalsNone.notice span "Comparison with None should use 'is' or 'is not'"
    s!"Use '{good}' instead of '{bad}' when comparing with None"

def boolSuggestion (value negated : Bool) (other : String) : String :=
  match value, negated with
  | true, false => s!"Use '{other}' directly instead of comparing with True"
  | true, true => s!"Use 'not {other}' instead of '!= True'"
  | false, false => s!"Use 'not {other}' instead of comparing with False"
  | false, true => s!"Use '{other}' directly instead of '!= False'"

def singletonNotice (span : Span) (left right : Expr) (negated : Bool) :
    Except Failure (Option Notice) :=
  match singletonSide? left right with
  | Option.none => .ok Option.none
  | some (.none, _) => .ok (some (noneNotice span negated))
  | some (.bool value, other) => do
    let text ← other.render
    let name := if value then "True" else "False"
    return some <| Rule.equalsBool.notice span s!"Redundant comparison with {name}"
      (boolSuggestion value negated text)

def singleton : Expr → Except Failure (Option Notice)
  | .compare span left [.eq] (right :: _) => singletonNotice span left right false
  | .compare span left [.notEq] (right :: _) => singletonNotice span left right true
  | _ => .ok Option.none

end Singletons

section Types

def typeEquality : Expr → Except Failure (Option Notice)
  | .compare span (.call _ (.name _ "type" _) [object] _) [op] comparators =>
    if op == .eq || op == .same then do
      let object ← object.render
      let type ← match comparators with
        | right :: _ => right.render
        | [] => pure "Type"
      return some <| Rule.typeEquality.notice span
        "Use isinstance() for type checking instead of type() comparison"
        (s!"Use 'isinstance({object}, {type})' instead of " ++
          s!"'type({object}) == {type}'")
    else .ok Option.none
  | _ => .ok Option.none

end Types

def asNotices : Except Failure (Option Notice) → Notices
  | .ok found => found.toList.map .ok
  | .error failure => [.error failure]

def check : Node → Notices
  | .expr (.boolOp span .or values) =>
    asNotices (equalityChain span values) ++ asNotices (instanceChecks span values)
  | .expr (.boolOp span .and values) => asNotices (splitComparison span values)
  | .expr e@(.compare ..) => asNotices (singleton e) ++ asNotices (typeEquality e)
  | _ => []

def notices (module : Module) : Notices := module.tree.preorder.flatMap check

end RefactorAdvice.Rules.Comparisons
