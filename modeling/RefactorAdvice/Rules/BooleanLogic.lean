import RefactorAdvice.Code.Tree
import RefactorAdvice.Rules.Notice
import RefactorAdvice.Settings.Basic

/-!
Boolean expressions that are hard to read: too many operators, identity with a truth value,
a negated group, and tests nested around an early exit.
-/

namespace RefactorAdvice.Rules.BooleanLogic

open Code

section Operators

structure Count where
  found : Int
  pending : List Expr

namespace Count

/-- One turn takes the first operation that is pending and counts its operators; those of its
operands that are operations themselves become pending. -/
def turn (c : Count) : Count :=
  match c.pending with
  | [] => c
  | .boolOp _ _ values :: rest =>
    ⟨c.found + ((values.length : Int) - 1), (values.filter Expr.isBoolOp).reverse ++ rest⟩
  | _ :: rest => ⟨c.found, rest⟩

noncomputable def size (es : List Expr) : Nat := es.foldr (fun e n => sizeOf e + 1 + n) 0

theorem size_append (first second : List Expr) :
    size (first ++ second) = size first + size second := by
  induction first with
  | nil => simp [size]
  | cons e rest ih => simpa [size, Nat.add_assoc] using ih

theorem size_operations (values : List Expr) :
    size (values.filter Expr.isBoolOp).reverse < sizeOf values := by
  induction values with
  | nil => simp [size]
  | cons e rest ih =>
    rw [List.filter_cons, List.cons.sizeOf_spec]
    split
    · rw [List.reverse_cons, size_append]
      change _ + (sizeOf e + 1 + 0) < _
      omega
    · omega

theorem turn_smaller (c : Count) (more : c.pending ≠ []) :
    size c.turn.pending < size c.pending := by
  obtain ⟨found, pending⟩ := c
  cases pending with
  | nil => exact absurd rfl more
  | cons e rest =>
    change _ < sizeOf e + 1 + size rest
    unfold turn
    split
    · contradiction
    · rename_i span op values _ same
      cases same
      have inside := size_operations values
      rw [size_append, Expr.boolOp.sizeOf_spec]
      omega
    · rename_i same
      cases same
      change size rest < _
      omega

def run (c : Count) : Int :=
  if c.pending.isEmpty then c.found else c.turn.run
termination_by size c.pending
decreasing_by
  rename_i more
  exact turn_smaller c (by simpa using more)

end Count

def operatorCount (e : Expr) : Int := Count.run ⟨0, [e]⟩

def crowded (limits : Settings.BooleanLogic) (e : Expr) : Option Notice :=
  match e with
  | .boolOp span .. =>
    let count := operatorCount e
    let limit := limits.maxBooleanOperators
    if limit < count then
      some <| Rule.crowdedBoolean.notice span
        s!"Complex boolean expression with {count} operators (max {limit})"
        "Extract boolean sub-expressions to named variables for clarity"
    else none
  | _ => none

end Operators

def isBoolConstant : Expr → Bool
  | .constant _ (.bool _) => true
  | _ => false

def identity : Expr → Option Notice
  | .compare span _ ops comparators =>
    if comparators.any isBoolConstant && ops.contains .same then
      some <| Rule.identityWithBool.notice span "Using 'is' for boolean comparison"
        "Use '==' for value comparison or use the boolean directly"
    else none
  | _ => none

def negation : Expr → Option Notice
  | .unary span .not (.boolOp _ .and _) =>
    some <| Rule.negatedAnd.notice span "Complex negation can be simplified using De Morgan's law"
      "Replace 'not (a and b)' with 'not a or not b'"
  | .unary span .not (.boolOp _ .or _) =>
    some <| Rule.negatedOr.notice span "Complex negation can be simplified using De Morgan's law"
      "Replace 'not (a or b)' with 'not a and not b'"
  | _ => none

section EarlyExit

def leastLevels : Nat := 3

/-- The number of tests, each the only statement of the one around it, around a lone exit. -/
def exitLevels? : Stmt → Option Nat
  | .ifElse _ _ [.ret ..] _ | .ifElse _ _ [.raise ..] _ => some 1
  | .ifElse _ _ [inner] _ => (exitLevels? inner).map (· + 1)
  | _ => none

def lateExit (s : Stmt) : Option Notice :=
  match exitLevels? s with
  | some levels =>
    if leastLevels ≤ levels then
      some <| Rule.lateExit.notice s.span
        s!"Deeply nested if statements ({levels} levels) with early exit"
        "Use guard clauses with early returns to reduce nesting"
    else none
  | none => none

end EarlyExit

def insideFunction (outside : Bool) (around : List Node) : Bool :=
  outside || around.any Node.isFunction

def check (limits : Settings.BooleanLogic) (inside : Bool) : Node → Option Notice
  | .expr e@(.boolOp ..) => crowded limits e
  | .expr e@(.compare ..) => identity e
  | .expr e@(.unary ..) => negation e
  | .stmt s@(.ifElse ..) => if inside then lateExit s else none
  | _ => none

def placedNotices (limits : Settings.BooleanLogic) (outside : Bool) (module : Module) :
    List (List Node × Notice) :=
  (module.tree.places []).filterMap fun (around, node) =>
    (check limits (insideFunction outside around) node).map fun n => (around, n)

def notices (limits : Settings.BooleanLogic) (outside : Bool) (module : Module) : Notices :=
  (placedNotices limits outside module).map fun (_, n) => .ok n

/--
Whether a run ends inside a function. A run that fails stops where it is, so it does if its
first failing notice stands in one.
-/
def endsInside (limits : Settings.BooleanLogic) (outside : Bool) (l : Listing)
    (module : Module) : Bool :=
  match (placedNotices limits outside module).find? fun (_, n) =>
      !((l.publish "" n).toOption.isSome) with
  | some (around, _) => insideFunction outside around
  | none => outside

end RefactorAdvice.Rules.BooleanLogic
