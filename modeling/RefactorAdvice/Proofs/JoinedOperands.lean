import Mathlib.Logic.Function.Iterate
import RefactorAdvice.Rules.BooleanLogic

/-!
What a boolean operation joins. The operands of an expression are listed from left to right, those
of an operand that is an operation itself in its place, so that brackets leave no trace. Each turn
of a count takes one operation from those that are pending, and what it finds is what it takes away
from the operators that are still to be found. So a count ends, after as many turns as there are
operations, and has found one operator less than there are operands. Of a node at most one thing is
said, and its rule tells which.
-/

namespace RefactorAdvice.Rules.BooleanLogic

open Code

section Operands

mutual
def operands : Expr → List Expr
  | .boolOp _ _ values => operandsOf values
  | e => [e]

def operandsOf : List Expr → List Expr
  | [] => []
  | e :: rest => operands e ++ operandsOf rest
end

mutual
def operations : Expr → Nat
  | .boolOp _ _ values => 1 + operationsOf values
  | _ => 0

def operationsOf : List Expr → Nat
  | [] => 0
  | e :: rest => operations e + operationsOf rest
end

@[simp]
theorem operands_of_nil : operandsOf [] = [] := rfl

@[simp]
theorem operands_of_cons (e : Expr) (rest : List Expr) :
    operandsOf (e :: rest) = operands e ++ operandsOf rest := rfl

@[simp]
theorem operands_join (span : Span) (op : BoolOp) (values : List Expr) :
    operands (.boolOp span op values) = operandsOf values := rfl

@[simp]
theorem operations_of_nil : operationsOf [] = 0 := rfl

@[simp]
theorem operations_of_cons (e : Expr) (rest : List Expr) :
    operationsOf (e :: rest) = operations e + operationsOf rest := rfl

@[simp]
theorem operations_join (span : Span) (op : BoolOp) (values : List Expr) :
    operations (.boolOp span op values) = 1 + operationsOf values := rfl

theorem lone_operand {e : Expr} (other : e.isBoolOp = false) :
    operands e = [e] ∧ operations e = 0 := by
  cases e with
  | boolOp => cases other
  | _ => exact ⟨rfl, rfl⟩

theorem operands_append (first second : List Expr) :
    operandsOf (first ++ second) = operandsOf first ++ operandsOf second := by
  induction first with
  | nil => rfl
  | cons e rest ih => simp [ih]

theorem operations_append (first second : List Expr) :
    operationsOf (first ++ second) = operationsOf first + operationsOf second := by
  induction first with
  | nil => simp
  | cons e rest ih => simp [ih, Nat.add_assoc]

-- What does not become pending joins itself alone, and is counted where it stands.
theorem pending_operands (values : List Expr) :
    (operandsOf (values.filter Expr.isBoolOp).reverse).length + values.length =
      (operandsOf values).length + (values.filter Expr.isBoolOp).length := by
  induction values with
  | nil => rfl
  | cons e rest ih =>
    rw [operands_of_cons, List.length_append, List.length_cons, List.filter_cons]
    split
    · simp only [List.reverse_cons, operands_append, List.length_append, List.length_cons,
        operands_of_cons, operands_of_nil, List.append_nil]
      omega
    · rename_i other
      rw [(lone_operand (by simpa using other)).1, List.length_singleton]
      omega

theorem pending_operations (values : List Expr) :
    operationsOf (values.filter Expr.isBoolOp).reverse = operationsOf values := by
  induction values with
  | nil => rfl
  | cons e rest ih =>
    rw [operations_of_cons, List.filter_cons]
    split
    · simp only [List.reverse_cons, operations_append, ih, operations_of_cons, operations_of_nil]
      omega
    · rename_i other
      rw [ih, (lone_operand (by simpa using other)).2, Nat.zero_add]

end Operands

namespace Count

/-- What a count comes to: the operators found, and for each pending expression one operator less
than it has operands. -/
def outcome (c : Count) : Int :=
  c.found + (operandsOf c.pending).length - c.pending.length

theorem turn_outcome (c : Count) : c.turn.outcome = c.outcome := by
  obtain ⟨found, pending⟩ := c
  unfold turn
  split
  · rfl
  · rename_i span op values rest same
    cases same
    have kept := pending_operands values
    simp only [outcome, operands_append, operands_of_cons, operands_join, List.length_append,
      List.length_reverse, List.length_cons]
    omega
  · rename_i e rest other same
    cases same
    have alone : e.isBoolOp = false := by
      cases e with
      | boolOp span op values => exact (other span op values rfl).elim
      | _ => rfl
    simp only [outcome, operands_of_cons, (lone_operand alone).1, List.length_append,
      List.length_cons, List.length_nil]
    omega

theorem run_outcome (c : Count) : c.run = c.outcome := by
  fun_induction run c with
  | case1 c empty => simp [outcome, List.isEmpty_iff.mp empty]
  | case2 c _ ih => rw [ih, turn_outcome]

def Proper (c : Count) : Prop := ∀ e ∈ c.pending, e.isBoolOp = true

theorem turn_proper {c : Count} (proper : c.Proper) (more : c.pending ≠ []) :
    c.turn.Proper ∧ operationsOf c.turn.pending + 1 = operationsOf c.pending := by
  obtain ⟨found, pending⟩ := c
  unfold turn
  split
  · contradiction
  · rename_i span op values rest same
    cases same
    constructor
    · intro e member
      rcases List.mem_append.mp member with own | later
      · exact (List.mem_filter.mp (List.mem_reverse.mp own)).2
      · exact proper e (List.mem_cons_of_mem _ later)
    · simp only [operations_append, pending_operations, operations_of_cons, operations_join]
      omega
  · rename_i e rest other same
    cases same
    have operation := proper e List.mem_cons_self
    cases e with
    | boolOp span op values => exact (other span op values rfl).elim
    | _ => cases operation

/-- A count ends after one turn for each operation. -/
theorem turns_end (n : Nat) (c : Count) (proper : c.Proper) (left : operationsOf c.pending = n) :
    turn^[n] c = ⟨c.outcome, []⟩ := by
  induction n generalizing c with
  | zero =>
    obtain ⟨found, pending⟩ := c
    cases pending with
    | nil => simp [outcome]
    | cons e rest =>
      have operation := proper e List.mem_cons_self
      cases e with
      | boolOp span op values => simp at left
      | _ => cases operation
  | succ n ih =>
    have more : c.pending ≠ [] := by
      intro none
      rw [none] at left
      cases left
    obtain ⟨still, fewer⟩ := turn_proper proper more
    rw [Function.iterate_succ_apply, ih c.turn still (by omega), turn_outcome]

end Count

section Totals

theorem operator_count_eq (e : Expr) : operatorCount e = ((operands e).length : Int) - 1 := by
  rw [operatorCount, Count.run_outcome]
  simp [Count.outcome]

theorem operator_count_other {e : Expr} (other : e.isBoolOp = false) : operatorCount e = 0 := by
  rw [operator_count_eq, (lone_operand other).1]
  rfl

def operatorCounts : List Expr → Int
  | [] => 0
  | e :: rest => operatorCount e + operatorCounts rest

theorem operands_counted (es : List Expr) :
    ((operandsOf es).length : Int) = es.length + operatorCounts es := by
  induction es with
  | nil => rfl
  | cons e rest ih =>
    rw [operands_of_cons, List.length_append, operatorCounts, operator_count_eq, List.length_cons]
    omega

/-- An operation has the operators between its operands and those in them. -/
theorem operator_count_join (span : Span) (op : BoolOp) (values : List Expr) :
    operatorCount (.boolOp span op values) = (values.length : Int) - 1 + operatorCounts values := by
  rw [operator_count_eq, operands_join, operands_counted]
  omega

end Totals

section Notices

def lateNotice (s : Stmt) (levels : Nat) : Notice :=
  Rule.lateExit.notice s.span s!"Deeply nested if statements ({levels} levels) with early exit"
    "Use guard clauses with early returns to reduce nesting"

inductive Said (limits : Settings.BooleanLogic) (inside : Bool) : Node → Rule → Notice → Prop
  | crowd {span : Span} {op : BoolOp} {values : List Expr} {count : Int} :
      operatorCount (.boolOp span op values) = count → limits.maxBooleanOperators < count →
      Said limits inside (.expr (.boolOp span op values)) .crowdedBoolean
        (Rule.crowdedBoolean.notice span
          s!"Complex boolean expression with {count} operators (max {limits.maxBooleanOperators})"
          "Extract boolean sub-expressions to named variables for clarity")
  | identity (span : Span) (left : Expr) (ops : List CompareOp) (comparators : List Expr)
      (message suggestion : String) :
      Said limits inside (.expr (.compare span left ops comparators)) .identityWithBool
        (Rule.identityWithBool.notice span message suggestion)
  | negatedAnd (span : Span) (operand : Expr) (message suggestion : String) :
      Said limits inside (.expr (.unary span .not operand)) .negatedAnd
        (Rule.negatedAnd.notice span message suggestion)
  | negatedOr (span : Span) (operand : Expr) (message suggestion : String) :
      Said limits inside (.expr (.unary span .not operand)) .negatedOr
        (Rule.negatedOr.notice span message suggestion)
  | late {s : Stmt} {levels : Nat} : inside = true → exitLevels? s = some levels →
      leastLevels ≤ levels → Said limits inside (.stmt s) .lateExit (lateNotice s levels)

variable {limits : Settings.BooleanLogic} {inside : Bool} {node : Node} {n : Notice}

theorem check_said (told : check limits inside node = some n) :
    ∃ rule, Said limits inside node rule n := by
  unfold check at told
  split at told
  · simp only [crowded] at told
    split at told
    · rename_i many
      cases told
      exact ⟨_, .crowd rfl many⟩
    · cases told
  · simp only [identity] at told
    split at told
    · cases told
      exact ⟨_, .identity _ _ _ _ _ _⟩
    · cases told
  · unfold negation at told
    split at told
    · rename_i same
      cases same
      cases told
      exact ⟨_, .negatedAnd _ _ _ _⟩
    · rename_i same
      cases same
      cases told
      exact ⟨_, .negatedOr _ _ _ _⟩
    · cases told
  · split at told
    · rename_i within
      unfold lateExit at told
      split at told
      · rename_i found
        split at told
        · rename_i enough
          cases told
          exact ⟨_, .late within found enough⟩
        · cases told
      · cases told
    · cases told
  · cases told

def spokenRules : List Rule :=
  [.crowdedBoolean, .identityWithBool, .negatedAnd, .negatedOr, .lateExit]

theorem said_of_code {rule : Rule} (listed : rule ∈ spokenRules)
    (told : check limits inside node = some n) (own : n.rule = rule.code) :
    Said limits inside node rule n := by
  obtain ⟨other, said⟩ := check_said told
  have spoken : other ∈ spokenRules := by cases said <;> decide
  have code : n.rule = other.code := by cases said <;> rfl
  have distinct : ∀ first ∈ spokenRules, ∀ second ∈ spokenRules,
      first.code = second.code → first = second := by decide
  cases distinct other spoken rule listed (code.symm.trans own)
  exact said

end Notices

end RefactorAdvice.Rules.BooleanLogic
