import RefactorAdvice.Rules.BooleanLogic

/-!
What tells the nodes of a tree apart. A finding shows where its node starts and, by its rule, of
what kind the node is; a node's keys are its kinds, each with the place where it starts. The tally
of a key is how many nodes of a tree bear it.
-/

namespace RefactorAdvice.Code

section Keys

def Span.spot (span : Span) : Nat × Nat := ((span.line.getD 0).toNat, (span.column.getD 0).toNat)

theorem known_spot (line column endLine : Nat) :
    (Span.known line column endLine).spot = (line, column) := rfl

@[simp]
theorem known_spot_from (start : Nat × Nat) (endLine : Nat) :
    (Span.known start.1 start.2 endLine).spot = start := rfl

/-- Kinds of nodes that findings are about. A boolean operation is of two kinds: by its operator,
and by the number of operators in it; one without operands, of which no number can be told, is
bare. So is a node of which it is not known where it stands. -/
inductive Kind where
  | bare
  | call
  | compare
  | inversion
  | chain (op : BoolOp)
  | crowd (count : Int)
  | stmt
deriving DecidableEq

structure Key where
  kind : Kind
  spot : Nat × Nat
deriving DecidableEq

def mine (k : Key) (kind : Kind) (spot : Nat × Nat) : Nat := if k = ⟨kind, spot⟩ then 1 else 0

@[simp]
theorem mine_self (kind : Kind) (spot : Nat × Nat) : mine ⟨kind, spot⟩ kind spot = 1 := if_pos rfl

def Expr.calledAt (spot : Nat × Nat) : Expr → Bool
  | .call span func _ _ => decide (span.spot = spot) || func.calledAt spot
  | .attribute _ value _ _ => value.calledAt spot
  | .subscript _ value _ _ => value.calledAt spot
  | _ => false

/-- How often an expression bears a key by its form. Of calls that start at one spot the first one
does. -/
@[simp]
def Expr.own (k : Key) : Expr → Nat
  | .compare span .. => mine k .compare span.spot
  | .unary span .not _ => mine k .inversion span.spot
  | .boolOp span op values =>
    mine k (.chain op) span.spot +
      mine k (.crowd (Rules.BooleanLogic.operatorCount (.boolOp span op values))) span.spot +
      if values.isEmpty then mine k .bare span.spot else 0
  | .call span func _ _ => if func.calledAt span.spot then 0 else mine k .call span.spot
  | _ => 0

def Span.IsKnown (span : Span) : Prop := ∃ line column endLine, span = .known line column endLine

def Span.stray (k : Key) (span : Span) : Nat :=
  match span with
  | ⟨some (.ofNat _), some (.ofNat _), some (.ofNat _)⟩ => 0
  | _ => mine k .bare span.spot

@[simp]
theorem stray_known (k : Key) (line column endLine : Nat) :
    (Span.known line column endLine).stray k = 0 := rfl

@[simp]
theorem stray_other (kind : Kind) (spot : Nat × Nat) (span : Span) (other : kind ≠ .bare) :
    span.stray ⟨kind, spot⟩ = 0 := by
  unfold Span.stray
  split
  · rfl
  · simp [mine, other]

theorem known_of_stray {span : Span} (placed : span.stray ⟨.bare, span.spot⟩ = 0) :
    span.IsKnown := by
  unfold Span.stray at placed
  split at placed
  · exact ⟨_, _, _, rfl⟩
  · simp [mine] at placed

def Node.own (k : Key) : Node → Nat
  | .stmt s => mine k .stmt s.span.spot + s.span.stray k
  | .expr e => e.own k + e.span.stray k
  | _ => 0

theorem stmt_own (s : Stmt) : 1 ≤ (Node.stmt s).own ⟨.stmt, s.span.spot⟩ := by simp [Node.own]

end Keys

section Totals

variable {α β : Type}

def total (cost : α → Nat) : List α → Nat
  | [] => 0
  | x :: rest => cost x + total cost rest

@[simp]
theorem total_nil (cost : α → Nat) : total cost [] = 0 := rfl

@[simp]
theorem total_cons (cost : α → Nat) (x : α) (rest : List α) :
    total cost (x :: rest) = cost x + total cost rest := rfl

@[simp]
theorem total_zero (xs : List α) : total (fun _ => 0) xs = 0 := by
  induction xs with
  | nil => rfl
  | cons x rest ih => simp [ih]

@[simp]
theorem total_append (cost : α → Nat) (first second : List α) :
    total cost (first ++ second) = total cost first + total cost second := by
  induction first with
  | nil => simp
  | cons x rest ih => simp [ih, Nat.add_assoc]

@[simp]
theorem total_reverse (cost : α → Nat) (xs : List α) : total cost xs.reverse = total cost xs := by
  induction xs with
  | nil => rfl
  | cons x rest ih => simp [ih, Nat.add_comm]

@[simp]
theorem total_map (cost : β → Nat) (f : α → β) (xs : List α) :
    total cost (xs.map f) = total (fun x => cost (f x)) xs := by
  induction xs with
  | nil => rfl
  | cons x rest ih => simp [ih]

@[simp]
theorem total_flatten (cost : α → Nat) (xss : List (List α)) :
    total cost xss.flatten = total (total cost) xss := by
  induction xss with
  | nil => rfl
  | cons xs rest ih => simp [ih]

theorem cost_le_total (cost : α → Nat) {x : α} {xs : List α} (member : x ∈ xs) :
    cost x ≤ total cost xs := by
  induction xs with
  | nil => cases member
  | cons first rest ih =>
    rw [total_cons]
    rcases List.mem_cons.mp member with rfl | later
    · exact Nat.le_add_right _ _
    · exact Nat.le_trans (ih later) (Nat.le_add_left _ _)

theorem total_sublist {cost : α → Nat} {xs ys : List α} (part : xs.Sublist ys) :
    total cost xs ≤ total cost ys := by
  induction part with
  | slnil => exact Nat.le_refl 0
  | cons x _ ih => exact Nat.le_trans ih (Nat.le_add_left _ _)
  | cons_cons x _ ih => exact Nat.add_le_add_left ih _

theorem total_add (first second : α → Nat) (xs : List α) :
    total (fun x => first x + second x) xs = total first xs + total second xs := by
  induction xs with
  | nil => rfl
  | cons x rest ih =>
    simp [ih]
    omega

theorem total_swap (cost : α → β → Nat) (xs : List α) (ys : List β) :
    total (fun x => total (cost x) ys) xs = total (fun y => total (fun x => cost x y) xs) ys := by
  induction xs with
  | nil => exact (total_zero ys).symm
  | cons x rest ih =>
    rw [total_cons, ih, ← total_add]
    rfl

end Totals

section Tallies

variable (k : Key)

def Tree.tally (t : Tree) : Nat := total (Node.own k) t.preorder

def tallies (ts : List Tree) : Nat := total (Node.own k) (preorders ts)

@[simp]
theorem tally_node (root : Node) (branches : List Tree) :
    (Tree.node root branches).tally k = root.own k + tallies k branches := rfl

@[simp]
theorem tallies_nil : tallies k [] = 0 := rfl

@[simp]
theorem tallies_cons (t : Tree) (rest : List Tree) :
    tallies k (t :: rest) = t.tally k + tallies k rest := total_append _ _ _

@[simp]
theorem tallies_append (first second : List Tree) :
    tallies k (first ++ second) = tallies k first + tallies k second := by
  induction first with
  | nil => simp
  | cons t rest ih => simp [ih, Nat.add_assoc]

@[simp]
theorem tallies_exprs (es : List Expr) :
    tallies k (exprTrees es) = total (fun e => e.tree.tally k) es := by
  induction es with
  | nil => rfl
  | cons e rest ih => simp [exprTrees, ih]

@[simp]
theorem tallies_options (es : List (Option Expr)) :
    tallies k (optionTrees es) = total (fun e => tallies k (optionTree e)) es := by
  induction es with
  | nil => rfl
  | cons e rest ih => simp [optionTrees, ih]

@[simp]
theorem tallies_clauses (cs : List (Clause Expr)) :
    tallies k (clauseTrees cs) = total (fun c => (clauseTree c).tally k) cs := by
  induction cs with
  | nil => rfl
  | cons c rest ih => simp [clauseTrees, ih]

@[simp]
theorem tallies_keywords (ks : List (Keyword Expr)) :
    tallies k (keywordTrees ks) = total (fun x => (keywordTree x).tally k) ks := by
  induction ks with
  | nil => rfl
  | cons x rest ih => simp [keywordTrees, ih]

@[simp]
theorem tallies_parameters (ps : List (Parameter Expr)) :
    tallies k (parameterTrees ps) = total (fun p => (parameterTree p).tally k) ps := by
  induction ps with
  | nil => rfl
  | cons p rest ih => simp [parameterTrees, ih]

@[simp]
theorem tallies_patterns (ps : List Pattern) :
    tallies k (patternTrees ps) = total (fun p => p.tree.tally k) ps := by
  induction ps with
  | nil => rfl
  | cons p rest ih => simp [patternTrees, ih]

@[simp]
theorem tallies_stmts (ss : List Stmt) :
    tallies k (stmtTrees ss) = total (fun s => s.tree.tally k) ss := by
  induction ss with
  | nil => rfl
  | cons s rest ih => simp [stmtTrees, ih]

@[simp]
theorem tallies_handlers (hs : List (Handler Stmt)) :
    tallies k (handlerTrees hs) = total (fun h => (handlerTree h).tally k) hs := by
  induction hs with
  | nil => rfl
  | cons h rest ih => simp [handlerTrees, ih]

@[simp]
theorem tallies_cases (cs : List (MatchCase Stmt)) :
    tallies k (caseTrees cs) = total (fun c => (caseTree c).tally k) cs := by
  induction cs with
  | nil => rfl
  | cons c rest ih => simp [caseTrees, ih]

end Tallies

section Statementless

variable (spot : Nat × Nat)

-- A statement stands in statements only: an expression, whatever is in it, has none.
mutual
theorem expr_stmtless : ∀ e : Expr, e.tree.tally ⟨.stmt, spot⟩ = 0
  | .boolOp _ _ items | .set _ items | .joined _ items | .list _ items _ | .tuple _ items _ => by
    simp [Expr.tree, Node.own, mine, exprs_stmtless items]
  | .named _ left right | .binary _ left _ right | .subscript _ left right _ => by
    simp [Expr.tree, Node.own, expr_stmtless left, expr_stmtless right]
  | .await _ value | .yieldFrom _ value | .attribute _ value _ _ | .starred _ value _ => by
    simp [Expr.tree, Node.own, expr_stmtless value]
  | .unary _ op operand => by
    cases op <;> simp [Expr.tree, Node.own, mine, expr_stmtless operand]
  | .lambda _ params body => by
    simp [Expr.tree, Node.own, parameters_stmtless params, expr_stmtless body]
  | .conditional _ test body orelse => by
    simp [Expr.tree, Node.own, expr_stmtless test, expr_stmtless body, expr_stmtless orelse]
  | .dict _ keys values => by
    simp [Expr.tree, Node.own, options_stmtless keys, exprs_stmtless values]
  | .listComp _ item clauses | .setComp _ item clauses | .generator _ item clauses => by
    simp [Expr.tree, Node.own, expr_stmtless item, clauses_stmtless clauses]
  | .dictComp _ key value clauses => by
    simp [Expr.tree, Node.own, expr_stmtless key, expr_stmtless value, clauses_stmtless clauses]
  | .yield _ value => by simp [Expr.tree, Node.own, option_stmtless value]
  | .compare _ left _ comparators => by
    simp [Expr.tree, Node.own, mine, expr_stmtless left, exprs_stmtless comparators]
  | .call _ func args keywords => by
    simp [Expr.tree, Node.own, mine, expr_stmtless func, exprs_stmtless args,
      keywords_stmtless keywords]
  | .formatted _ value _ format => by
    simp [Expr.tree, Node.own, expr_stmtless value, option_stmtless format]
  | .constant .. | .name .. => by simp [Expr.tree, Node.own]
  | .slice _ lower upper step => by
    simp [Expr.tree, Node.own, option_stmtless lower, option_stmtless upper, option_stmtless step]

theorem exprs_stmtless : ∀ es : List Expr, total (fun e => e.tree.tally ⟨.stmt, spot⟩) es = 0
  | [] => rfl
  | e :: rest => by simp [expr_stmtless e, exprs_stmtless rest]

theorem option_stmtless : ∀ e : Option Expr, tallies ⟨.stmt, spot⟩ (optionTree e) = 0
  | none => rfl
  | some e => by simp [optionTree, expr_stmtless e]

theorem options_stmtless : ∀ es : List (Option Expr),
    total (fun e => tallies ⟨.stmt, spot⟩ (optionTree e)) es = 0
  | [] => rfl
  | e :: rest => by simp [option_stmtless e, options_stmtless rest]

theorem clause_stmtless : ∀ c : Clause Expr, (clauseTree c).tally ⟨.stmt, spot⟩ = 0
  | ⟨target, iter, conditions, _⟩ => by
    simp [clauseTree, Node.own, expr_stmtless target, expr_stmtless iter, exprs_stmtless conditions]

theorem clauses_stmtless : ∀ cs : List (Clause Expr),
    total (fun c => (clauseTree c).tally ⟨.stmt, spot⟩) cs = 0
  | [] => rfl
  | c :: rest => by simp [clause_stmtless c, clauses_stmtless rest]

theorem keyword_stmtless : ∀ k : Keyword Expr, (keywordTree k).tally ⟨.stmt, spot⟩ = 0
  | ⟨_, _, value⟩ => by simp [keywordTree, Node.own, expr_stmtless value]

theorem keywords_stmtless : ∀ ks : List (Keyword Expr),
    total (fun k => (keywordTree k).tally ⟨.stmt, spot⟩) ks = 0
  | [] => rfl
  | k :: rest => by simp [keyword_stmtless k, keywords_stmtless rest]

theorem parameter_stmtless : ∀ p : Parameter Expr, (parameterTree p).tally ⟨.stmt, spot⟩ = 0
  | ⟨_, _, note⟩ => by simp [parameterTree, Node.own, option_stmtless note]

theorem parameter_list_stmtless : ∀ ps : List (Parameter Expr),
    total (fun p => (parameterTree p).tally ⟨.stmt, spot⟩) ps = 0
  | [] => rfl
  | p :: rest => by simp [parameter_stmtless p, parameter_list_stmtless rest]

theorem option_parameter_stmtless : ∀ p : Option (Parameter Expr),
    tallies ⟨.stmt, spot⟩ (optionParameter p) = 0
  | none => rfl
  | some p => by simp [optionParameter, parameter_stmtless p]

theorem parameters_stmtless : ∀ ps : Parameters Expr,
    (parametersTree ps).tally ⟨.stmt, spot⟩ = 0
  | ⟨positionalOnly, regular, variadic, keywordOnly, keywordDefaults, keywordVariadic,
      defaults⟩ => by
    simp [parametersTree, Node.own, parameter_list_stmtless positionalOnly,
      parameter_list_stmtless regular, option_parameter_stmtless variadic,
      parameter_list_stmtless keywordOnly, options_stmtless keywordDefaults,
      option_parameter_stmtless keywordVariadic, exprs_stmtless defaults]
end

end Statementless

end RefactorAdvice.Code
