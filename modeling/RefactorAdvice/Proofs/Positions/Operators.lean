import RefactorAdvice.Proofs.JoinedOperands
import RefactorAdvice.Proofs.Positions.Expressions

/-!
Operators, and with them expressions of any depth. An operation starts where its first operand does,
so it pays with what that one has left: a call comes before a comparison or a negation, those
before `and`, and that before `or`. An operation with the operator of its first operand has that one
in brackets, where it starts later; one with another operator counts more operators than it.
Induction on the depth closes the circle from brackets back to the lowest level.
-/

namespace RefactorAdvice.Code

attribute [local simp] Expr.span

namespace Grammar

open Code.Parser

open Rules.BooleanLogic (operatorCount operatorCounts operator_count_join operator_count_other)

section Bare

/-- No token has room for a bare node, so none is read. -/
theorem bare_unread {α : Type} {p : Parser α} {cost : α → Nat} {spot : Nat × Nat}
    (reads : Spends ⟨.bare, spot⟩ Anywhere 0 p cost) (c after : Cursor) (value : α)
    (below : ∀ t ∈ c.rest, 1 ≤ t.line) (read : p c = some (value, after)) : cost value = 0 := by
  have paid := (reads c value after trivial
    (fun t member => ⟨below t member, fun real => absurd real (bare_unreal spot)⟩) read).2
  rw [room_unreal (bare_unreal spot), room_unreal (bare_unreal spot)] at paid
  omega

mutual
theorem operator_count_nonneg : ∀ e : Expr, (∀ spot, e.tree.tally ⟨.bare, spot⟩ = 0) →
    0 ≤ operatorCount e
  | .boolOp span op [], clear => by
    have here := clear span.spot
    simp [Expr.tree, Node.own, mine] at here
  | .boolOp span op (first :: rest), clear => by
    have inside := operator_counts_nonneg (first :: rest) fun spot => by
      have here := clear spot
      simp [Expr.tree] at here
      simp [here]
    rw [operator_count_join, List.length_cons]
    omega
  | .named .., _ | .binary .., _ | .unary .., _ | .lambda .., _ | .conditional .., _ | .dict .., _
  | .set .., _ | .listComp .., _ | .setComp .., _ | .dictComp .., _ | .generator .., _
  | .await .., _ | .yield .., _ | .yieldFrom .., _ | .compare .., _ | .call .., _
  | .formatted .., _ | .joined .., _ | .constant .., _ | .attribute .., _ | .subscript .., _
  | .starred .., _ | .name .., _ | .list .., _ | .tuple .., _ | .slice .., _ =>
    Int.le_of_eq (operator_count_other rfl).symm

theorem operator_counts_nonneg : ∀ es : List Expr,
    (∀ spot, total (fun e => e.tree.tally ⟨.bare, spot⟩) es = 0) → 0 ≤ operatorCounts es
  | [], _ => by simp [operatorCounts]
  | e :: rest, clear => by
    have first := operator_count_nonneg e fun spot => by
      have here := clear spot
      simp at here
      exact here.1
    have others := operator_counts_nonneg rest fun spot => by
      have here := clear spot
      simp at here
      exact here.2
    simp [operatorCounts]
    omega
end

end Bare

section Headroom

variable (k : Key) (start : Nat × Nat)

def Kind.above (e : Expr) : Kind → Bool
  | .chain .or | .stmt => true
  | .crowd count => operatorCount e < count
  | _ => false

/-- The room that is left at the start of an operand for what can begin with it. -/
def headroom (e : Expr) : Nat := if k.spot = start ∧ Kind.above e k.kind = true then 1 else 0

theorem headroom_low (e : Expr) : spare k start 5 ≤ headroom k start e := by
  obtain ⟨kind, spot⟩ := k
  unfold spare headroom
  split
  · rename_i there
    obtain ⟨here, high⟩ := there
    have above : Kind.above e kind = true := by
      fun_cases Kind.rank kind <;> simp_all [Kind.rank, Kind.above]
    exact Nat.le_of_eq (if_pos ⟨here, above⟩).symm
  · exact Nat.zero_le _

theorem headroom_high (e : Expr) : headroom k start e ≤ spare k start 3 := by
  obtain ⟨kind, spot⟩ := k
  unfold spare headroom
  split
  · rename_i there
    obtain ⟨here, high⟩ := there
    have above : 3 ≤ kind.rank := by
      fun_cases Kind.above e kind <;> simp_all [Kind.rank, Kind.above]
    exact Nat.le_of_eq (if_pos ⟨here, above⟩).symm
  · exact Nat.zero_le _

theorem and_own (last : Nat) (first : Expr) (rest : List Expr) :
    (Node.expr (.boolOp (.known start.1 start.2 last) .and (first :: rest))).own k +
      headroom k start (.boolOp (.known start.1 start.2 last) .and (first :: rest)) ≤
        spare k start 3 := by
  obtain ⟨kind, spot⟩ := k
  by_cases there : spot = start
  · cases kind with
    | chain op =>
      cases op <;> simp [Node.own, mine, headroom, spare, Kind.above, Kind.rank, there]
    | crowd count =>
      simp [Node.own, mine, headroom, spare, Kind.above, Kind.rank, there]
      split <;> split <;> omega
    | _ => simp [Node.own, mine, headroom, spare, Kind.above, Kind.rank, there]
  · simp [Node.own, mine, headroom, there]

-- Of two operations that start at one place the outer one has more operators.
theorem or_own (last : Nat) (first : Expr) (rest : List Expr) (more : rest ≠ [])
    (counts : 0 ≤ operatorCounts rest) :
    (Node.expr (.boolOp (.known start.1 start.2 last) .or (first :: rest))).own k +
      spare k start 5 ≤ headroom k start first := by
  obtain ⟨kind, spot⟩ := k
  by_cases there : spot = start
  · cases kind with
    | chain op =>
      cases op <;> simp [Node.own, mine, headroom, spare, Kind.above, Kind.rank, there]
    | crowd count =>
      have longer := List.length_pos_iff.mpr more
      simp [Node.own, mine, headroom, spare, Kind.above, Kind.rank, there, operator_count_join,
        operatorCounts]
      split <;> split <;> omega
    | _ => simp [Node.own, mine, headroom, spare, Kind.above, Kind.rank, there]
  · simp [Node.own, mine, spare, there]

end Headroom

section Chains

variable {k : Key}

theorem left_chain_reads (operators : List (String × BinaryOp)) (operand : Parser Expr)
    (operands : Reads k 2 operand fun e => e.tree.tally k) :
    Reads k 2 (leftChain operators operand) fun e => e.tree.tally k := by
  apply leaves_position
  intro start
  apply spends_bind (operands.on start)
  intro first
  apply iterate_spends first
  · intro left
    apply spends_look looks_peek
    intro lexeme
    split
    · split
      · apply spends_bind (discard_spends next_spends)
        intro _
        apply spends_bind (reads_any operands)
        intro right
        apply spends_node
        intro last
        simp [Expr.tree, Node.own]
        omega
      · exact spends_failure
    · exact spends_failure
  · exact Nat.le_refl _

theorem compare_op_spends {credit : Nat} : Spends k Anywhere credit compareOp fun _ => credit := by
  have single : ∀ op : CompareOp, Spends k Anywhere credit
      (do
        discard next
        return op) fun _ => credit := by
    intro op
    apply spends_bind (discard_spends next_spends)
    intro _
    exact spends_pure _ (Nat.le_refl _)
  have double : ∀ op : CompareOp, Spends k Anywhere credit
      (do
        discard next
        discard next
        return op) fun _ => credit := by
    intro op
    apply spends_bind (discard_spends next_spends)
    intro _
    exact single op
  apply spends_look looks_peek
  intro first
  apply spends_look looks_peek_second
  intro second
  split
  · exact single _
  · exact single _
  · exact single _
  · exact single _
  · exact single _
  · exact single _
  · exact single _
  · exact double _
  · exact double _
  · exact single _
  · exact spends_failure

theorem bool_chain_leaves {word : String} {op : BoolOp} {operand : Parser Expr}
    {before after : Nat × Nat → Expr → Nat}
    (operands : Leaves k operand (fun e => e.tree.tally k) before)
    (any : ∀ other : Key, Spends other Anywhere 0 operand fun e => e.tree.tally other)
    (kept : ∀ start e, after start e ≤ before start e)
    (joined : ∀ (start : Nat × Nat) last first rest, rest ≠ [] → 0 ≤ operatorCounts rest →
      (Node.expr (.boolOp (.known start.1 start.2 last) op (first :: rest))).own k +
        after start (.boolOp (.known start.1 start.2 last) op (first :: rest)) ≤
          before start first) :
    Leaves k (boolChain word op operand) (fun e => e.tree.tally k) after := by
  have counted : ∀ c values after, c.Tame k →
      many (keyword word *> operand) c = some (values, after) → 0 ≤ operatorCounts values := by
    intro c values after tame read
    apply operator_counts_nonneg
    intro spot
    have none := bare_unread (many_spends (spends_then (keyword_any word) (any ⟨.bare, spot⟩)))
      c after values (fun t member => (tame t member).line) read
    omega
  apply leaves_position
  intro start
  apply spends_bind (operands.on start)
  intro first
  apply spends_bind_known (many_spends (spends_then (keyword_any word) operands.any)) counted
  intro rest counts
  split
  · have less := kept start first
    apply spends_pure
    omega
  · rename_i more
    apply spends_node
    intro last
    have own := joined start last first rest (by simpa using more) counts
    simp [Expr.tree]
    omega

end Chains

section Operators

variable {k : Key} {inner : Goal → Parser Expr}
  (reads : ∀ goal : Goal, Reads k goal.bound (inner goal) fun e => e.tree.tally k)

include reads

theorem reads_primary : Reads k 2 (primary inner) fun e => e.tree.tally k := by
  apply leaves_position
  intro start
  apply spends_bind ((reads_atom reads).on start)
  intro first
  have high : first.tree.tally k + leeway k start first ≤ _ :=
    Nat.add_le_add_left (leeway_high k start first) _
  refine spends_weaken (show Spends k Anywhere _ _ fun e => e.tree.tally k + leeway k start e from
      iterate_spends first ?_ high) (Nat.le_refl _) fun e =>
    Nat.add_le_add_left (leeway_low k start e) _
  intro value
  apply spends_look looks_peek
  intro lexeme
  split
  · apply spends_bind (discard_spends next_spends)
    intro _
    apply spends_bind name_any
    intro attr
    apply spends_node
    intro last
    simp [Expr.tree, Node.own]
  · exact call_rest_spends reads start value
  · exact subscript_rest_spends reads start value
  · exact spends_failure

theorem reads_power : Reads k 2 (power inner) fun e => e.tree.tally k := by
  apply leaves_position
  intro start
  have finish : ∀ base : Expr, Spends k Anywhere (base.tree.tally k + spare k start 2)
      (do
        if ← trySymbol "**" then
          let exponent ← inner .factor
          return .binary (← spanFrom start) base .pow exponent
        return base)
      fun e => e.tree.tally k + spare k start 2 := by
    intro base
    apply spends_bind (try_symbol_any "**")
    intro raised
    split
    · apply spends_bind (reads_any (reads .factor))
      intro exponent
      apply spends_node
      intro last
      simp [Expr.tree, Node.own]
      omega
    · exact spends_pure _ (Nat.le_refl _)
  have less := spare_mono k start 1 2 (Nat.le_succ 1)
  apply spends_try_keyword_on
  · apply spends_bind (reads_any (reads_primary reads))
    intro value
    apply spends_span
    intro last
    exact spends_weaken (finish (.await (.known start.1 start.2 last) value))
      (by simp [Expr.tree, Node.own]; omega) fun e => Nat.le_refl _
  · exact spends_bind ((reads_primary reads).on start) finish

theorem reads_factor : Reads k 2 (factor inner) fun e => e.tree.tally k := by
  apply leaves_position
  intro start
  have less := spare_mono k start 1 2 (Nat.le_succ 1)
  have signed : ∀ op, op ≠ .not → Spends k (Seen start true) 0
      (do
        discard next
        let operand ← inner .factor
        return Expr.unary (← spanFrom start) op operand)
      fun e => e.tree.tally k + spare k start 2 := by
    intro op other
    apply spends_bind (discard_spends next_spends_seen)
    intro _
    apply spends_bind (reads_any (reads .factor))
    intro operand
    apply spends_node
    intro last
    have plain : (Node.expr (.unary (.known start.1 start.2 last) op operand)).own k = 0 := by
      cases op <;> first | rfl | exact absurd rfl other
    simp [Expr.tree, plain]
    omega
  apply spends_peek
  intro lexeme
  dsimp only
  split
  · exact signed .plus (by decide)
  · exact signed .minus (by decide)
  · exact signed .invert (by decide)
  · exact spends_pre ((reads_power reads).on start) seen_on

theorem reads_bitwise_or : Reads k 2 (bitwiseOr inner) fun e => e.tree.tally k := by
  have chain := @left_chain_reads k
  exact chain _ _ (chain _ _ (chain _ _ (chain _ _ (chain _ _ (chain _ _ (reads_factor reads))))))

theorem reads_comparison : Reads k 3 (comparison inner) fun e => e.tree.tally k := by
  have operands := reads_bitwise_or reads
  have compared : Spends k Anywhere 0
      (do
        let op ← compareOp
        return (op, ← bitwiseOr inner))
      fun found => found.2.tree.tally k := by
    apply spends_bind compare_op_spends
    intro op
    apply spends_bind operands.any
    intro value
    exact spends_pure _ (Nat.le_refl _)
  apply leaves_position
  intro start
  apply spends_bind (operands.on start)
  intro left
  apply spends_bind (many_spends compared)
  intro rest
  split
  · have less := spare_mono k start 2 3 (Nat.le_succ 2)
    apply spends_pure
    omega
  · apply spends_node
    intro last
    have own := spare_mine k start .compare 2 3 (Nat.le_refl 2) (Nat.lt_succ_self 2)
    simp [Expr.tree, Node.own]
    omega

theorem reads_inversion : Reads k 3 (inversion inner) fun e => e.tree.tally k := by
  apply leaves_position
  intro start
  apply spends_try_keyword_on
  · apply spends_bind (reads_any (reads .inversion))
    intro operand
    apply spends_node
    intro last
    have own := spare_mine k start .inversion 1 3 (by decide) (by decide)
    simp [Expr.tree, Node.own]
    omega
  · exact (reads_comparison reads).on start

end Operators

section Levels

variable {inner : Goal → Parser Expr}
  (reads : ∀ (k : Key) (goal : Goal), Reads k goal.bound (inner goal) fun e => e.tree.tally k)
  (k : Key)

include reads

theorem leaves_conjunction :
    Leaves k (boolChain "and" .and (inversion inner)) (fun e => e.tree.tally k) (headroom k) :=
  bool_chain_leaves (reads_inversion (reads k))
    (fun other => (reads_inversion (reads other)).any)
    (fun start e => headroom_high k start e)
    (fun start last first rest _ _ => and_own k start last first rest)

theorem reads_disjunction : Reads k 5 (disjunction inner) fun e => e.tree.tally k :=
  bool_chain_leaves (leaves_conjunction reads k)
    (fun other => (leaves_conjunction reads other).any)
    (fun start e => headroom_low k start e)
    (fun start last first rest => or_own k start last first rest)

theorem reads_lambda : Reads k 1 (lambda inner) fun e => e.tree.tally k := by
  apply leaves_position
  intro start
  apply spends_bind (keyword_on "lambda")
  intro _
  apply spends_bind (spends_frame _ (parameters_spend (reads k) false ":"))
  intro params
  apply spends_bind (symbol_any ":")
  intro _
  apply spends_bind (reads_any (reads k .expression))
  intro body
  apply spends_node
  intro last
  simp [Expr.tree, Node.own]
  omega

theorem reads_expression : Reads k 5 (expression inner) fun e => e.tree.tally k := by
  apply reads_look (looks_next_keyword "lambda")
  intro found
  split
  · exact reads_lower (reads_lambda reads k) (by decide)
  · apply leaves_position
    intro start
    apply spends_bind ((reads_disjunction reads k).on start)
    intro body
    apply spends_or
    · apply spends_bind (keyword_any "if")
      intro _
      apply spends_bind (reads_any (reads k .disjunction))
      intro test
      apply spends_bind (keyword_any "else")
      intro _
      apply spends_bind (reads_any (reads k .expression))
      intro orelse
      apply spends_node
      intro last
      simp [Expr.tree, Node.own]
      omega
    · exact spends_pure _ (Nat.le_refl _)

theorem reads_named : Reads k 5 (named inner) fun e => e.tree.tally k := by
  apply reads_look looks_next_named
  intro found
  split
  · apply leaves_position
    intro start
    have less := spare_mono k start 1 5 (by decide)
    apply spends_bind name_on
    intro id
    apply spends_span
    intro inside
    apply spends_bind (symbol_any ":=")
    intro _
    apply spends_bind (reads_any (reads k .expression))
    intro value
    apply spends_node
    intro last
    simp [Expr.tree, Node.own]
    omega
  · have plain := reads_expression reads k
    have alone : ∀ (value : Expr) (credit : Nat) (cost : Expr → Nat), cost value ≤ credit →
        Spends k Anywhere credit
          (do
            if ← nextIsSymbol ":=" then failure
            return value) cost := by
      intro value credit cost le
      apply spends_look (looks_next_symbol ":=")
      intro assigned
      split
      · exact spends_failure_bind
      · exact spends_pure _ le
    constructor
    · intro start
      exact spends_bind (plain.on start) fun value => alone value _ _ (Nat.le_refl _)
    · exact spends_bind plain.any fun value => alone value _ _ (Nat.le_refl _)

theorem reads_level (goal : Goal) :
    Reads k goal.bound (level inner goal) fun e => e.tree.tally k := by
  cases goal with
  | expression => exact reads_expression reads k
  | named => exact reads_named reads k
  | starExpressions => exact reads_star_expressions (reads k)
  | disjunction => exact reads_disjunction reads k
  | inversion => exact reads_inversion (reads k)
  | bitwiseOr => exact reads_bitwise_or (reads k)
  | factor => exact reads_factor (reads k)
  | primary => exact reads_primary (reads k)

end Levels

/-- Whatever is nested pays for itself. -/
theorem reads_nested (depth : Nat) (k : Key) (goal : Goal) :
    Reads k goal.bound (nested depth goal) fun e => e.tree.tally k := by
  induction depth generalizing k goal with
  | zero =>
    constructor
    · exact fun _ => spends_failure
    · exact spends_failure
  | succ depth ih => exact reads_level ih k goal

end Grammar

end RefactorAdvice.Code
