import RefactorAdvice.Proofs.Positions.Statements

/-!
Where the statements of a module stand that was read from a text. Each has a known place, on the
first line or below, and no two start at the same; the expressions in them have known places too,
and boolean operations are on the first line or below. All of this follows from the room that the
tokens have: none for a node without a known place, and none above the first line.
-/

namespace RefactorAdvice.Code

section Nodes

@[simp]
def Node.span? : Node → Option Span
  | .stmt s => some s.span
  | .expr e => some e.span
  | _ => none

def Tree.Known (t : Tree) : Prop :=
  ∀ node ∈ t.preorder, ∀ span, node.span? = some span → span.IsKnown

theorem mem_preorders_iff (ts : List Tree) (node : Node) :
    node ∈ preorders ts ↔ ∃ t ∈ ts, node ∈ t.preorder := by
  induction ts with
  | nil => simp [preorders]
  | cons t rest ih => simp [preorders, ih]

/-- A node without a known place bears the bare key of its spot. -/
theorem stray_le_own {node : Node} {span : Span} (stands : node.span? = some span) (k : Key) :
    span.stray k ≤ node.own k := by
  cases node with
  | stmt s =>
    cases stands
    exact Nat.le_add_left _ _
  | expr e =>
    cases stands
    exact Nat.le_add_left _ _
  | _ => cases stands

theorem unlisted_of_stmtless {t : Tree} (none : ∀ spot, t.tally ⟨.stmt, spot⟩ = 0) (s : Stmt) :
    .stmt s ∉ t.preorder := by
  intro member
  have own := cost_le_total (Node.own ⟨.stmt, s.span.spot⟩) member
  have self := stmt_own s
  have empty : total (Node.own ⟨.stmt, s.span.spot⟩) t.preorder = 0 := none s.span.spot
  omega

end Nodes

section Modules

variable {names : CharNames} {cs : List Char} {module : Module}
  (read : parse names cs = some module)

include read

/-- The nodes of a module bear no keys but real ones. -/
theorem parse_real {node : Node} (member : node ∈ module.tree.preorder) {k : Key}
    (bears : 1 ≤ node.own k) : k.Real := by
  apply Decidable.byContradiction
  intro unreal
  have fits := parse_tally read k fun real => absurd real unreal
  rw [ahead_unreal unreal] at fits
  have own := Nat.le_trans bears (cost_le_total (Node.own k) member)
  exact Nat.not_succ_le_zero 0 (Nat.le_trans own fits)

theorem parse_known : module.tree.Known := by
  intro node member span stands
  apply known_of_stray
  rcases Nat.eq_zero_or_pos (span.stray ⟨.bare, span.spot⟩) with none | stray
  · exact none
  · have bears := Nat.le_trans stray (stray_le_own stands _)
    exact absurd (parse_real read member bears) (bare_unreal span.spot)

/-- No two statements start at the same place, wherever the fields of literals stand. -/
theorem parse_stmt_tally (spot : Nat × Nat) : module.tree.tally ⟨.stmt, spot⟩ ≤ 1 :=
  Nat.le_trans (parse_tally read ⟨.stmt, spot⟩ fun _ other => absurd rfl other) (ahead_le_one _ _)

theorem parse_stmt_known {s : Stmt} (member : .stmt s ∈ module.tree.preorder) :
    ∃ line column endLine, s.span = .known line column endLine ∧ 1 ≤ line := by
  obtain ⟨line, column, endLine, known⟩ := parse_known read (.stmt s) member s.span rfl
  have below := (parse_real read member (stmt_own s)).below
  rw [known] at below
  exact ⟨line, column, endLine, known, below⟩

/-- A boolean operation is not above the first line either, wherever the fields of literals
stand. -/
theorem parse_operation_known {e : Expr} (member : .expr e ∈ module.tree.preorder)
    (operation : e.isBoolOp = true) :
    ∃ line column endLine, e.span = .known line column endLine ∧ 1 ≤ line := by
  obtain ⟨line, column, endLine, known⟩ := parse_known read (.expr e) member e.span rfl
  cases e with
  | boolOp span op values =>
    have bears : 1 ≤ (Node.expr (.boolOp span op values)).own ⟨.chain op, span.spot⟩ := by
      simp [Node.own, Nat.add_assoc]
    have below := (parse_real read member bears).below
    change span = _ at known
    rw [known] at below
    exact ⟨line, column, endLine, known, below⟩
  | _ => cases operation

end Modules

end RefactorAdvice.Code
