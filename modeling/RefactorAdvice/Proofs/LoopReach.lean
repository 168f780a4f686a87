import Mathlib.Data.List.Nodup
import RefactorAdvice.Proofs.Positions.Keys
import RefactorAdvice.Rules.Performance

/-!
What a loop reaches: the nodes in it outside functions and lambdas. Where no loop reaches another,
no node is reached from two loops, so what loops count together is at most what the whole tree
counts. Where the calls that a loop reaches start apart, each of them is the first call at its spot.
-/

namespace RefactorAdvice.Code

open Rules.Performance

section Sound

def Node.tree : Node → Tree
  | .module value => value.tree
  | .stmt value => value.tree
  | .expr value => value.tree
  | .pattern value => value.tree
  | .clause value => clauseTree value
  | .parameters value => parametersTree value
  | .parameter value => parameterTree value
  | .keyword value => keywordTree value
  | .withItem value => value.tree
  | .handler value => handlerTree value
  | .matchCase value => caseTree value
  | .alias value => value.tree

inductive Tree.Sound : Tree → Prop
  | node (root : Node) (branches : List Tree) (whole : root.tree = .node root branches)
      (parts : ∀ t ∈ branches, t.Sound) : (Tree.node root branches).Sound

mutual
theorem expr_sound : ∀ e : Expr, e.tree.Sound
  | .boolOp _ _ items | .set _ items | .joined _ items | .list _ items _ | .tuple _ items _ =>
    .node _ _ rfl (exprs_sound items)
  | .named _ left right | .binary _ left _ right | .subscript _ left right _ =>
    .node _ _ rfl (by simp [expr_sound left, expr_sound right])
  | .unary _ _ value | .await _ value | .yieldFrom _ value | .attribute _ value _ _
  | .starred _ value _ => .node _ _ rfl (by simp [expr_sound value])
  | .lambda _ params body => .node _ _ rfl (by simp [parameters_sound params, expr_sound body])
  | .conditional _ test body orelse =>
    .node _ _ rfl (by simp [expr_sound test, expr_sound body, expr_sound orelse])
  | .dict _ keys values =>
    .node _ _ rfl (List.forall_mem_append.mpr ⟨options_sound keys, exprs_sound values⟩)
  | .listComp _ item clauses | .setComp _ item clauses | .generator _ item clauses =>
    .node _ _ rfl (List.forall_mem_cons.mpr ⟨expr_sound item, clauses_sound clauses⟩)
  | .dictComp _ key value clauses =>
    .node _ _ rfl (List.forall_mem_cons.mpr ⟨expr_sound key,
      List.forall_mem_cons.mpr ⟨expr_sound value, clauses_sound clauses⟩⟩)
  | .yield _ value => .node _ _ rfl (option_sound value)
  | .compare _ left _ comparators =>
    .node _ _ rfl (List.forall_mem_cons.mpr ⟨expr_sound left, exprs_sound comparators⟩)
  | .call _ func args keywords =>
    .node _ _ rfl (List.forall_mem_append.mpr
      ⟨List.forall_mem_cons.mpr ⟨expr_sound func, exprs_sound args⟩, keywords_sound keywords⟩)
  | .formatted _ value _ format =>
    .node _ _ rfl (List.forall_mem_cons.mpr ⟨expr_sound value, option_sound format⟩)
  | .constant .. | .name .. => .node _ _ rfl (by simp)
  | .slice _ lower upper step =>
    .node _ _ rfl (List.forall_mem_append.mpr
      ⟨List.forall_mem_append.mpr ⟨option_sound lower, option_sound upper⟩, option_sound step⟩)

theorem exprs_sound : ∀ es : List Expr, ∀ t ∈ exprTrees es, t.Sound
  | [] => by simp [exprTrees]
  | e :: rest => List.forall_mem_cons.mpr ⟨expr_sound e, exprs_sound rest⟩

theorem option_sound : ∀ e : Option Expr, ∀ t ∈ optionTree e, t.Sound
  | none => by simp [optionTree]
  | some e => by simp [optionTree, expr_sound e]

theorem options_sound : ∀ es : List (Option Expr), ∀ t ∈ optionTrees es, t.Sound
  | [] => by simp [optionTrees]
  | e :: rest => List.forall_mem_append.mpr ⟨option_sound e, options_sound rest⟩

theorem clause_sound : ∀ c : Clause Expr, (clauseTree c).Sound
  | ⟨target, iter, conditions, _⟩ =>
    .node _ _ rfl (List.forall_mem_cons.mpr ⟨expr_sound target,
      List.forall_mem_cons.mpr ⟨expr_sound iter, exprs_sound conditions⟩⟩)

theorem clauses_sound : ∀ cs : List (Clause Expr), ∀ t ∈ clauseTrees cs, t.Sound
  | [] => by simp [clauseTrees]
  | c :: rest => List.forall_mem_cons.mpr ⟨clause_sound c, clauses_sound rest⟩

theorem keyword_sound : ∀ k : Keyword Expr, (keywordTree k).Sound
  | ⟨_, _, value⟩ => .node _ _ rfl (by simp [expr_sound value])

theorem keywords_sound : ∀ ks : List (Keyword Expr), ∀ t ∈ keywordTrees ks, t.Sound
  | [] => by simp [keywordTrees]
  | k :: rest => List.forall_mem_cons.mpr ⟨keyword_sound k, keywords_sound rest⟩

theorem parameter_sound : ∀ p : Parameter Expr, (parameterTree p).Sound
  | ⟨_, _, note⟩ => .node _ _ rfl (option_sound note)

theorem parameter_list_sound : ∀ ps : List (Parameter Expr), ∀ t ∈ parameterTrees ps, t.Sound
  | [] => by simp [parameterTrees]
  | p :: rest => List.forall_mem_cons.mpr ⟨parameter_sound p, parameter_list_sound rest⟩

theorem option_parameter_sound : ∀ p : Option (Parameter Expr), ∀ t ∈ optionParameter p, t.Sound
  | none => by simp [optionParameter]
  | some p => by simp [optionParameter, parameter_sound p]

theorem parameters_sound : ∀ ps : Parameters Expr, (parametersTree ps).Sound
  | ⟨positionalOnly, regular, variadic, keywordOnly, keywordDefaults, keywordVariadic, defaults⟩ =>
    .node _ _ rfl (by
      have first := parameter_list_sound positionalOnly
      have second := parameter_list_sound regular
      have third := option_parameter_sound variadic
      have fourth := parameter_list_sound keywordOnly
      have fifth := options_sound keywordDefaults
      have sixth := option_parameter_sound keywordVariadic
      have last := exprs_sound defaults
      simp only [List.forall_mem_append]
      exact ⟨⟨⟨⟨⟨⟨first, second⟩, third⟩, fourth⟩, fifth⟩, sixth⟩, last⟩)
end

mutual
theorem pattern_sound : ∀ p : Pattern, p.tree.Sound
  | .value _ value => .node _ _ rfl (by simp [expr_sound value])
  | .singleton _ _ => .node _ _ rfl (by simp)
  | .sequence _ parts => .node _ _ rfl (patterns_sound parts)
  | .mapping _ keys parts _ =>
    .node _ _ rfl (List.forall_mem_append.mpr ⟨exprs_sound keys, patterns_sound parts⟩)
  | .shape _ cls parts _ named =>
    .node _ _ rfl (List.forall_mem_append.mpr
      ⟨List.forall_mem_cons.mpr ⟨expr_sound cls, patterns_sound parts⟩, patterns_sound named⟩)
  | .star _ _ => .node _ _ rfl (by simp)
  | .bind _ part _ => .node _ _ rfl (option_pattern_sound part)
  | .either _ parts => .node _ _ rfl (patterns_sound parts)

theorem patterns_sound : ∀ ps : List Pattern, ∀ t ∈ patternTrees ps, t.Sound
  | [] => by simp [patternTrees]
  | p :: rest => List.forall_mem_cons.mpr ⟨pattern_sound p, patterns_sound rest⟩

theorem option_pattern_sound : ∀ p : Option Pattern, ∀ t ∈ optionPattern p, t.Sound
  | none => by simp [optionPattern]
  | some p => by simp [optionPattern, pattern_sound p]
end

theorem with_items_sound (items : List WithItem) : ∀ t ∈ items.map WithItem.tree, t.Sound := by
  rw [List.forall_mem_map]
  intro item _
  exact .node _ _ rfl (List.forall_mem_cons.mpr ⟨expr_sound item.context, option_sound item.target⟩)

theorem aliases_sound (names : List Alias) : ∀ t ∈ names.map Alias.tree, t.Sound := by
  rw [List.forall_mem_map]
  intro a _
  exact .node _ _ rfl (by simp)

mutual
theorem stmt_sound : ∀ s : Stmt, s.tree.Sound
  | .function _ _ _ params body decorators returns => by
    have parts := List.forall_mem_cons.mpr ⟨parameters_sound params, stmts_sound body⟩
    have more := List.forall_mem_append.mpr ⟨parts, exprs_sound decorators⟩
    exact .node _ _ rfl (List.forall_mem_append.mpr ⟨more, option_sound returns⟩)
  | .cls _ _ bases keywords body decorators => by
    have parts := List.forall_mem_append.mpr ⟨exprs_sound bases, keywords_sound keywords⟩
    have more := List.forall_mem_append.mpr ⟨parts, stmts_sound body⟩
    exact .node _ _ rfl (List.forall_mem_append.mpr ⟨more, exprs_sound decorators⟩)
  | .ret _ value => .node _ _ rfl (option_sound value)
  | .delete _ targets => .node _ _ rfl (exprs_sound targets)
  | .assign _ targets value =>
    .node _ _ rfl (List.forall_mem_append.mpr ⟨exprs_sound targets, by simp [expr_sound value]⟩)
  | .augAssign _ target _ value => .node _ _ rfl (by simp [expr_sound target, expr_sound value])
  | .annAssign _ target note value _ =>
    .node _ _ rfl (List.forall_mem_cons.mpr ⟨expr_sound target,
      List.forall_mem_cons.mpr ⟨expr_sound note, option_sound value⟩⟩)
  | .forLoop _ _ target iter body orelse =>
    .node _ _ rfl (List.forall_mem_append.mpr ⟨List.forall_mem_cons.mpr ⟨expr_sound target,
      List.forall_mem_cons.mpr ⟨expr_sound iter, stmts_sound body⟩⟩, stmts_sound orelse⟩)
  | .whileLoop _ test body orelse | .ifElse _ test body orelse =>
    .node _ _ rfl (List.forall_mem_append.mpr
      ⟨List.forall_mem_cons.mpr ⟨expr_sound test, stmts_sound body⟩, stmts_sound orelse⟩)
  | .withBlock _ _ items body =>
    .node _ _ rfl (List.forall_mem_append.mpr ⟨with_items_sound items, stmts_sound body⟩)
  | .matchOn _ subject cases =>
    .node _ _ rfl (List.forall_mem_cons.mpr ⟨expr_sound subject, cases_sound cases⟩)
  | .raise _ exc cause =>
    .node _ _ rfl (List.forall_mem_append.mpr ⟨option_sound exc, option_sound cause⟩)
  | .tryBlock _ _ body handlers orelse finalbody => by
    have parts := List.forall_mem_append.mpr ⟨stmts_sound body, handlers_sound handlers⟩
    have more := List.forall_mem_append.mpr ⟨parts, stmts_sound orelse⟩
    exact .node _ _ rfl (List.forall_mem_append.mpr ⟨more, stmts_sound finalbody⟩)
  | .assert _ test message =>
    .node _ _ rfl (List.forall_mem_cons.mpr ⟨expr_sound test, option_sound message⟩)
  | .imports _ names | .importFrom _ _ names _ => .node _ _ rfl (aliases_sound names)
  | .expr _ value => .node _ _ rfl (by simp [expr_sound value])
  | .global .. | .nonlocal .. | .pass _ | .brk _ | .cont _ => .node _ _ rfl (by simp)

theorem stmts_sound : ∀ ss : List Stmt, ∀ t ∈ stmtTrees ss, t.Sound
  | [] => by simp [stmtTrees]
  | s :: rest => List.forall_mem_cons.mpr ⟨stmt_sound s, stmts_sound rest⟩

theorem handler_sound : ∀ h : Handler Stmt, (handlerTree h).Sound
  | ⟨_, type, _, body⟩ =>
    .node _ _ rfl (List.forall_mem_append.mpr ⟨option_sound type, stmts_sound body⟩)

theorem handlers_sound : ∀ hs : List (Handler Stmt), ∀ t ∈ handlerTrees hs, t.Sound
  | [] => by simp [handlerTrees]
  | h :: rest => List.forall_mem_cons.mpr ⟨handler_sound h, handlers_sound rest⟩

theorem case_sound : ∀ c : MatchCase Stmt, (caseTree c).Sound
  | ⟨pattern, guard, body⟩ =>
    .node _ _ rfl (List.forall_mem_append.mpr
      ⟨List.forall_mem_cons.mpr ⟨pattern_sound pattern, option_sound guard⟩, stmts_sound body⟩)

theorem cases_sound : ∀ cs : List (MatchCase Stmt), ∀ t ∈ caseTrees cs, t.Sound
  | [] => by simp [caseTrees]
  | c :: rest => List.forall_mem_cons.mpr ⟨case_sound c, cases_sound rest⟩
end

theorem module_sound (module : Module) : module.tree.Sound :=
  .node _ _ rfl (stmts_sound module.body)

end Sound

section Reaching

variable {stop : Node → Bool}

theorem reaches_member {t : Tree} {ts : List Tree} (member : t ∈ ts) :
    (t.reach stop).Sublist (reaches stop ts) := by
  induction ts with
  | nil => cases member
  | cons first rest ih =>
    rcases List.mem_cons.mp member with rfl | later
    · exact List.sublist_append_left _ _
    · exact (ih later).trans (List.sublist_append_right _ _)

theorem reach_branch {root : Node} {branches : List Tree} {t : Tree} (entered : stop root = false)
    (member : t ∈ branches) : (t.reach stop).Sublist ((Tree.node root branches).reach stop) := by
  rw [Tree.reach, entered]
  exact (reaches_member member).cons root

mutual
theorem reach_expr {e : Expr} : ∀ {t : Tree}, t.Sound → .expr e ∈ t.reach stop →
    (e.tree.reach stop).Sublist (t.reach stop)
  | .node root branches, .node _ _ whole parts, member => by
    rw [Tree.reach] at member ⊢
    split
    · rename_i closed
      rw [if_pos closed] at member
      cases member
    · rename_i entered
      rw [if_neg entered] at member
      rcases List.mem_cons.mp member with rfl | below
      · rw [show e.tree = _ from whole, Tree.reach, if_neg entered]
      · exact (reaches_expr parts below).cons root

theorem reaches_expr {e : Expr} : ∀ {ts : List Tree}, (∀ t ∈ ts, t.Sound) →
    .expr e ∈ reaches stop ts → (e.tree.reach stop).Sublist (reaches stop ts)
  | t :: rest, sound, member => by
    obtain ⟨here, more⟩ := List.forall_mem_cons.mp sound
    rcases List.mem_append.mp member with first | later
    · exact (reach_expr here first).trans (List.sublist_append_left _ _)
    · exact (reaches_expr more later).trans (List.sublist_append_right _ _)
end

end Reaching

section Loops

/-- No loop among the nodes reaches another. -/
def LoopsApart (nodes : List Node) : Prop :=
  ∀ node ∈ nodes, node.isLoop = true →
    ∀ other ∈ reaches Node.isCallable node.tree.branches, other.isLoop = false

instance (nodes : List Node) : Decidable (LoopsApart nodes) :=
  inferInstanceAs (Decidable (∀ node ∈ nodes, _))

theorem loop_nodes_loop {root : Node} {branches : List Tree} (loop : root.isLoop = true)
    (whole : root.tree = .node root branches) :
    loopNodes root = root :: reaches Node.isCallable branches := by
  cases root with
  | stmt s =>
    have entered : (Node.stmt s).isCallable = false := by
      cases s with
      | function => cases loop
      | _ => rfl
    rw [loopNodes, show s.tree = _ from whole, Tree.reach, entered]
    rfl
  | _ => cases loop

variable (weight : Node → Nat)

def loopWeight (node : Node) : Nat := if node.isLoop then total weight (loopNodes node) else 0

-- A part of the tree that a loop reaches is counted once more, but none of its loops is; so the
-- two statements hold together, by induction on the tree.
mutual
theorem loop_weights_le : ∀ t : Tree, t.Sound → LoopsApart t.preorder →
    total (loopWeight weight) t.preorder ≤ total weight t.preorder ∧
      ((∀ node ∈ t.reach Node.isCallable, node.isLoop = false) →
        total (loopWeight weight) t.preorder + total weight (t.reach Node.isCallable) ≤
          total weight t.preorder)
  | .node root branches, .node _ _ whole parts, apart => by
    have inner : LoopsApart (preorders branches) :=
      fun node member => apart node (List.mem_cons_of_mem root member)
    obtain ⟨all, reached⟩ := branch_weights_le branches parts inner
    have first : total (loopWeight weight) (Tree.node root branches).preorder ≤
        total weight (Tree.node root branches).preorder := by
      by_cases loop : root.isLoop = true
      · have none := apart root List.mem_cons_self loop
        rw [whole] at none
        have within := reached none
        simp only [Tree.preorder, total_cons, loopWeight, loop, ↓reduceIte,
          loop_nodes_loop loop whole]
        omega
      · simp only [Tree.preorder, total_cons, loopWeight, if_neg loop]
        omega
    refine ⟨first, fun none => ?_⟩
    rw [Tree.reach] at none ⊢
    split
    · simpa using first
    · rename_i closed
      rw [if_neg closed] at none
      have unlooped := none root List.mem_cons_self
      have within := reached fun node member => none node (List.mem_cons_of_mem root member)
      simp only [Tree.preorder, total_cons, loopWeight, unlooped, Bool.false_eq_true, ↓reduceIte]
      omega

theorem branch_weights_le : ∀ ts : List Tree, (∀ t ∈ ts, t.Sound) → LoopsApart (preorders ts) →
    total (loopWeight weight) (preorders ts) ≤ total weight (preorders ts) ∧
      ((∀ node ∈ reaches Node.isCallable ts, node.isLoop = false) →
        total (loopWeight weight) (preorders ts) + total weight (reaches Node.isCallable ts) ≤
          total weight (preorders ts))
  | [], _, _ => ⟨Nat.le_refl 0, fun _ => Nat.le_refl 0⟩
  | t :: rest, sound, apart => by
    obtain ⟨here, more⟩ := List.forall_mem_cons.mp sound
    obtain ⟨first, firstReached⟩ := loop_weights_le t here
      fun node member => apart node (List.mem_append_left _ member)
    obtain ⟨second, secondReached⟩ := branch_weights_le rest more
      fun node member => apart node (List.mem_append_right _ member)
    simp only [preorders, reaches, total_append, List.forall_mem_append]
    refine ⟨by omega, fun none => ?_⟩
    have left := firstReached none.1
    have right := secondReached none.2
    omega
end

end Loops

section Calls

def callSpots (nodes : List Node) : List (Nat × Nat) :=
  (nodes.filterMap callSpan?).map fun call => call.1.spot

def CallsApart (nodes : List Node) : Prop :=
  ∀ node ∈ nodes, node.isLoop = true → (callSpots (loopNodes node)).Nodup

instance (nodes : List Node) : Decidable (CallsApart nodes) :=
  inferInstanceAs (Decidable (∀ node ∈ nodes, _))

theorem call_spots_sublist {first second : List Node} (part : first.Sublist second) :
    (callSpots first).Sublist (callSpots second) := (part.filterMap _).map _

theorem mem_call_spots {nodes : List Node} {spot : Nat × Nat} (member : spot ∈ callSpots nodes) :
    ∃ span func args keywords,
      .expr (.call span func args keywords) ∈ nodes ∧ span.spot = spot := by
  obtain ⟨⟨span, e⟩, found, rfl⟩ := List.mem_map.mp member
  obtain ⟨node, inside, call⟩ := List.mem_filterMap.mp found
  unfold callSpan? at call
  split at call
  · cases call
    exact ⟨_, _, _, _, inside, rfl⟩
  · cases call

theorem called_mem_call_spots (spot : Nat × Nat) (e : Expr) (called : e.calledAt spot = true) :
    spot ∈ callSpots (e.tree.reach Node.isCallable) := by
  fun_induction Expr.calledAt spot e with
  | case1 span func args keywords ih =>
    rcases Bool.or_eq_true_iff.mp called with here | before
    · have same : span.spot = spot := of_decide_eq_true here
      exact List.mem_map.mpr ⟨(span, .call span func args keywords),
        List.mem_filterMap.mpr ⟨_, List.mem_cons_self, rfl⟩, same⟩
    · exact (call_spots_sublist (reach_branch rfl List.mem_cons_self)).mem (ih before)
  | case2 _ value _ _ ih =>
    exact (call_spots_sublist (reach_branch rfl List.mem_cons_self)).mem (ih called)
  | case3 _ value _ _ ih =>
    exact (call_spots_sublist (reach_branch rfl List.mem_cons_self)).mem (ih called)
  | case4 => cases called

theorem first_call (t : Tree) (sound : t.Sound) (spot : Nat × Nat)
    (apart : (callSpots (t.reach Node.isCallable)).Nodup)
    (member : spot ∈ callSpots (t.reach Node.isCallable)) :
    1 ≤ total (Node.own ⟨.call, spot⟩) (t.reach Node.isCallable) := by
  obtain ⟨span, func, args, keywords, inside, rfl⟩ := mem_call_spots member
  -- A call before it would be a second one at the spot.
  have first : func.calledAt span.spot = false := by
    rw [← Bool.not_eq_true]
    intro before
    have single := apart.sublist (call_spots_sublist (reach_expr sound inside))
    have again := called_mem_call_spots span.spot func before
    have below : (func.tree.reach Node.isCallable).Sublist (reaches Node.isCallable
        (func.tree :: exprTrees args ++ keywordTrees keywords)) := reaches_member List.mem_cons_self
    exact (List.nodup_cons.mp single).1 ((call_spots_sublist below).mem again)
  have own : (Node.expr (.call span func args keywords)).own ⟨.call, span.spot⟩ = 1 := by
    simp [Node.own, first, mine]
  exact own ▸ cost_le_total (Node.own ⟨.call, span.spot⟩) inside

theorem loop_first_call (node : Node) (spot : Nat × Nat)
    (apart : (callSpots (loopNodes node)).Nodup) (member : spot ∈ callSpots (loopNodes node)) :
    1 ≤ total (Node.own ⟨.call, spot⟩) (loopNodes node) := by
  cases node with
  | stmt s => exact first_call s.tree (stmt_sound s) spot apart member
  | _ => cases member

end Calls

end RefactorAdvice.Code
