import Mathlib
import RefactorAdvice.Proofs.Inspector.Walks
import RefactorAdvice.Proofs.JoinedOperands
import RefactorAdvice.Proofs.Positions.Keys

/-!
What notices are about. A notice shows a sign: its rule, its message and its place; the finding made
of it shows the same. A rule speaks of one kind of node, and a notice stands where its node starts,
so of one sign a node is given at most one notice, and only if it bears the key that the sign tells.
-/

namespace RefactorAdvice

open Code

section Signs

structure Sign where
  rule : String
  message : String
  spot : Nat × Nat
deriving DecidableEq

def Notice.sign (n : Notice) : Sign := ⟨n.rule, n.message, n.span.spot⟩

def Finding.sign (f : Finding) : Sign := ⟨f.rule, f.message, (f.line, f.column)⟩

theorem publish_sign {l : Listing} {file : String} {n : Notice} {f : Finding}
    (published : l.publish file n = .ok (some f)) : f.sign = n.sign := by
  obtain ⟨line, placed, _, same⟩ := (Listing.publish_some_iff l file n f).mp published
  have onLine : (f.line : Int) = line := congrArg Finding.Draft.line same
  have column : (f.column : Int) = n.span.columnOrZero := congrArg Finding.Draft.column same
  have spot : n.span.spot = (f.line, f.column) := by
    unfold Span.placed at placed
    unfold Span.columnOrZero at column
    unfold Span.spot
    cases known : n.span.line with
    | none =>
      rw [known] at placed
      cases placed
    | some first =>
      rw [known] at placed
      dsimp only at placed
      split at placed
      · cases placed
        rw [Option.getD_some, ← column, Int.toNat_natCast, Prod.mk.injEq]
        exact ⟨by omega, rfl⟩
      · cases placed
  have rule : f.rule = n.rule := congrArg Finding.Draft.rule same
  have message : f.message = n.message := congrArg Finding.Draft.message same
  rw [Finding.sign, Notice.sign, spot, rule, message]

def shown (sign : Sign) (ns : Notices) : Nat :=
  total (fun n => if n.toOption.map Notice.sign = some sign then 1 else 0) ns

@[simp]
theorem shown_nil (sign : Sign) : shown sign [] = 0 := rfl

@[simp]
theorem shown_append (sign : Sign) (first second : Notices) :
    shown sign (first ++ second) = shown sign first + shown sign second := total_append _ _ _

@[simp]
theorem shown_cons (sign : Sign) (n : Notice) (rest : Notices) :
    shown sign (.ok n :: rest) = (if n.sign = sign then 1 else 0) + shown sign rest := by
  simp [shown, Except.toOption]

theorem published_shown {l : Listing} {file : String} {ns : Notices} {findings : List Finding}
    (sign : Sign) (published : l.publishAll file ns = .ok findings) :
    (findings.map Finding.sign).count sign ≤ shown sign ns := by
  induction ns generalizing findings with
  | nil =>
    cases published
    exact Nat.le_refl 0
  | cons n rest ih =>
    obtain ⟨notice, found, others, rfl, here, later, rfl⟩ :=
      (l.publish_all_cons_iff file _ _ _).mp published
    have more := ih later
    have first : (found.toList.map Finding.sign).count sign ≤ shown sign [.ok notice] := by
      cases found with
      | none => exact Nat.zero_le _
      | some f => simp [publish_sign here, List.count_singleton]
    rw [List.map_append, List.count_append, ← List.singleton_append, shown_append]
    omega

end Signs

section Subjects

/-- The kind of node that a rule speaks of, by its message if there are two; a crowded boolean
operation is told by its count. -/
def Rule.subject (message : String) (count : Int) : Rule → Kind
  | .redundantList | .lenPositive | .lenZero | .repeatedCall | .dictOfPairs => .call
  | .crowdedBoolean => .crowd count
  | .identityWithBool | .equalsNone | .equalsBool | .typeEquality => .compare
  | .negatedAnd | .negatedOr => .inversion
  | .equalityChain | .repeatedInstanceCheck => .chain .or
  | .splitComparison => .chain .and
  | .needlessKeys =>
    if message = "Unnecessary .keys() call in membership test" then .compare else .stmt
  | _ => .stmt

variable {sign : Sign} {count : Int} {node : Node}

structure Speaks (count : Int) (node : Node) (rule : Rule) (n : Notice) : Prop where
  code : n.rule = rule.code
  own : 1 ≤ node.own ⟨rule.subject n.message count, n.span.spot⟩

/-- What a rule can say of a node under a sign: nothing under that of another rule, else as much as
the node bears the key. -/
def due (sign : Sign) (count : Int) (node : Node) (rule : Rule) : Nat :=
  if sign.rule = rule.code then node.own ⟨rule.subject sign.message count, sign.spot⟩ else 0

def Within (sign : Sign) (count : Int) (node : Node) (rules : List Rule) (ns : Notices) : Prop :=
  shown sign ns ≤ total (due sign count node) rules

theorem within_nil {rules : List Rule} : Within sign count node rules [] := Nat.zero_le _

theorem within_error {rules : List Rule} (failure : Failure) :
    Within sign count node rules [.error failure] := Nat.zero_le _

theorem within_append {rules more : List Rule} {ns others : Notices}
    (first : Within sign count node rules ns) (second : Within sign count node more others) :
    Within sign count node (rules ++ more) (ns ++ others) := by
  unfold Within at *
  rw [shown_append, total_append]
  omega

theorem within_sublist {rules more : List Rule} {ns : Notices}
    (within : Within sign count node rules ns) (part : rules.Sublist more) :
    Within sign count node more ns := Nat.le_trans within (total_sublist part)

theorem within_one {rules : List Rule} {n : Notice}
    (speaks : n.sign = sign → ∃ rule ∈ rules, Speaks count node rule n) :
    Within sign count node rules [.ok n] := by
  unfold Within
  by_cases same : n.sign = sign
  · obtain ⟨rule, listed, said⟩ := speaks same
    have paid := cost_le_total (due sign count node) listed
    have own : 1 ≤ due sign count node rule := by
      unfold due
      subst same
      rw [if_pos (show n.sign.rule = rule.code from said.code)]
      exact said.own
    simp only [shown_cons, shown_nil, same, ↓reduceIte]
    omega
  · simp [same]

theorem within_option {rules : List Rule} {found : Option Notice}
    (speaks : ∀ n, found = some n → n.sign = sign → ∃ rule ∈ rules, Speaks count node rule n) :
    Within sign count node rules (found.toList.map .ok) := by
  cases found with
  | none => exact within_nil
  | some n => exact within_one (speaks n rfl)

theorem within_outcome {rules : List Rule} {outcome : Except Failure (Option Notice)}
    (speaks : ∀ n, outcome = .ok (some n) → n.sign = sign →
      ∃ rule ∈ rules, Speaks count node rule n) :
    Within sign count node rules (Rules.Comparisons.asNotices outcome) := by
  cases outcome with
  | error failure => exact within_error failure
  | ok found => exact within_option fun n same => speaks n (congrArg Except.ok same)

end Subjects

section Keys

variable (span : Span)

theorem compare_own (left : Expr) (ops : List CompareOp) (comparators : List Expr) :
    1 ≤ (Node.expr (.compare span left ops comparators)).own ⟨.compare, span.spot⟩ := by
  simp [Node.own]

theorem inversion_own (operand : Expr) :
    1 ≤ (Node.expr (.unary span .not operand)).own ⟨.inversion, span.spot⟩ := by
  simp [Node.own]

theorem chain_own (op : BoolOp) (values : List Expr) :
    1 ≤ (Node.expr (.boolOp span op values)).own ⟨.chain op, span.spot⟩ := by
  simp only [Node.own, Expr.own, mine_self]
  omega

theorem crowd_own (op : BoolOp) (values : List Expr) :
    1 ≤ (Node.expr (.boolOp span op values)).own
      ⟨.crowd (Rules.BooleanLogic.operatorCount (.boolOp span op values)), span.spot⟩ := by
  simp only [Node.own, Expr.own, mine_self]
  omega

theorem named_call_own (at_ : Span) (id : String) (usage : Usage) (args : List Expr)
    (keywords : List (Keyword Expr)) :
    1 ≤ (Node.expr (.call span (.name at_ id usage) args keywords)).own ⟨.call, span.spot⟩ := by
  simp [Node.own, Expr.calledAt]

end Keys

def Family.nodeRules : Family → List Rule
  | .complexity =>
    [.longFunction, .manyArguments, .manyLocals, .manyBranches, .deepNesting, .highComplexity]
  | .performance =>
    [.listConcatenation, .redundantList, .lenPositive, .lenZero]
  | .booleanLogic => [.crowdedBoolean, .identityWithBool, .lateExit, .negatedAnd, .negatedOr]
  | .loops => [.rangeLen, .manualIndex, .nestedLookup, .loopInvariant]
  | .duplication => [.duplicateBlock]
  | .contextManager => [.unmanagedResource]
  | .controlFlow => [.elseAfterReturn, .elseAfterRaise, .elseAfterBreak, .elseAfterContinue]
  | .dictOperations => [.lookupWithDefault, .needlessKeys, .itemsInstead, .dictOfPairs]
  | .comparisons =>
    [.equalityChain, .repeatedInstanceCheck, .splitComparison, .equalsNone, .equalsBool,
      .typeEquality]

def Family.loopRules : Family → List Rule
  | .performance => [.textConcatenation, .repeatedCall]
  | _ => []

namespace Rules

variable {sign : Sign} {count : Int} {node : Node}

section Functions

open Complexity

theorem excess_speaks {f : Subject} {rule : Rule} {value limit : Int} {message suggestion : String}
    {endLine : Option Int} {n : Notice} (of : Subject.of? node = some f)
    (stmt : ∀ text, rule.subject text count = .stmt)
    (found : excess f rule value limit message suggestion endLine = some n) :
    ∃ other ∈ [rule], Speaks count node other n := by
  unfold excess at found
  split at found
  · cases found
    refine ⟨rule, List.mem_singleton_self rule, rfl, ?_⟩
    rw [stmt]
    unfold Subject.of? at of
    split at of
    · cases of
      exact stmt_own (.function _ _ _ _ _ _ _)
    · cases of
  · cases found

theorem complexity_within (limits : Settings.Complexity) :
    Within sign count node Family.complexity.nodeRules
      (match Subject.of? node with
        | some f => (check limits f).map .ok
        | none => []) := by
  cases of : Subject.of? node with
  | none => exact within_nil
  | some f =>
    have length : Within sign count node [.longFunction]
        ((lengthNotice limits f).toList.map .ok) := by
      apply within_option
      intro n found _
      unfold lengthNotice at found
      split at found
      · exact excess_speaks of (fun _ => rfl) found
      · cases found
    have measured : ∀ {rule value limit message suggestion},
        (∀ text, Rule.subject text count rule = .stmt) → Within sign count node [rule]
          ((excess f rule value limit message suggestion none).toList.map .ok) :=
      fun stmt => within_option fun n found _ => excess_speaks of stmt found
    have arguments : Within sign count node [.manyArguments]
        ((argumentsNotice limits f).toList.map .ok) := measured fun _ => rfl
    have locals : Within sign count node [.manyLocals]
        ((localsNotice limits f).toList.map .ok) := measured fun _ => rfl
    have branches : Within sign count node [.manyBranches]
        ((branchesNotice limits f).toList.map .ok) := measured fun _ => rfl
    have nesting : Within sign count node [.deepNesting]
        ((nestingNotice limits f).toList.map .ok) := measured fun _ => rfl
    have complexity : Within sign count node [.highComplexity]
        ((complexityNotice limits f).toList.map .ok) := measured fun _ => rfl
    have all := within_append length (within_append arguments (within_append locals
      (within_append branches (within_append nesting complexity))))
    simpa [check, Family.nodeRules, List.filterMap_eq_flatMap_toList] using all

end Functions

section Statements

theorem context_manager_within (around : List Node) :
    Within sign count node Family.contextManager.nodeRules
      ((ContextManager.check around node).toList.map .ok) := by
  apply within_option
  intro n found _
  have told : ∀ span name, ContextManager.opened? node = some (span, name) →
      1 ≤ node.own ⟨.stmt, span.spot⟩ := by
    intro span name opened
    unfold ContextManager.opened? at opened
    split at opened
    · obtain ⟨_, _, same⟩ := Option.map_eq_some_iff.mp opened
      cases same
      exact stmt_own (.assign _ _ _)
    · obtain ⟨_, _, same⟩ := Option.map_eq_some_iff.mp opened
      cases same
      exact stmt_own (.expr _ _)
    · cases opened
  unfold ContextManager.check at found
  split at found
  · cases found
  · rename_i span name opened
    split at found
    · cases found
    · cases found
      exact ⟨.unmanagedResource, by decide, rfl, told span name opened⟩

theorem control_flow_within :
    Within sign count node Family.controlFlow.nodeRules
      ((ControlFlow.check node).toList.map .ok) := by
  apply within_option
  intro n found _
  unfold ControlFlow.check at found
  split at found
  · split at found
    · obtain ⟨ending, _, rfl⟩ := Option.map_eq_some_iff.mp found
      refine ⟨ending.rule, by cases ending <;> decide, rfl, ?_⟩
      cases ending <;> exact stmt_own (.ifElse _ _ _ _)
    · cases found
  · cases found

theorem range_len_speaks {s : Stmt} {target iter : Expr} {body : List Stmt} {n : Notice}
    (found : Loops.rangeLen s.span target iter body = .ok (some n)) :
    Speaks count (.stmt s) .rangeLen n := by
  unfold Loops.rangeLen at found
  split at found
  · obtain ⟨signature, _, found⟩ := (bind_ok_iff _ _ _).mp found
    obtain ⟨alike, _, found⟩ := (bind_ok_iff _ _ _).mp found
    split at found
    · cases found
      exact ⟨rfl, stmt_own s⟩
    · cases found
  · cases found

-- What is said of a loop of either kind.
theorem loop_body_within (s : Stmt) (body : List Stmt) (invariant : Option Notice)
    (told : ∀ n, invariant = some n → ∃ names, Loops.invariant s.span names body = some n) :
    Within sign count (.stmt s) [.manualIndex, .nestedLookup, .loopInvariant]
      (((Loops.manualIndex s.span body).toList ++ (Loops.nestedLookup s.span body).toList ++
        invariant.toList).map .ok) := by
  have index : Within sign count (.stmt s) [.manualIndex]
      ((Loops.manualIndex s.span body).toList.map .ok) := by
    apply within_option
    intro n found _
    simp only [Loops.manualIndex] at found
    split at found
    · cases found
    · cases found
      exact ⟨.manualIndex, List.mem_singleton_self _, rfl, stmt_own s⟩
  have lookups : Within sign count (.stmt s) [.nestedLookup]
      ((Loops.nestedLookup s.span body).toList.map .ok) := by
    apply within_option
    intro n found _
    unfold Loops.nestedLookup at found
    split at found
    · cases found
      exact ⟨.nestedLookup, List.mem_singleton_self _, rfl, stmt_own s⟩
    · cases found
  have moved : Within sign count (.stmt s) [.loopInvariant] (invariant.toList.map .ok) := by
    apply within_option
    intro n found _
    obtain ⟨names, found⟩ := told n found
    unfold Loops.invariant at found
    split at found
    · cases found
      exact ⟨.loopInvariant, List.mem_singleton_self _, rfl, stmt_own s⟩
    · cases found
  have all := within_append index (within_append lookups moved)
  simpa using all

theorem loops_within : Within sign count node Family.loops.nodeRules (Loops.check node) := by
  unfold Loops.check
  split
  · rename_i span isAsync target iter body orelse
    have ranged : Within sign count (.stmt (.forLoop span isAsync target iter body orelse))
        [.rangeLen] (Comparisons.asNotices (Loops.rangeLen span target iter body)) := by
      apply within_outcome
      intro n found _
      have speaks : Speaks count (.stmt (.forLoop span isAsync target iter body orelse))
          .rangeLen n := range_len_speaks found
      exact ⟨.rangeLen, List.mem_singleton_self _, speaks⟩
    apply within_append ranged
    apply loop_body_within (.forLoop span isAsync target iter body orelse)
    intro n found
    unfold Loops.forInvariant at found
    split at found
    · exact ⟨_, found⟩
    · cases found
  · rename_i span test body orelse
    have inside : Within sign count (.stmt (.whileLoop span test body orelse)) _ _ :=
      loop_body_within (.whileLoop span test body orelse) body
        (Loops.whileInvariant span test body) fun n found => ⟨_, found⟩
    exact within_sublist inside (by decide)
  · exact within_nil

theorem dict_operations_within :
    Within sign count node Family.dictOperations.nodeRules (DictOperations.check node) := by
  unfold DictOperations.check
  split
  · rename_i span test body orelse
    have looked : Within sign count (.stmt (.ifElse span test body orelse)) [.lookupWithDefault]
        (DictOperations.lookup (.ifElse span test body orelse)).toList := by
      unfold DictOperations.lookup
      cases DictOperations.Lookup.of? (.ifElse span test body orelse) with
      | none => exact within_nil
      | some found =>
        cases rendered : found.default.render with
        | error failure =>
          simp only [Option.map_some, rendered, Option.toList_some]
          exact within_error failure
        | ok text =>
          simp only [Option.map_some, rendered, Option.toList_some]
          exact within_one fun _ => ⟨.lookupWithDefault, List.mem_singleton_self _, rfl, stmt_own _⟩
    exact within_sublist looked (by decide)
  · rename_i span target iter body orelse
    have keys : Within sign count (.stmt (.forLoop span false target iter body orelse))
        [.needlessKeys] ((DictOperations.keysIteration span target iter).toList.map .ok) := by
      apply within_option
      intro n found _
      obtain ⟨dict, _, rfl⟩ := Option.map_eq_some_iff.mp found
      exact ⟨.needlessKeys, List.mem_singleton_self _, rfl, stmt_own (.forLoop _ _ _ _ _ _)⟩
    have items : Within sign count (.stmt (.forLoop span false target iter body orelse))
        [.itemsInstead] ((DictOperations.itemsInstead span target iter body).toList.map .ok) := by
      apply within_option
      intro n found _
      unfold DictOperations.itemsInstead at found
      split at found
      · split at found
        · cases found
          exact ⟨.itemsInstead, List.mem_singleton_self _, rfl, stmt_own (.forLoop _ _ _ _ _ _)⟩
        · cases found
      · cases found
    have both := within_append keys items
    rw [← List.map_append] at both
    exact within_sublist both (by decide)
  · rename_i span left ops comparators
    rw [Option.toList_map]
    apply within_option
    intro n found _
    unfold DictOperations.keysMembership at found
    split at found
    · rename_i same
      cases same
      obtain ⟨dict, _, rfl⟩ := Option.map_eq_some_iff.mp found
      exact ⟨.needlessKeys, by decide, rfl, compare_own _ _ _ _⟩
    · cases found
  · rw [Option.toList_map]
    apply within_option
    intro n found _
    unfold DictOperations.pairs at found
    split at found
    · rename_i same
      cases same
      cases found
      exact ⟨.dictOfPairs, by decide, rfl, named_call_own _ _ _ _ _ _⟩
    · cases found
  · exact within_nil

end Statements

section Expressions

variable {span : Span} {values : List Expr} {n : Notice}

theorem equality_chain_speaks (found : Comparisons.equalityChain span values = .ok (some n)) :
    Speaks count (.expr (.boolOp span .or values)) .equalityChain n := by
  unfold Comparisons.equalityChain at found
  split at found
  · cases found
  · obtain ⟨alike, _, found⟩ := (bind_ok_iff _ _ _).mp found
    split at found
    · cases found
    · split at found
      · obtain ⟨var, _, found⟩ := (bind_ok_iff _ _ _).mp found
        obtain ⟨texts, _, found⟩ := (bind_ok_iff _ _ _).mp found
        cases found
        exact ⟨rfl, chain_own span .or values⟩
      · cases found

theorem instance_checks_speak (found : Comparisons.instanceChecks span values = .ok (some n)) :
    Speaks count (.expr (.boolOp span .or values)) .repeatedInstanceCheck n := by
  unfold Comparisons.instanceChecks at found
  split at found
  · cases found
  · split at found
    · obtain ⟨alike, _, found⟩ := (bind_ok_iff _ _ _).mp found
      split at found
      · cases found
      · obtain ⟨var, _, found⟩ := (bind_ok_iff _ _ _).mp found
        obtain ⟨types, _, found⟩ := (bind_ok_iff _ _ _).mp found
        cases found
        exact ⟨rfl, chain_own span .or values⟩
    · cases found

theorem split_comparison_speaks (found : Comparisons.splitComparison span values = .ok (some n)) :
    Speaks count (.expr (.boolOp span .and values)) .splitComparison n := by
  obtain ⟨chain, _, found⟩ := (bind_ok_iff _ _ _).mp found
  split at found
  · cases found
  · cases found
    exact ⟨rfl, chain_own span .and values⟩

variable {left : Expr} {ops : List CompareOp} {comparators : List Expr}

theorem singleton_notice_speaks {one other : Expr} {negated : Bool}
    (found : Comparisons.singletonNotice span one other negated = .ok (some n)) :
    ∃ rule ∈ [Rule.equalsNone, .equalsBool],
      Speaks count (.expr (.compare span left ops comparators)) rule n := by
  unfold Comparisons.singletonNotice at found
  split at found
  · cases found
  · cases found
    exact ⟨.equalsNone, by decide, rfl, compare_own span left ops comparators⟩
  · obtain ⟨text, _, found⟩ := (bind_ok_iff _ _ _).mp found
    cases found
    exact ⟨.equalsBool, by decide, rfl, compare_own span left ops comparators⟩

theorem singleton_speaks
    (found : Comparisons.singleton (.compare span left ops comparators) = .ok (some n)) :
    ∃ rule ∈ [Rule.equalsNone, .equalsBool],
      Speaks count (.expr (.compare span left ops comparators)) rule n := by
  unfold Comparisons.singleton at found
  split at found
  · rename_i same
    cases same
    exact singleton_notice_speaks found
  · rename_i same
    cases same
    exact singleton_notice_speaks found
  · cases found

theorem type_equality_speaks
    (found : Comparisons.typeEquality (.compare span left ops comparators) = .ok (some n)) :
    Speaks count (.expr (.compare span left ops comparators)) .typeEquality n := by
  unfold Comparisons.typeEquality at found
  split at found
  · rename_i same
    cases same
    split at found
    · obtain ⟨object, _, found⟩ := (bind_ok_iff _ _ _).mp found
      split at found
      · obtain ⟨type, _, found⟩ := (bind_ok_iff _ _ _).mp found
        cases found
        exact ⟨rfl, compare_own span _ _ _⟩
      · cases found
        exact ⟨rfl, compare_own span _ _ _⟩
    · cases found
  · cases found

theorem comparisons_within :
    Within sign count node Family.comparisons.nodeRules (Comparisons.check node) := by
  unfold Comparisons.check
  split
  · rename_i span values
    have chain : Within sign count (.expr (.boolOp span .or values)) [.equalityChain]
        (Comparisons.asNotices (Comparisons.equalityChain span values)) :=
      within_outcome fun n found _ => ⟨_, List.mem_singleton_self _, equality_chain_speaks found⟩
    have checks : Within sign count (.expr (.boolOp span .or values)) [.repeatedInstanceCheck]
        (Comparisons.asNotices (Comparisons.instanceChecks span values)) :=
      within_outcome fun n found _ => ⟨_, List.mem_singleton_self _, instance_checks_speak found⟩
    exact within_sublist (within_append chain checks) (by decide)
  · rename_i span values
    have chain : Within sign count (.expr (.boolOp span .and values)) [.splitComparison]
        (Comparisons.asNotices (Comparisons.splitComparison span values)) :=
      within_outcome fun n found _ => ⟨_, List.mem_singleton_self _, split_comparison_speaks found⟩
    exact within_sublist chain (by decide)
  · rename_i span left ops comparators
    have single : Within sign count (.expr (.compare span left ops comparators))
        [.equalsNone, .equalsBool]
        (Comparisons.asNotices (Comparisons.singleton (.compare span left ops comparators))) :=
      within_outcome fun n found _ => singleton_speaks found
    have types : Within sign count (.expr (.compare span left ops comparators)) [.typeEquality]
        (Comparisons.asNotices (Comparisons.typeEquality (.compare span left ops comparators))) :=
      within_outcome fun n found _ => ⟨_, List.mem_singleton_self _, type_equality_speaks found⟩
    exact within_sublist (within_append single types) (by decide)
  · exact within_nil

def crowdMessage (limit count : Int) : String :=
  s!"Complex boolean expression with {count} operators (max {limit})"

theorem crowd_message_injective {limit count other : Int}
    (same : crowdMessage limit count = crowdMessage limit other) : count = other := by
  unfold crowdMessage at same
  rw [String.append_left_inj, String.append_left_inj, String.append_left_inj,
    String.append_right_inj] at same
  exact Int.repr_injective same

-- The count is the one that the message tells, if it tells one.
theorem boolean_logic_within (limits : Settings.BooleanLogic) (inside : Bool)
    (told : ∀ other, sign.message = crowdMessage limits.maxBooleanOperators other → other = count) :
    Within sign count node Family.booleanLogic.nodeRules
      ((BooleanLogic.check limits inside node).toList.map .ok) := by
  apply within_option
  intro n found shows
  obtain ⟨rule, said⟩ := BooleanLogic.check_said found
  cases said with
  | @crowd span op values _ same _ =>
    obtain rfl := same.trans (told _ (shows ▸ rfl))
    exact ⟨.crowdedBoolean, by decide, rfl, crowd_own span op values⟩
  | identity span left ops comparators =>
    exact ⟨.identityWithBool, by decide, rfl, compare_own span left ops comparators⟩
  | negatedAnd span operand => exact ⟨.negatedAnd, by decide, rfl, inversion_own span operand⟩
  | negatedOr span operand => exact ⟨.negatedOr, by decide, rfl, inversion_own span operand⟩
  | late => exact ⟨.lateExit, by decide, rfl, stmt_own _⟩

theorem len_advice_rule {ops : List CompareOp} {rule : Rule} {message suggestion : String}
    (advice : Performance.lenAdvice? ops = some (rule, message, suggestion)) :
    rule ∈ [Rule.lenPositive, .lenZero] ∧ ∀ text, rule.subject text count = .call := by
  unfold Performance.lenAdvice? at advice
  split at advice
  · cases advice
    exact ⟨by decide, fun _ => rfl⟩
  · split at advice
    · cases advice
      exact ⟨by decide, fun _ => rfl⟩
    · split at advice
      · cases advice
        exact ⟨by decide, fun _ => rfl⟩
      · cases advice

theorem performance_arrival_within (limits : Settings.Performance)
    (silent : Span → Rule → Bool) (scopes : Performance.Scopes) (around : List Node) :
    Within sign count node Family.performance.nodeRules
      (Performance.check limits silent scopes (.enter around node)) := by
  unfold Performance.check
  split
  · rename_i same
    cases same
    rw [Option.toList_map]
    apply within_option
    intro n found _
    unfold Performance.listGrowth at found
    split at found
    · rename_i same
      cases same
      split at found
      · cases found
        exact ⟨.listConcatenation, by decide, rfl, stmt_own (.augAssign _ _ _ _)⟩
      · cases found
    · cases found
  · rename_i span func args keywords same
    cases same
    have redundant : Within sign count (.expr (.call span func args keywords)) [.redundantList]
        ((Performance.redundantList (.call span func args keywords)).toList.map .ok) := by
      apply within_option
      intro n found _
      unfold Performance.redundantList at found
      split at found
      · rename_i same
        cases same
        cases found
        exact ⟨.redundantList, by decide, rfl, named_call_own _ _ _ _ _ _⟩
      · cases found
    have lengths : Within sign count (.expr (.call span func args keywords))
        [.lenPositive, .lenZero]
        ((Performance.lenComparison around (.call span func args keywords)).toList.map .ok) := by
      apply within_option
      intro n found _
      unfold Performance.lenComparison at found
      split at found
      · rename_i same
        cases same
        split at found
        · split at found
          · obtain ⟨⟨rule, message, suggestion⟩, advice, rfl⟩ := Option.map_eq_some_iff.mp found
            obtain ⟨listed, call⟩ := len_advice_rule advice
            refine ⟨rule, listed, rfl, ?_⟩
            rw [call]
            exact named_call_own _ _ _ _ _ _
          · cases found
        · cases found
      · cases found
    have both := within_append redundant lengths
    rw [← List.map_append] at both
    exact within_sublist both (by decide)
  · rename_i same
    cases same
  · exact within_nil

end Expressions

section Visits

open Inspector

theorem arrival_within (settings : Settings) (listing : Listing) (outside : Bool)
    (scopes : Performance.Scopes) (family : Family) (around : List Node)
    (told : ∀ other, sign.message =
      crowdMessage settings.booleanLogic.maxBooleanOperators other → other = count) :
    Within sign count node family.nodeRules
      (spoken settings listing outside scopes family (.enter around node)) := by
  cases family with
  | complexity => exact complexity_within settings.complexity
  | performance => exact performance_arrival_within _ _ scopes around
  | booleanLogic =>
    rw [spoken, Option.toList_map]
    exact boolean_logic_within settings.booleanLogic _ told
  | loops => exact loops_within
  | duplication => exact within_nil
  | contextManager =>
    rw [spoken, Option.toList_map]
    exact context_manager_within around
  | controlFlow =>
    change Within sign count node _ ((ControlFlow.check node).map .ok).toList
    rw [Option.toList_map]
    exact control_flow_within
  | dictOperations => exact dict_operations_within
  | comparisons => exact comparisons_within

end Visits

end Rules

end RefactorAdvice
