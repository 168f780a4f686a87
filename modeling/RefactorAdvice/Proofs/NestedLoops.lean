import RefactorAdvice.Proofs.LoopReports
import RefactorAdvice.Proofs.UnmanagedResources

/-!
Nested loops with lookups, reported exactly. The height of a loop is one more than that of the
highest loop nearest inside its body, past no function, class or lambda. The depth that is handed
down from loop to loop comes to the same, and the search for a lookup from loop to loop finds what
is anywhere in the body. A loop of height three or more is reported if there is a lookup in its body
and no comment silences the rule there.
-/

namespace RefactorAdvice.Rules.Loops

open Code
open Performance (LoopParts loopParts? loop_parts_iff loop? loop_iff isError)

section Outermost

def isScope (node : Node) : Bool := node.isDefinition || node.isCallable

mutual
/-- The loops that are met first on the ways down a tree, past no function, class or lambda. -/
def outermost : Tree → List Stmt
  | .node root branches =>
    match loop? root with
    | some s => [s]
    | none => if isScope root then [] else outermostOf branches

def outermostOf : List Tree → List Stmt
  | [] => []
  | t :: rest => outermost t ++ outermostOf rest
end

@[simp]
theorem outermost_of_nil : outermostOf [] = [] := rfl

@[simp]
theorem outermost_of_cons (t : Tree) (rest : List Tree) :
    outermostOf (t :: rest) = outermost t ++ outermostOf rest := rfl

@[simp]
theorem outermost_of_append (first second : List Tree) :
    outermostOf (first ++ second) = outermostOf first ++ outermostOf second := by
  induction first with
  | nil => rfl
  | cons t rest ih => simp [ih]

theorem outermost_loop {s : Stmt} (isLoop : s.isLoop = true) (branches : List Tree) :
    outermost (.node (.stmt s) branches) = [s] := by
  rw [outermost, (loop_iff _ s).mpr ⟨rfl, isLoop⟩]

theorem outermost_other {root : Node} (other : loop? root = none)
    (entered : isScope root = false) (branches : List Tree) :
    outermost (.node root branches) = outermostOf branches := by
  rw [outermost, other, entered]
  rfl

mutual
theorem outermost_listed {s : Stmt} : ∀ {t : Tree}, s ∈ outermost t → .stmt s ∈ t.preorder
  | .node root branches, member => by
    rw [outermost] at member
    split at member
    · rename_i loop is
      obtain ⟨rfl, _⟩ := (loop_iff root loop).mp is
      rw [List.mem_singleton.mp member]
      exact List.mem_cons_self
    · split at member
      · cases member
      · exact List.mem_cons_of_mem _ (outermost_of_listed member)

theorem outermost_of_listed {s : Stmt} :
    ∀ {ts : List Tree}, s ∈ outermostOf ts → .stmt s ∈ preorders ts
  | [], member => by cases member
  | t :: rest, member => by
    rw [preorders, List.mem_append]
    exact (List.mem_append.mp member).imp outermost_listed outermost_of_listed
end

theorem outermost_stmtless {t : Tree} (none : ∀ spot, t.tally ⟨.stmt, spot⟩ = 0) :
    outermost t = [] :=
  List.eq_nil_iff_forall_not_mem.mpr fun s member =>
    unlisted_of_stmtless none s (outermost_listed member)

@[simp]
theorem outermost_expr (e : Expr) : outermost e.tree = [] :=
  outermost_stmtless fun spot => expr_stmtless spot e

@[simp]
theorem outermost_exprs (es : List Expr) : outermostOf (exprTrees es) = [] := by
  induction es with
  | nil => rfl
  | cons e rest ih => simp [exprTrees, ih]

@[simp]
theorem outermost_option (e : Option Expr) : outermostOf (optionTree e) = [] := by
  cases e <;> simp [optionTree]

@[simp]
theorem outermost_items (items : List WithItem) : outermostOf (items.map WithItem.tree) = [] :=
  List.eq_nil_iff_forall_not_mem.mpr fun s member =>
    ContextManager.items_unlisted items s (outermost_of_listed member)

@[simp]
theorem outermost_aliases (names : List Alias) : outermostOf (names.map Alias.tree) = [] := by
  induction names with
  | nil => rfl
  | cons name rest ih =>
    rw [List.map_cons, outermost_of_cons, ih]
    rfl

mutual
@[simp]
theorem outermost_pattern : ∀ p : Pattern, outermost p.tree = []
  | .value _ value => by simp [Pattern.tree, outermost, loop?]
  | .singleton _ _ => rfl
  | .sequence _ parts => by
    simp [Pattern.tree, outermost, loop?, outermost_patterns parts]
  | .mapping _ keys parts _ => by
    simp [Pattern.tree, outermost, loop?, outermost_patterns parts]
  | .shape _ cls parts _ named => by
    simp [Pattern.tree, outermost, loop?, outermost_patterns parts, outermost_patterns named]
  | .star _ _ => rfl
  | .bind _ part _ => by simp [Pattern.tree, outermost, loop?, outermost_option_pattern part]
  | .either _ parts => by simp [Pattern.tree, outermost, loop?, outermost_patterns parts]

theorem outermost_patterns : ∀ ps : List Pattern, outermostOf (patternTrees ps) = []
  | [] => rfl
  | p :: rest => by simp [patternTrees, outermost_pattern p, outermost_patterns rest]

theorem outermost_option_pattern : ∀ p : Option Pattern, outermostOf (optionPattern p) = []
  | none => rfl
  | some p => by simp [optionPattern, outermost_pattern p]
end

theorem loop_tree {s : Stmt} {parts : LoopParts} (made : loopParts? s = some parts) :
    s.tree = .node (.stmt s)
      (exprTrees parts.head ++ stmtTrees parts.body ++ stmtTrees parts.orelse) := by
  cases s with
  | forLoop | whileLoop =>
    cases made
    rfl
  | _ => cases made

end Outermost

section Induction

def Inherited (motive : Stmt → Prop) : Prop :=
  ∀ s parts, loopParts? s = some parts →
    (∀ inner ∈ outermostOf (stmtTrees parts.body), motive inner) → motive s

mutual
theorem outermost_induct {motive : Stmt → Prop} (step : Inherited motive) :
    ∀ t : Tree, t.Sound → ∀ s ∈ outermost t, motive s
  | .node root branches, .node _ _ whole parts, s, member => by
    have below := outermost_of_induct step branches parts
    rw [outermost] at member
    split at member
    · rename_i loop is
      obtain ⟨rfl, isLoop⟩ := (loop_iff root loop).mp is
      cases List.mem_singleton.mp member
      obtain ⟨made, known⟩ := (loop_parts_iff s).mp isLoop
      cases whole.symm.trans (loop_tree known)
      refine step s made known fun inner inside => below inner ?_
      simp [inside]
    · split at member
      · cases member
      · exact below s member

theorem outermost_of_induct {motive : Stmt → Prop} (step : Inherited motive) :
    ∀ ts : List Tree, (∀ t ∈ ts, t.Sound) → ∀ s ∈ outermostOf ts, motive s
  | [], _, s, member => by cases member
  | t :: rest, sound, s, member => by
    rcases List.mem_append.mp member with here | later
    · exact outermost_induct step t (sound t List.mem_cons_self) s here
    · exact outermost_of_induct step rest
        (fun t inside => sound t (List.mem_cons_of_mem _ inside)) s later
end

theorem loop_induction {motive : Stmt → Prop} (step : Inherited motive) (s : Stmt)
    (isLoop : s.isLoop = true) : motive s := by
  obtain ⟨parts, made⟩ := (loop_parts_iff s).mp isLoop
  apply outermost_induct step s.tree (stmt_sound s) s
  rw [loop_tree made, outermost_loop isLoop]
  exact List.mem_singleton_self s

end Induction

section Heights

def highest (values : List Nat) : Nat := values.foldr max 0

@[simp]
theorem highest_nil : highest [] = 0 := rfl

@[simp]
theorem highest_cons (value : Nat) (rest : List Nat) :
    highest (value :: rest) = max value (highest rest) := rfl

@[simp]
theorem highest_append (first second : List Nat) :
    highest (first ++ second) = max (highest first) (highest second) := by
  induction first with
  | nil => simp
  | cons value rest ih => simp [ih, max_assoc]

theorem max_highest_shift (k : Nat) (values : List Nat) :
    max k (highest (values.map (k + ·))) = k + highest values := by
  induction values with
  | nil => simp
  | cons value rest ih =>
    simp only [List.map_cons, highest_cons]
    omega

/-- A measure of loops: one more than the highest of the nearest loops in the body. -/
def MeasuresLoops (height : Stmt → Nat) : Prop :=
  ∀ s parts, loopParts? s = some parts →
    height s = 1 + highest ((outermostOf (stmtTrees parts.body)).map height)

-- A depth is handed down unchanged to the loops that are met first.
mutual
theorem deepest_outermost (depth : Nat) :
    ∀ s : Stmt, deepest depth s = highest ((outermost s.tree).map (deepest depth))
  | .forLoop _ _ _ _ _ _ | .whileLoop _ _ _ _ => by
    rw [Stmt.tree, outermost_loop rfl]
    simp
  | .function _ _ _ _ _ _ _ | .cls _ _ _ _ _ _ => rfl
  | .ifElse _ _ body orelse => by
    rw [Stmt.tree, outermost_other rfl rfl]
    simp [deepest, deepest_of_outermost depth body, deepest_of_outermost depth orelse]
  | .withBlock _ _ _ body => by
    rw [Stmt.tree, outermost_other rfl rfl]
    simp [deepest, deepest_of_outermost depth body]
  | .matchOn _ _ cases => by
    rw [Stmt.tree, outermost_other rfl rfl]
    simp [deepest, deepest_cases_outermost depth cases]
  | .tryBlock _ _ body handlers orelse finalbody => by
    rw [Stmt.tree, outermost_other rfl rfl]
    simp [deepest, deepest_of_outermost depth body, deepest_handlers_outermost depth handlers,
      deepest_of_outermost depth orelse, deepest_of_outermost depth finalbody, max_assoc]
  | .ret _ _ | .delete _ _ | .assign _ _ _ | .augAssign _ _ _ _ | .annAssign _ _ _ _ _
  | .raise _ _ _ | .assert _ _ _ | .imports _ _ | .importFrom _ _ _ _ | .global _ _
  | .nonlocal _ _ | .expr _ _ | .pass _ | .brk _ | .cont _ => by
    rw [Stmt.tree, outermost_other rfl rfl]
    simp [deepest]

theorem deepest_of_outermost (depth : Nat) : ∀ ss : List Stmt,
    deepestOf depth ss = highest ((outermostOf (stmtTrees ss)).map (deepest depth))
  | [] => rfl
  | s :: rest => by
    simp [deepestOf, stmtTrees, deepest_outermost depth s, deepest_of_outermost depth rest]

theorem deepest_handlers_outermost (depth : Nat) : ∀ hs : List (Handler Stmt),
    deepestOfHandlers depth hs = highest ((outermostOf (handlerTrees hs)).map (deepest depth))
  | [] => rfl
  | ⟨span, type, name, body⟩ :: rest => by
    rw [handlerTrees, handlerTree, outermost_of_cons, outermost_other rfl rfl]
    simp [deepestOfHandlers, deepest_of_outermost depth body,
      deepest_handlers_outermost depth rest]

theorem deepest_cases_outermost (depth : Nat) : ∀ cs : List (MatchCase Stmt),
    deepestOfCases depth cs = highest ((outermostOf (caseTrees cs)).map (deepest depth))
  | [] => rfl
  | ⟨pattern, guard, body⟩ :: rest => by
    rw [caseTrees, caseTree, outermost_of_cons, outermost_other rfl rfl]
    simp [deepestOfCases, deepest_of_outermost depth body, deepest_cases_outermost depth rest]
end

theorem deepest_loop {s : Stmt} {parts : LoopParts} (made : loopParts? s = some parts)
    (depth : Nat) : deepest depth s = max depth (deepestOf (depth + 1) parts.body) := by
  cases s with
  | forLoop | whileLoop =>
    cases made
    rfl
  | _ => cases made

def Shifts (s : Stmt) : Prop := ∀ depth, deepest (depth + 1) s = depth + deepest 1 s

theorem deepest_beyond {s : Stmt} {parts : LoopParts} (made : loopParts? s = some parts)
    (shifts : ∀ inner ∈ outermostOf (stmtTrees parts.body), Shifts inner) (depth : Nat) :
    deepest (depth + 1) s =
      depth + 1 + highest ((outermostOf (stmtTrees parts.body)).map (deepest 1)) := by
  have shifted : (outermostOf (stmtTrees parts.body)).map (deepest (depth + 1 + 1)) =
      ((outermostOf (stmtTrees parts.body)).map (deepest 1)).map (depth + 1 + ·) := by
    rw [List.map_map]
    exact List.map_congr_left fun inner inside => shifts inner inside (depth + 1)
  rw [deepest_loop made, deepest_of_outermost, shifted, max_highest_shift]

theorem shifts_inherited : Inherited Shifts := by
  intro s parts made shifts depth
  have own : deepest 1 s = _ := deepest_beyond made shifts 0
  rw [deepest_beyond made shifts depth]
  omega

/-- The depth from one on is a measure of loops. -/
theorem deepest_measures : MeasuresLoops (deepest 1) := by
  intro s parts made
  have shifts := outermost_of_induct shifts_inherited _ (stmts_sound parts.body)
  simpa using deepest_beyond made shifts 0

/-- It is the only one. -/
theorem measure_unique {height : Stmt → Nat} (measures : MeasuresLoops height) (s : Stmt)
    (isLoop : s.isLoop = true) : height s = deepest 1 s := by
  refine loop_induction (motive := fun s => height s = deepest 1 s) ?_ s isLoop
  intro s parts made inherited
  rw [measures s parts made, deepest_measures s parts made, List.map_congr_left inherited]

end Heights

section Lookups

theorem loop_holds {s : Stmt} {parts : LoopParts} (made : loopParts? s = some parts)
    (found : (preorders (stmtTrees parts.body)).any isLookup = true) :
    s.tree.preorder.any isLookup = true := by
  rw [loop_tree made, Tree.preorder, preorders_append, preorders_append]
  simp [found]

-- What is in the body of a loop is in that loop.
mutual
theorem lookup_in_eq : ∀ body : List Stmt,
    lookupIn body = (preorders (stmtTrees body)).any isLookup
  | [] => rfl
  | s :: rest => by
    have inside := lookup_in_loop s
    rw [lookupIn, lookup_in_eq rest, stmtTrees, preorders, List.any_append]
    cases found : lookupInLoop s with
    | false => simp
    | true => simp [inside found]

theorem lookup_in_loop : ∀ s : Stmt, lookupInLoop s = true → s.tree.preorder.any isLookup = true
  | .forLoop _ _ _ _ body _, found => loop_holds rfl ((lookup_in_eq body).symm.trans found)
  | .whileLoop _ _ body _, found => loop_holds rfl ((lookup_in_eq body).symm.trans found)
  | .function _ _ _ _ _ _ _, found | .cls _ _ _ _ _ _, found | .ret _ _, found
  | .delete _ _, found | .assign _ _ _, found | .augAssign _ _ _ _, found
  | .annAssign _ _ _ _ _, found | .ifElse _ _ _ _, found | .withBlock _ _ _ _, found
  | .matchOn _ _ _, found | .raise _ _ _, found | .tryBlock _ _ _ _ _ _, found
  | .assert _ _ _, found | .imports _ _, found | .importFrom _ _ _ _, found
  | .global _ _, found | .nonlocal _ _, found | .expr _ _, found | .pass _, found
  | .brk _, found | .cont _, found => by cases found
end

end Lookups

section Reports

def nestedLookups (height : Stmt → Nat) : LoopRule where
  rule := .nestedLookup
  message := "Nested loops with comparisons detected"
  suggestion := "Consider using a dictionary or set for O(1) lookups instead of nested iteration"
  kind s := ∃ parts, loopParts? s = some parts ∧ 3 ≤ height s ∧
    ∃ node ∈ preorders (stmtTrees parts.body), isLookup node = true

theorem follows_nested {height : Stmt → Nat} (measures : MeasuresLoops height) :
    Follows (nestedLookups height) nested where
  sole s := nested_sole
  said s n := by
    rw [nested, Option.bind_eq_some_iff]
    constructor
    · rintro ⟨parts, made, found⟩
      unfold nestedLookup at found
      split at found
      · rename_i both
        cases found
        obtain ⟨deep, looked⟩ := (Bool.and_eq_true _ _).mp both
        have isLoop := (loop_parts_iff s).mpr ⟨parts, made⟩
        rw [nestingDepth, ← deepest_loop made 1, ← measure_unique measures s isLoop] at deep
        rw [lookup_in_eq, List.any_eq_true] at looked
        exact ⟨⟨parts, made, of_decide_eq_true deep, looked⟩, rfl⟩
      · cases found
    · rintro ⟨⟨parts, made, deep, looked⟩, rfl⟩
      have isLoop := (loop_parts_iff s).mpr ⟨parts, made⟩
      have depth : freeDepth < nestingDepth parts.body := by
        rw [nestingDepth, ← deepest_loop made 1, ← measure_unique measures s isLoop]
        exact deep
      refine ⟨parts, made, if_pos ?_⟩
      rw [decide_eq_true depth, lookup_in_eq, List.any_eq_true.mpr looked]
      rfl

/--
There is one measure of loops, and a search from loop to loop finds what is anywhere in a body. In a
module that was read, a loop of height three or more with a lookup in its body has one report if no
comment silences the rule there, and no other statement has one. Where a loop over the indices of a
collection cannot look for it, there are no reports at all: the examination fails.
-/
theorem nested_lookups_reported {names : CharNames} {cs : List Char} {m : Module}
    (read : parse names cs = some m) (settings : Settings) (sheet : Sheet) (outside : Bool) :
    (∃ height, MeasuresLoops height) ∧
    (∀ body, lookupIn body = (preorders (stmtTrees body)).any isLookup) ∧
    ((∃ s, .stmt s ∈ m.tree.preorder ∧ Unwritable s) →
      examine settings sheet outside m .loops = .error .hugeInteger) ∧
    ((¬ ∃ s, .stmt s ∈ m.tree.preorder ∧ Unwritable s) →
      ∃ verdict, examine settings sheet outside m .loops = .ok verdict ∧
        ∀ height, MeasuresLoops height →
          Reports sheet.listing sheet.file m (nestedLookups height) verdict.findings) := by
  refine ⟨⟨deepest 1, deepest_measures⟩, lookup_in_eq, ?_, ?_⟩
  · rintro ⟨s, listed, stuck⟩
    exact loops_examination_fails read settings sheet outside listed stuck
  · intro short
    obtain ⟨verdict, returned, published⟩ := loops_examined read settings sheet outside short
    exact ⟨verdict, returned, fun height measures =>
      loop_rule_reports read sheet.listing sheet.file (follows_nested measures) published⟩

section Instances

def nestedAt (spot : Nat × Nat) : Node → Bool
  | .stmt s => decide (s.span.spot = spot) && (nested s).isSome
  | _ => false

theorem nested_at {spot : Nat × Nat} {node : Node} (holds : nestedAt spot node = true) :
    ∃ s, node = .stmt s ∧ s.span.spot = spot ∧
      ∀ height, MeasuresLoops height → (nestedLookups height).kind s := by
  unfold nestedAt at holds
  split at holds
  · rename_i s
    obtain ⟨there, told⟩ := (Bool.and_eq_true _ _).mp holds
    obtain ⟨n, given⟩ := Option.isSome_iff_exists.mp told
    exact ⟨s, rfl, of_decide_eq_true there, fun height measures =>
      (((follows_nested measures).said s n).mp given).1⟩
  · cases holds

def nestedInBlock : List Char :=
  "for a in b:\n    if c:\n        for d in e:\n            while f:\n                g[a]\n".toList

theorem nested_lookups_reported_block :
    ∃ m verdict f, parse noNames nestedInBlock = some m ∧
      examine {} ⟨"a.py", .ofList []⟩ false m .loops = .ok verdict ∧
      verdict.findings.filter (fun f => f.rule = "L003" ∧ f.spot = (1, 0)) = [f] ∧
      f.message = "Nested loops with comparisons detected" := by
  have spelled : (parse noNames nestedInBlock).any (fun m =>
      m.tree.preorder.any (nestedAt (1, 0)) && (notices m).all (!isError ·)) = true := by
    decide +kernel
  obtain ⟨m, parsed, holds⟩ := (Option.any_eq_true _ _).mp spelled
  obtain ⟨among, quiet⟩ := (Bool.and_eq_true _ _).mp holds
  obtain ⟨node, listed, there⟩ := List.any_eq_true.mp among
  obtain ⟨s, rfl, spot, kind⟩ := nested_at there
  obtain ⟨⟨height, measures⟩, _, _, returns⟩ :=
    nested_lookups_reported parsed {} ⟨"a.py", .ofList []⟩ false
  obtain ⟨verdict, returned, reports⟩ := returns (writable_of_quiet quiet)
  obtain ⟨f, line, alone, _, same⟩ := (reports height measures).told s listed (kind height measures)
    (Listing.no_lines_silence_at s.span _)
  exact ⟨m, verdict, f, parsed, returned, spot ▸ alone, congrArg Finding.Draft.message same⟩

def nestedBesideOverlong : List Char :=
  "for a in b:\n    for c in d:\n        for e in g:\n            h[a]\n".toList ++
    "for i in range(len(j[0x".toList ++ List.replicate 4000 'f' ++ "])):\n    pass\n".toList

set_option maxRecDepth 100000 in
/-- A loop that is high enough and holds a lookup goes unreported, since the examination fails. -/
theorem nested_lookups_unreported :
    ∃ m s, parse noNames nestedBesideOverlong = some m ∧ .stmt s ∈ m.tree.preorder ∧
      (∀ height, MeasuresLoops height → (nestedLookups height).kind s) ∧
      (Listing.ofList []).silencesAt s.span (some "L003") = false ∧
      examine {} ⟨"a.py", .ofList []⟩ false m .loops = .error .hugeInteger := by
  have spelled : (parse noNames nestedBesideOverlong).any (fun m =>
      m.tree.preorder.any (nestedAt (1, 0)) && (notices m).any isError) = true := by
    decide +kernel
  obtain ⟨m, parsed, holds⟩ := (Option.any_eq_true _ _).mp spelled
  obtain ⟨among, failing⟩ := (Bool.and_eq_true _ _).mp holds
  obtain ⟨node, listed, there⟩ := List.any_eq_true.mp among
  obtain ⟨s, rfl, _, kind⟩ := nested_at there
  obtain ⟨n, said, isError⟩ := List.any_eq_true.mp failing
  cases n with
  | ok notice => cases isError
  | error failure =>
    obtain ⟨_, other, inside, stuck⟩ := (notices_error_iff m failure).mp said
    exact ⟨m, s, parsed, listed, kind, Listing.no_lines_silence_at s.span _,
      loops_examination_fails parsed {} _ false inside stuck⟩

end Instances

end Reports

end RefactorAdvice.Rules.Loops
