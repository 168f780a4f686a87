import RefactorAdvice.Proofs.FunctionMeasures
import RefactorAdvice.Proofs.LoopReports
import RefactorAdvice.Proofs.SilencingFilter

/-!
Costly calls that are said not to depend on their loop, reported exactly. A loop watches a few names
only: a `for` loop over a single name that name, a `while` loop the names in its condition. It is
reported if a costly call in its body mentions none of them. That the call can be moved out of the
loop is more than that: it may mention a name that the body sets anew each time.
-/

namespace RefactorAdvice.Rules.Loops

open Code
open Performance (LoopParts loopParts? isError)

section Names

def mentions (e : Expr) : List String := e.tree.preorder.filterMap Node.name?

def stores : Node → List String
  | .stmt (.function _ _ name _ _ _ _) => [name]
  | .stmt (.cls _ name _ _ _ _) => [name]
  | .alias a => [a.asName.getD (String.ofList (a.name.toList.takeWhile (· != '.')))]
  | .pattern (.star _ name) => name.toList
  | .pattern (.bind _ _ name) => name.toList
  | .pattern (.mapping _ _ _ rest) => rest.toList
  | node => node.boundName?.toList

/-- The names that a loop changes: those that its target binds and all that are stored in its
body. -/
def changes : Stmt → List String
  | .forLoop _ _ target _ body _ =>
    target.storedNames ++ (preorders (stmtTrees body)).flatMap stores
  | .whileLoop _ _ body _ => (preorders (stmtTrees body)).flatMap stores
  | _ => []

end Names

section Calls

def costly? : Node → Option Expr
  | .expr e@(.call _ (.attribute _ _ attr _) _ _) => if attr ∈ costlyMethods then some e else none
  | _ => none

def costlyCalls (body : List Stmt) : List Expr := (preorders (stmtTrees body)).filterMap costly?

def HasCallWithout (names : List String) (body : List Stmt) : Prop :=
  ∃ call ∈ costlyCalls body, ∀ name ∈ names, name ∉ mentions call

instance (names : List String) (body : List Stmt) : Decidable (HasCallWithout names body) :=
  inferInstanceAs (Decidable (∃ call ∈ costlyCalls body, ∀ name ∈ names, name ∉ mentions call))

/-- Where every one of the other names that a costly call mentions is among the names, a call
without the names is one without the others. -/
theorem HasCallWithout.mono {names others : List String} {body : List Stmt}
    (covered : ∀ call ∈ costlyCalls body, ∀ name ∈ mentions call, name ∈ others → name ∈ names)
    (free : HasCallWithout names body) : HasCallWithout others body := by
  obtain ⟨call, inside, free⟩ := free
  exact ⟨call, inside, fun name other mentioned =>
    free name (covered call inside name mentioned other) mentioned⟩

theorem mentions_free_iff (names : List String) (e : Expr) :
    (e.tree.preorder.all fun node => node.name?.all fun id => !names.contains id) = true ↔
      ∀ name ∈ names, name ∉ mentions e := by
  simp only [mentions, List.all_eq_true, Option.all_eq_true, List.mem_filterMap]
  grind

theorem invariant_call_iff (names : List String) (node : Node) :
    isInvariantCall names node = true ↔
      ∃ call, costly? node = some call ∧ ∀ name ∈ names, name ∉ mentions call := by
  constructor
  · intro held
    unfold isInvariantCall at held
    split at held
    · obtain ⟨listed, free⟩ := (Bool.and_eq_true _ _).mp held
      exact ⟨_, if_pos (List.contains_iff_mem.mp listed), (mentions_free_iff names _).mp free⟩
    · cases held
  · rintro ⟨call, costly, free⟩
    unfold costly? at costly
    split at costly
    · split at costly
      · rename_i listed
        cases costly
        exact (Bool.and_eq_true _ _).mpr
          ⟨List.contains_iff_mem.mpr listed, (mentions_free_iff names _).mpr free⟩
      · cases costly
    · cases costly

theorem any_invariant_call_iff (names : List String) (body : List Stmt) :
    (preorders (stmtTrees body)).any (isInvariantCall names) = true ↔
      HasCallWithout names body := by
  simp only [List.any_eq_true, invariant_call_iff, HasCallWithout, costlyCalls, List.mem_filterMap]
  grind

end Calls

section Reports

def unmovedCalls : LoopRule where
  rule := .loopInvariant
  message := "Loop-invariant code detected inside loop"
  suggestion := "Move computations that don't depend on loop variable outside the loop"
  kind s := ∃ parts names, loopParts? s = some parts ∧ watched? s = some names ∧
    HasCallWithout names parts.body

theorem follows_unmoved : Follows unmovedCalls unmoved where
  sole s := unmoved_sole
  said s n := by
    rw [unmoved, Option.bind_eq_some_iff]
    constructor
    · rintro ⟨parts, made, found⟩
      obtain ⟨names, watched, found⟩ := Option.bind_eq_some_iff.mp found
      unfold invariant at found
      split at found
      · rename_i free
        cases found
        exact ⟨⟨parts, names, made, watched, (any_invariant_call_iff names _).mp free⟩, rfl⟩
      · cases found
    · rintro ⟨⟨parts, names, made, watched, free⟩, rfl⟩
      refine ⟨parts, made, Option.bind_eq_some_iff.mpr ⟨names, watched, if_pos ?_⟩⟩
      exact (any_invariant_call_iff names _).mpr free

/-- A loop with a costly call in its body that mentions nothing that the loop changes. -/
def Movable (s : Stmt) : Prop :=
  ∃ parts, loopParts? s = some parts ∧ HasCallWithout (changes s) parts.body

instance (s : Stmt) : Decidable (Movable s) :=
  decidable_of_iff ((loopParts? s).any fun parts => decide (HasCallWithout (changes s) parts.body))
    (by simp [Movable, Option.any_eq_true])

theorem movable_iff {s : Stmt} {parts : LoopParts} (made : loopParts? s = some parts) :
    Movable s ↔ HasCallWithout (changes s) parts.body := by
  simp [Movable, made]

theorem unmoved_kind_iff {s : Stmt} {parts : LoopParts} {names : List String}
    (made : loopParts? s = some parts) (watched : watched? s = some names) :
    unmovedCalls.kind s ↔ HasCallWithout names parts.body := by
  simp [unmovedCalls, made, watched]

/--
In a module that was read, a loop has one report if a costly call in its body mentions none of the
names that the loop watches and no comment silences the rule there, and no other statement has one;
where a loop over the indices of a collection cannot look for it, the examination fails. A loop that
is reported has a call that can be moved if all changed names that its costly calls mention are
watched, and one that has such a call is reported if all watched names that they mention are
changed.
-/
theorem unmoved_calls_reported {names : CharNames} {cs : List Char} {m : Module}
    (read : parse names cs = some m) (settings : Settings) (sheet : Sheet) (outside : Bool) :
    ((∃ s, .stmt s ∈ m.tree.preorder ∧ Unwritable s) →
      examine settings sheet outside m .loops = .error .hugeInteger) ∧
    ((¬ ∃ s, .stmt s ∈ m.tree.preorder ∧ Unwritable s) →
      ∃ verdict, examine settings sheet outside m .loops = .ok verdict ∧
        Reports sheet.listing sheet.file m unmovedCalls verdict.findings) ∧
    ∀ s parts names, loopParts? s = some parts → watched? s = some names →
      ((∀ call ∈ costlyCalls parts.body, ∀ name ∈ mentions call,
        name ∈ changes s → name ∈ names) → unmovedCalls.kind s → Movable s) ∧
      ((∀ call ∈ costlyCalls parts.body, ∀ name ∈ mentions call,
        name ∈ names → name ∈ changes s) → Movable s → unmovedCalls.kind s) := by
  refine ⟨?_, ?_, ?_⟩
  · rintro ⟨s, listed, stuck⟩
    exact loops_examination_fails read settings sheet outside listed stuck
  · intro short
    obtain ⟨verdict, returned, published⟩ := loops_examined read settings sheet outside short
    exact ⟨verdict, returned,
      loop_rule_reports read sheet.listing sheet.file follows_unmoved published⟩
  · intro s parts names made watched
    rw [unmoved_kind_iff made watched, movable_iff made]
    exact ⟨HasCallWithout.mono, HasCallWithout.mono⟩

section Instances

def unmovedAt (spot : Nat × Nat) (movable : Bool) : Node → Bool
  | .stmt s => decide (s.span.spot = spot) && ((unmoved s).isSome && decide (Movable s) == movable)
  | _ => false

theorem unmoved_at {spot : Nat × Nat} {movable : Bool} {node : Node}
    (holds : unmovedAt spot movable node = true) :
    ∃ s, node = .stmt s ∧ s.span.spot = spot ∧ unmovedCalls.kind s ∧
      decide (Movable s) = movable := by
  unfold unmovedAt at holds
  split at holds
  · rename_i s
    simp only [Bool.and_eq_true, beq_iff_eq, decide_eq_true_eq] at holds
    obtain ⟨there, told, moves⟩ := holds
    obtain ⟨n, given⟩ := Option.isSome_iff_exists.mp told
    exact ⟨s, rfl, there, ((follows_unmoved.said s n).mp given).1, moves⟩
  · cases holds

def compiledInLoop : List Char := "for a in b:\n    c = d.compile(e)\n    c.match(a)\n".toList

theorem unmoved_calls_reported_compiled :
    ∃ m verdict s f, parse noNames compiledInLoop = some m ∧
      examine {} ⟨"a.py", .ofList []⟩ false m .loops = .ok verdict ∧
      .stmt s ∈ m.tree.preorder ∧ Movable s ∧
      verdict.findings.filter (fun f => f.rule = "L004" ∧ f.spot = s.span.spot) = [f] := by
  have spelled : (parse noNames compiledInLoop).any (fun m =>
      m.tree.preorder.any (unmovedAt (1, 0) true) && (notices m).all (!isError ·)) = true := by
    decide +kernel
  obtain ⟨m, parsed, holds⟩ := (Option.any_eq_true _ _).mp spelled
  obtain ⟨among, quiet⟩ := (Bool.and_eq_true _ _).mp holds
  obtain ⟨node, listed, there⟩ := List.any_eq_true.mp among
  obtain ⟨s, rfl, _, kind, moves⟩ := unmoved_at there
  obtain ⟨verdict, returned, reports⟩ :=
    (unmoved_calls_reported parsed {} ⟨"a.py", .ofList []⟩ false).2.1 (writable_of_quiet quiet)
  obtain ⟨f, _, alone, _⟩ := reports.told s listed kind (Listing.no_lines_silence_at s.span _)
  exact ⟨m, verdict, s, f, parsed, returned, listed, of_decide_eq_true moves, alone⟩

def splitInLoop : List Char := "for a in b:\n    c = a\n    d = c.split()\n".toList

/-- A loop is reported of which no costly call can be moved: its body sets a name that the call
mentions. -/
theorem unmovable_call_reported :
    ∃ m verdict s f, parse noNames splitInLoop = some m ∧
      examine {} ⟨"a.py", .ofList []⟩ false m .loops = .ok verdict ∧
      .stmt s ∈ m.tree.preorder ∧ ¬ Movable s ∧
      verdict.findings.filter (fun f => f.rule = "L004" ∧ f.spot = s.span.spot) = [f] := by
  have spelled : (parse noNames splitInLoop).any (fun m =>
      m.tree.preorder.any (unmovedAt (1, 0) false) && (notices m).all (!isError ·)) = true := by
    decide +kernel
  obtain ⟨m, parsed, holds⟩ := (Option.any_eq_true _ _).mp spelled
  obtain ⟨among, quiet⟩ := (Bool.and_eq_true _ _).mp holds
  obtain ⟨node, listed, there⟩ := List.any_eq_true.mp among
  obtain ⟨s, rfl, _, kind, stays⟩ := unmoved_at there
  obtain ⟨verdict, returned, published⟩ :=
    loops_examined parsed {} ⟨"a.py", .ofList []⟩ false (writable_of_quiet quiet)
  have reports := loop_rule_reports parsed _ _ follows_unmoved published
  obtain ⟨f, _, alone, _⟩ := reports.told s listed kind (Listing.no_lines_silence_at s.span _)
  exact ⟨m, verdict, s, f, parsed, returned, listed, of_decide_eq_false stays, alone⟩

end Instances

end Reports

end RefactorAdvice.Rules.Loops
