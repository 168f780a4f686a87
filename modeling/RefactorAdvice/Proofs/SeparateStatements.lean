import Mathlib.Data.List.Basic
import RefactorAdvice.Proofs.Publishing

/-!
Statements of a module are examined apart. A walk through several trees is a walk through each
in turn; the module around all of them is nothing that a family looks for; and the scopes that
a walk carries are as many after a tree as before it, so none outlives a statement. A family
that works on the tree alone therefore has to say of two runs of statements what it has to say
of the first and then what it has to say of the second.
-/

namespace RefactorAdvice

namespace Code

section Forests

theorem stmt_trees_append (first second : List Stmt) :
    stmtTrees (first ++ second) = stmtTrees first ++ stmtTrees second := by
  induction first with
  | nil => simp only [List.nil_append, stmtTrees]
  | cons s rest ih => simp only [List.cons_append, stmtTrees, ih]

theorem preorders_append (first second : List Tree) :
    preorders (first ++ second) = preorders first ++ preorders second := by
  induction first with
  | nil => simp only [List.nil_append, preorders]
  | cons t rest ih => simp only [List.cons_append, preorders, ih, List.append_assoc]

theorem branch_places_append (around : List Node) (first second : List Tree) :
    branchPlaces around (first ++ second) =
      branchPlaces around first ++ branchPlaces around second := by
  induction first with
  | nil => simp only [List.nil_append, branchPlaces]
  | cons t rest ih => simp only [List.cons_append, branchPlaces, ih, List.append_assoc]

theorem branch_visits_append (around : List Node) (first second : List Tree) :
    branchVisits around (first ++ second) =
      branchVisits around first ++ branchVisits around second := by
  induction first with
  | nil => simp only [List.nil_append, branchVisits]
  | cons t rest ih => simp only [List.cons_append, branchVisits, ih, List.append_assoc]

end Forests

section Surroundings

def placeWithin (outer : List Node) (place : List Node × Node) : List Node × Node :=
  (place.1 ++ outer, place.2)

def Visit.within (outer : List Node) : Visit → Visit
  | .enter around node => .enter (around ++ outer) node
  | .leave around node => .leave (around ++ outer) node

-- Both inductions are on the tree: the branches of a node have one more node around them, and
-- it is put before what is around, so what is further out stays at the end.
mutual
theorem places_within (around outer : List Node) :
    ∀ t : Tree, t.places (around ++ outer) = (t.places around).map (placeWithin outer)
  | .node root branches => by
    have below := branch_places_within (root :: around) outer branches
    rw [List.cons_append] at below
    simp only [Tree.places, below, List.map_cons, placeWithin]

theorem branch_places_within (around outer : List Node) :
    ∀ ts : List Tree,
      branchPlaces (around ++ outer) ts = (branchPlaces around ts).map (placeWithin outer)
  | [] => by simp only [branchPlaces, List.map_nil]
  | t :: rest => by
    simp only [branchPlaces, places_within around outer t, branch_places_within around outer rest,
      List.map_append]
end

mutual
theorem visits_within (around outer : List Node) :
    ∀ t : Tree, t.visits (around ++ outer) = (t.visits around).map (Visit.within outer)
  | .node root branches => by
    have below := branch_visits_within (root :: around) outer branches
    rw [List.cons_append] at below
    simp only [Tree.visits, below, List.map_append, List.map_cons, List.map_nil, Visit.within]

theorem branch_visits_within (around outer : List Node) :
    ∀ ts : List Tree,
      branchVisits (around ++ outer) ts = (branchVisits around ts).map (Visit.within outer)
  | [] => by simp only [branchVisits, List.map_nil]
  | t :: rest => by
    simp only [branchVisits, visits_within around outer t, branch_visits_within around outer rest,
      List.map_append]
end

end Surroundings

end Code

namespace Rules

open Code

namespace Performance

section Scopes

theorem enter_length (scopes : Scopes) (around : List Node) (node : Node) :
    (scopes.step (.enter around node)).length =
      scopes.length + if node.isFunction then 1 else 0 := by
  cases node with
  | stmt s =>
    cases s with
    | assign span targets value =>
      cases value with
      | constant place value =>
        cases scopes with
        | nil => rfl
        | cons names rest =>
          simp only [Scopes.step]
          split <;> rfl
      | _ => rfl
    | _ => rfl
  | _ => rfl

theorem leave_length (scopes : Scopes) (around : List Node) (node : Node) :
    (scopes.step (.leave around node)).length =
      scopes.length - if node.isFunction then 1 else 0 := by
  cases node with
  | stmt s =>
    cases s with
    | function => exact List.length_tail
    | _ => rfl
  | _ => rfl

-- A function's scope is opened before its parts are walked through and closed after them.
mutual
theorem visits_length (around : List Node) :
    ∀ (t : Tree) (scopes : Scopes),
      ((t.visits around).foldl Scopes.step scopes).length = scopes.length
  | .node root branches, scopes => by
    simp only [Tree.visits, List.foldl_append, List.foldl_cons, List.foldl_nil, leave_length,
      branch_visits_length (root :: around) branches, enter_length]
    omega

theorem branch_visits_length (around : List Node) :
    ∀ (ts : List Tree) (scopes : Scopes),
      ((branchVisits around ts).foldl Scopes.step scopes).length = scopes.length
  | [], scopes => by simp only [branchVisits, List.foldl_nil]
  | t :: rest, scopes => by
    simp only [branchVisits, List.foldl_append, branch_visits_length around rest,
      visits_length around t]
end

end Scopes

section Walk
variable (limits : Settings.Performance) (silent : Span → Rule → Bool)

theorem walk_append (scopes : Scopes) (first second : List Visit) :
    walk limits silent scopes (first ++ second) =
      walk limits silent scopes first ++
        walk limits silent (first.foldl Scopes.step scopes) second := by
  induction first generalizing scopes with
  | nil => rfl
  | cons visit rest ih =>
    simp only [List.cons_append, walk, ih, List.foldl_cons, List.append_assoc]

theorem list_growth_within (around : List Node) (m : Module) (node : Node) :
    listGrowth (around ++ [.module m]) node = listGrowth around node := by
  have alike : (around ++ [Node.module m]).any Node.isLoop = around.any Node.isLoop := by
    rw [List.any_append]
    exact Bool.or_false _
  unfold listGrowth
  rw [alike]

theorem len_comparison_within (around : List Node) (m : Module) (e : Expr) :
    lenComparison (around ++ [.module m]) e = lenComparison around e := by
  unfold lenComparison
  cases around with
  | nil => rfl
  | cons nearest rest =>
    cases nearest with
    | expr outer => cases outer <;> rfl
    | _ => rfl

theorem step_within (scopes : Scopes) (outer : List Node) (visit : Visit) :
    scopes.step (visit.within outer) = scopes.step visit := by
  cases visit with
  | enter around node =>
    cases node with
    | stmt s =>
      cases s with
      | assign span targets value => cases value <;> rfl
      | _ => rfl
    | _ => rfl
  | leave around node =>
    cases node with
    | stmt s => cases s <;> rfl
    | _ => rfl

theorem check_within (scopes : Scopes) (m : Module) (visit : Visit) :
    check limits silent scopes (visit.within [.module m]) = check limits silent scopes visit := by
  cases visit with
  | enter around node =>
    cases node with
    | stmt s =>
      cases s with
      | augAssign => simp only [Visit.within, check, list_growth_within]
      | _ => rfl
    | expr e =>
      cases e with
      | call => simp only [Visit.within, check, len_comparison_within]
      | _ => rfl
    | _ => rfl
  | leave around node => rfl

theorem walk_within (scopes : Scopes) (m : Module) (visits : List Visit) :
    walk limits silent scopes (visits.map (Visit.within [.module m])) =
      walk limits silent scopes visits := by
  induction visits generalizing scopes with
  | nil => rfl
  | cons visit rest ih => simp only [List.map_cons, walk, check_within, step_within, ih]

theorem notices_eq (m : Module) :
    notices limits silent m = walk limits silent [] (branchVisits [] (stmtTrees m.body)) := by
  have entered : check limits silent [] (.enter [] (.module m)) = [] := rfl
  have opened : Scopes.step [] (.enter [] (.module m)) = [] := rfl
  have left : ∀ scopes, check limits silent scopes (.leave [] (.module m)) = [] := fun _ => rfl
  have inside := branch_visits_within [] [.module m] (stmtTrees m.body)
  rw [List.nil_append] at inside
  simp only [notices, Module.tree, Tree.visits, inside, walk_append, List.cons_append, walk,
    entered, opened, left, walk_within, List.nil_append, List.append_nil]

theorem notices_append (first second : List Stmt) :
    notices limits silent ⟨first ++ second⟩ =
      notices limits silent ⟨first⟩ ++ notices limits silent ⟨second⟩ := by
  have closed : (branchVisits [] (stmtTrees first)).foldl Scopes.step [] = [] :=
    List.length_eq_zero_iff.mp (branch_visits_length [] (stmtTrees first) [])
  simp only [notices_eq, stmt_trees_append, branch_visits_append, walk_append, closed]

end Walk

end Performance

section Families

-- What is said node by node, whatever stands around.
theorem preorder_append {α : Type} (said : Node → List α) (skips : ∀ m, said (.module m) = [])
    (first second : List Stmt) :
    (Module.tree ⟨first ++ second⟩).preorder.flatMap said =
      (Module.tree ⟨first⟩).preorder.flatMap said ++
        (Module.tree ⟨second⟩).preorder.flatMap said := by
  simp only [Module.tree, Tree.preorder, List.flatMap_cons, skips, List.nil_append,
    stmt_trees_append, preorders_append, List.flatMap_append]

-- What is said of a node by the nodes around it, where a module around makes no difference.
theorem places_append {α : Type} (said : List Node × Node → Option α)
    (skips : ∀ m, said ([], .module m) = none)
    (blind : ∀ m place, said (placeWithin [.module m] place) = said place)
    (first second : List Stmt) :
    ((Module.tree ⟨first ++ second⟩).places []).filterMap said =
      ((Module.tree ⟨first⟩).places []).filterMap said ++
        ((Module.tree ⟨second⟩).places []).filterMap said := by
  have apart : ∀ m : Module, (m.tree.places []).filterMap said =
      (branchPlaces [] (stmtTrees m.body)).filterMap said := by
    intro m
    have inside := branch_places_within [] [.module m] (stmtTrees m.body)
    have unmoved : said ∘ placeWithin [.module m] = said := funext (blind m)
    rw [List.nil_append] at inside
    rw [Module.tree, Tree.places, List.filterMap_cons_none (skips m), inside, List.filterMap_map,
      unmoved]
  simp only [apart, stmt_trees_append, branch_places_append, List.filterMap_append]

theorem inside_function_within (outside : Bool) (around : List Node) (m : Module) :
    BooleanLogic.insideFunction outside (around ++ [.module m]) =
      BooleanLogic.insideFunction outside around := by
  simp only [BooleanLogic.insideFunction, List.any_append]
  exact congrArg (outside || ·) (Bool.or_false _)

-- The walk outwards stops at a function, before it comes to the module, or sees a module last.
theorem sheltered_within (around : List Node) (m : Module) :
    ContextManager.sheltered (around ++ [.module m]) = ContextManager.sheltered around := by
  induction around with
  | nil => rfl
  | cons nearest rest ih =>
    simp only [ContextManager.sheltered, List.cons_append, List.takeWhile_cons] at ih ⊢
    cases nearest.isFunction with
    | true => rfl
    | false => simp only [Bool.not_false, ↓reduceIte, List.any_cons, ih]

theorem notices_append (settings : Settings) (listing : Listing) (outside : Bool)
    (first second : List Stmt) (family : Family) :
    notices settings listing outside ⟨first ++ second⟩ family =
      notices settings listing outside ⟨first⟩ family ++
        notices settings listing outside ⟨second⟩ family := by
  cases family with
  | complexity =>
    unfold notices Complexity.notices
    exact preorder_append _ (fun _ => rfl) first second
  | performance => exact Performance.notices_append _ _ first second
  | booleanLogic =>
    simp only [notices, BooleanLogic.notices, BooleanLogic.placedNotices, List.map_filterMap]
    refine places_append _ (fun _ => rfl) ?_ first second
    rintro m ⟨around, node⟩
    simp only [placeWithin, inside_function_within, Option.map_map, Function.comp_def]
  | loops => exact preorder_append _ (fun _ => rfl) first second
  | duplication => rfl
  | contextManager =>
    unfold notices ContextManager.notices
    refine places_append _ (fun _ => rfl) ?_ first second
    rintro m ⟨around, node⟩
    simp only [placeWithin, ContextManager.check, sheltered_within]
  | controlFlow =>
    simp only [notices, ControlFlow.notices, List.filterMap_eq_flatMap_toList]
    exact preorder_append _ (fun _ => rfl) first second
  | dictOperations => exact preorder_append _ (fun _ => rfl) first second
  | comparisons => exact preorder_append _ (fun _ => rfl) first second

/--
No family that works on the tree alone carries anything from one statement of a module to the
next: it says of two runs of statements what it says of the first, then what it says of the
second, and fails where one of the two fails, with the failure of the first that does.
-/
theorem examine_append (settings : Settings) (sheet : Sheet) (outside : Bool)
    (first second : List Stmt) (family : Family) (onTree : family ≠ .duplication) :
    examine settings sheet outside ⟨first ++ second⟩ family = do
      let before ← examine settings sheet outside ⟨first⟩ family
      let after ← examine settings sheet outside ⟨second⟩ family
      return ⟨before.findings ++ after.findings, before.warnings ++ after.warnings⟩ := by
  simp only [examine_eq _ _ _ _ family onTree, notices_append, Listing.publish_all_append,
    bind_assoc, pure_bind, List.append_nil]

def growing (line : Nat) (name : String) : Stmt :=
  .forLoop (.known line 0 (line + 1)) false (.name default "part" .store)
    (.name default "parts" .load)
    [.augAssign (.known (line + 1) 4 (line + 1)) (.name default name .store) .add
      (.name default "part" .load)] []

def joining (line : Nat) (name : String) : Stmt :=
  .function (.known line 0 (line + 3)) false "join" ⟨[], [], none, [], [], none, []⟩
    [.assign (.known (line + 1) 4 (line + 1)) [.name default name .store]
      (.constant default (.text [] false)), growing (line + 2) name] [] none

-- The name is a text in the function only, so the loop after it is left alone.
theorem examine_append_joining :
    Family.performance ≠ .duplication ∧
      (examine { performance := { minConcatenations := 1 } } ⟨"a.py", .ofList []⟩ false
        ⟨[joining 1 "total"] ++ [growing 5 "total", growing 7 "items"]⟩
        .performance).toOption.map (·.findings.map fun f => (f.rule, f.line)) =
      some [("P001", 4), ("P002", 8)] := by
  refine ⟨by decide, ?_⟩
  rw [examine_append _ _ _ _ _ .performance (by decide)]
  decide +kernel

end Families

end Rules

end RefactorAdvice
