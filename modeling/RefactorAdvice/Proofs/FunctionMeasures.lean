import Mathlib
import RefactorAdvice.Code.Metrics
import RefactorAdvice.Proofs.LoopReach
import RefactorAdvice.Proofs.SeparateStatements

/-!
What the walk through a function measures. The walk keeps one gauge: it collects names, twice where
they stand in a target, counts branches and ways, and raises and lowers a depth. Beside it stands
what the four measures say, each on its own, of the places that are reached from the function
without entering another definition: which names are bound there, two sums over their nodes, and the
most blocks on the way to one of them. A walk over some places adds to the gauge just what those
places count, and leaves the depth as it was.
-/

namespace RefactorAdvice.Code

section Places

/-- Reached without entering a definition, but for the outermost node around, which is the one that
is measured. -/
def isOwn (place : List Node × Node) : Bool :=
  (place.2 :: place.1).dropLast.all fun node => !node.isDefinition

def Tree.ownPlaces (t : Tree) : List (List Node × Node) := (t.places []).filter isOwn

def Tree.ownNodes (t : Tree) : List Node := t.ownPlaces.map Prod.snd

def blocksOn (place : List Node × Node) : Nat := (place.2 :: place.1).countP Node.isBlock

def Node.boundName? : Node → Option String
  | .expr (.name _ id .store) => some id
  | .handler h => h.name
  | _ => none

def Node.branchCount : Node → Nat
  | .stmt (.forLoop ..) | .stmt (.whileLoop ..) | .handler _ => 1
  | .stmt (.ifElse _ _ _ []) | .stmt (.ifElse _ _ _ [.ifElse ..]) => 1
  | .stmt (.ifElse ..) => 2
  | .stmt (.matchOn _ _ cases) => cases.length
  | _ => 0

def Node.wayCount : Node → Int
  | .stmt (.forLoop ..) | .stmt (.whileLoop ..) | .stmt (.ifElse ..) | .stmt (.withBlock ..)
  | .stmt (.tryBlock ..) | .stmt (.assert ..) | .handler _ => 1
  | .stmt (.matchOn _ _ cases) => 1 + cases.length
  | .expr (.boolOp _ _ values) => values.length - 1
  | _ => 0

end Places

section Open

def isOpen (place : List Node × Node) : Bool :=
  (place.2 :: place.1).all fun node => !node.isDefinition

def openPlaces (ts : List Tree) : List (List Node × Node) := (branchPlaces [] ts).filter isOpen

@[simp]
theorem open_places_nil : openPlaces [] = [] := rfl

theorem open_places_append (first second : List Tree) :
    openPlaces (first ++ second) = openPlaces first ++ openPlaces second := by
  rw [openPlaces, branch_places_append, List.filter_append, openPlaces, openPlaces]

theorem is_open_within (root : Node) (place : List Node × Node) :
    isOpen (placeWithin [root] place) = (isOpen place && !root.isDefinition) := by
  simp [isOpen, placeWithin, Bool.and_assoc]

theorem is_own_within (root : Node) (place : List Node × Node) :
    isOwn (placeWithin [root] place) = isOpen place := by
  rw [isOwn, placeWithin, ← List.cons_append, List.dropLast_concat, isOpen]

theorem places_node (root : Node) (branches : List Tree) :
    (Tree.node root branches).places [] =
      ([], root) :: (branchPlaces [] branches).map (placeWithin [root]) := by
  rw [Tree.places, ← branch_places_within [] [root] branches, List.nil_append]

theorem open_places_cons (root : Node) (branches rest : List Tree) :
    openPlaces (.node root branches :: rest) =
      (if root.isDefinition then [] else
        ([], root) :: (openPlaces branches).map (placeWithin [root])) ++ openPlaces rest := by
  rw [openPlaces, branchPlaces, places_node, List.filter_append, openPlaces, openPlaces]
  have within : isOpen ∘ placeWithin [root] = fun place => isOpen place && !root.isDefinition :=
    funext (is_open_within root)
  rw [List.filter_cons, List.filter_map, within]
  cases shut : root.isDefinition with
  | true => simp [isOpen, shut]
  | false =>
    have here : isOpen ([], root) = true := by simp [isOpen, shut]
    simp [here]

theorem own_places_node (root : Node) (branches : List Tree) :
    (Tree.node root branches).ownPlaces =
      ([], root) :: (openPlaces branches).map (placeWithin [root]) := by
  have own : isOwn ∘ placeWithin [root] = isOpen := funext (is_own_within root)
  rw [Tree.ownPlaces, places_node, List.filter_cons_of_pos rfl, List.filter_map, own, openPlaces]

theorem blocks_on_within (root : Node) (place : List Node × Node) :
    blocksOn (placeWithin [root] place) = blocksOn place + if root.isBlock then 1 else 0 := by
  rw [blocksOn, placeWithin, ← List.cons_append, List.countP_append, List.countP_singleton,
    blocksOn]

end Open

section Targets

def Binds (ts : List Tree) (id : String) : Prop :=
  ∃ place ∈ openPlaces ts, place.2.boundName? = some id

theorem binds_append (first second : List Tree) (id : String) :
    Binds (first ++ second) id ↔ Binds first id ∨ Binds second id := by
  simp only [Binds, open_places_append, List.mem_append, or_and_right, exists_or]

theorem binds_below {root : Node} {branches : List Tree} {id : String}
    (free : root.isDefinition = false) (below : Binds branches id) :
    Binds [.node root branches] id := by
  obtain ⟨place, inside, bound⟩ := below
  refine ⟨placeWithin [root] place, ?_, bound⟩
  simp only [open_places_cons, free, Bool.false_eq_true, ↓reduceIte, open_places_nil,
    List.append_nil]
  exact List.mem_cons_of_mem _ (List.mem_map_of_mem inside)

theorem binds_root {root : Node} {branches : List Tree} {id : String}
    (free : root.isDefinition = false) (bound : root.boundName? = some id) :
    Binds [.node root branches] id := by
  refine ⟨([], root), ?_, bound⟩
  simp [open_places_cons, free]

-- A target is looked through by its lists, tuples and stars, and each of them is entered.
mutual
theorem stored_bound : ∀ (e : Expr) (id : String), id ∈ e.storedNames → Binds [e.tree] id
  | .name span own usage, id, stored => by
    cases usage with
    | store =>
      rw [Expr.storedNames, List.mem_singleton] at stored
      rw [Expr.tree, stored]
      exact binds_root rfl rfl
    | load => cases stored
    | del => cases stored
  | .tuple span elements usage, id, stored => by
    rw [Expr.tree]
    exact binds_below rfl (all_stored_bound elements id stored)
  | .list span elements usage, id, stored => by
    rw [Expr.tree]
    exact binds_below rfl (all_stored_bound elements id stored)
  | .starred span value usage, id, stored => by
    rw [Expr.tree]
    exact binds_below rfl (stored_bound value id stored)
  | .boolOp .., _, stored | .named .., _, stored | .binary .., _, stored | .unary .., _, stored
  | .lambda .., _, stored | .conditional .., _, stored | .dict .., _, stored | .set .., _, stored
  | .listComp .., _, stored | .setComp .., _, stored | .dictComp .., _, stored
  | .generator .., _, stored | .await .., _, stored | .yield .., _, stored
  | .yieldFrom .., _, stored | .compare .., _, stored | .call .., _, stored
  | .formatted .., _, stored | .joined .., _, stored | .constant .., _, stored
  | .attribute .., _, stored | .subscript .., _, stored | .slice .., _, stored => by
    cases stored

theorem all_stored_bound : ∀ (es : List Expr) (id : String),
    id ∈ storedNamesOf es → Binds (exprTrees es) id
  | [], _, stored => by cases stored
  | e :: rest, id, stored => by
    rw [exprTrees, ← List.singleton_append, binds_append]
    rcases List.mem_append.mp stored with first | later
    · exact Or.inl (stored_bound e id first)
    · exact Or.inr (all_stored_bound rest id later)
end

theorem item_stored_bound (item : WithItem) (id : String) (stored : id ∈ item.storedNames) :
    Binds [item.tree] id := by
  rw [WithItem.tree]
  refine binds_below rfl ?_
  rw [← List.singleton_append, binds_append]
  unfold WithItem.storedNames at stored
  cases given : item.target with
  | none =>
    rw [given] at stored
    cases stored
  | some target =>
    rw [given] at stored
    exact Or.inr (stored_bound target id stored)

theorem items_stored_bound (items : List WithItem) (id : String)
    (stored : id ∈ items.flatMap WithItem.storedNames) : Binds (items.map WithItem.tree) id := by
  induction items with
  | nil => cases stored
  | cons item rest ih =>
    rw [List.map_cons, ← List.singleton_append, binds_append]
    rcases List.mem_append.mp stored with first | later
    · exact Or.inl (item_stored_bound item id first)
    · exact Or.inr (ih later)

def Node.targetNames : Node → List String
  | .stmt (.assign _ targets _) => storedNamesOf targets
  | .stmt (.annAssign _ target ..) => target.storedNames
  | .stmt (.forLoop _ _ target ..) => target.storedNames
  | .stmt (.withBlock _ _ items _) => items.flatMap WithItem.storedNames
  | _ => []

/-- What is collected from a target ahead of the walk is found again in the branches. -/
theorem targets_bound {root : Node} {branches : List Tree} (whole : root.tree = .node root branches)
    (id : String) (named : id ∈ root.targetNames) : Binds branches id := by
  unfold Node.targetNames at named
  split at named
  · cases whole
    exact (binds_append _ _ id).mpr (Or.inl (all_stored_bound _ id named))
  · cases whole
    rw [← List.singleton_append, binds_append]
    exact Or.inl (stored_bound _ id named)
  · cases whole
    rw [← List.singleton_append, List.append_assoc, binds_append]
    exact Or.inl (stored_bound _ id named)
  · cases whole
    exact (binds_append _ _ id).mpr (Or.inl (items_stored_bound _ id named))
  · cases named

end Targets

section Steps

variable (g : Gauge) (node : Node)

theorem mem_insert_all (names kept : List String) (id : String) :
    id ∈ names.foldr List.insert kept ↔ id ∈ names ∨ id ∈ kept := by
  induction names with
  | nil => simp
  | cons name rest ih => simp [ih, or_assoc]

theorem insert_all_nodup (names kept : List String) (single : kept.Nodup) :
    (names.foldr List.insert kept).Nodup := by
  induction names with
  | nil => exact single
  | cons name rest ih => exact ih.insert

theorem else_branch_count (span : Span) (test : Expr) (body orelse : List Stmt) :
    (if orelse.isEmpty || isElif orelse then 1 else 2) =
      (Node.stmt (.ifElse span test body orelse)).branchCount := by
  cases orelse with
  | nil => rfl
  | cons first rest =>
    cases rest with
    | nil => cases first <;> rfl
    | cons second rest => cases first <;> rfl

/-- All that a node adds on arrival. -/
theorem arrive_eq :
    g.arrive node =
      { names := (node.boundName?.toList ++ node.targetNames).foldr List.insert g.names
        branches := g.branches + node.branchCount
        depth := if node.isBlock then g.depth + 1 else g.depth
        deepest := if node.isBlock then max g.deepest (g.depth + 1) else g.deepest
        complexity := g.complexity + node.wayCount } := by
  -- What is neither a block nor a stored name leaves at most the sum of ways to be rearranged.
  have still (n : Node) (ways : n.wayCount = 0) : g.complexity + n.wayCount = g.complexity := by
    rw [ways, Int.add_zero]
  cases node with
  | stmt s =>
    cases s with
    | ifElse span test body orelse =>
      rw [← else_branch_count]
      rfl
    | matchOn span subject cases =>
      simp only [Node.wayCount, ← Int.add_assoc, Int.add_right_comm _ 1]
      rfl
    | forLoop | whileLoop | withBlock | tryBlock | assert => rfl
    | _ => rw [still _ rfl]; rfl
  | expr e =>
    cases e with
    | boolOp span op values => rfl
    | name span id usage => cases usage <;> (rw [still _ rfl]; rfl)
    | _ => rw [still _ rfl]; rfl
  | handler h =>
    obtain ⟨span, type, name, body⟩ := h
    cases name <;> rfl
  | _ => rw [still _ rfl]; rfl

end Steps

section Walks

structure Adds (places : List (List Node × Node)) (g after : Gauge) : Prop where
  names : ∀ id, id ∈ after.names ↔ id ∈ g.names ∨ ∃ place ∈ places, place.2.boundName? = some id
  single : g.names.Nodup → after.names.Nodup
  branches : after.branches = g.branches + (places.map fun place => place.2.branchCount).sum
  complexity : after.complexity = g.complexity + (places.map fun place => place.2.wayCount).sum
  depth : after.depth = g.depth
  deepest : ∀ bound, after.deepest ≤ bound ↔ g.deepest ≤ bound ∧
    ∀ place ∈ places, 0 < blocksOn place → g.depth + blocksOn place ≤ bound

theorem adds_nil (g : Gauge) : Adds [] g g := by
  constructor <;> simp

theorem adds_append {first second : List (List Node × Node)} {g middle after : Gauge}
    (here : Adds first g middle) (there : Adds second middle after) :
    Adds (first ++ second) g after := by
  constructor
  · intro id
    simp only [there.names, here.names, List.mem_append, or_and_right, exists_or, or_assoc]
  · intro single
    exact there.single (here.single single)
  · rw [there.branches, here.branches, List.map_append, List.sum_append, Nat.add_assoc]
  · rw [there.complexity, here.complexity, List.map_append, List.sum_append, Int.add_assoc]
  · rw [there.depth, here.depth]
  · intro bound
    rw [there.deepest, here.deepest, here.depth, List.forall_mem_append, and_assoc]

theorem depart_eq (g : Gauge) (node : Node) :
    g.depart node = { g with depth := if node.isBlock then g.depth - 1 else g.depth } := by
  unfold Gauge.depart
  split <;> rfl

theorem bound_within_iff (root : Node) (below : List (List Node × Node)) (id : String) :
    (∃ place ∈ below.map (placeWithin [root]), place.2.boundName? = some id) ↔
      ∃ place ∈ below, place.2.boundName? = some id := by
  simp only [List.mem_map, exists_exists_and_eq_and, placeWithin]

/-- In a block a place without blocks of its own is as deep as the block. -/
theorem block_bound_iff (below : List (List Node × Node)) (depth bound : Nat) :
    (depth + 1 ≤ bound ∧
        ∀ place ∈ below, 0 < blocksOn place → depth + 1 + blocksOn place ≤ bound) ↔
      depth + 1 ≤ bound ∧ ∀ place ∈ below, depth + (blocksOn place + 1) ≤ bound := by
  apply and_congr_right
  intro here
  constructor
  · intro deeper place inside
    rcases Nat.eq_zero_or_pos (blocksOn place) with none | some
    · omega
    · have := deeper place inside some
      omega
  · intro deeper place inside _
    have := deeper place inside
    omega

-- The names that were collected from the targets of the node come again below it, and the level
-- that it opened is closed behind it.
theorem adds_node {root : Node} {below : List (List Node × Node)} {g inside : Gauge}
    (targets : ∀ id ∈ root.targetNames, ∃ place ∈ below, place.2.boundName? = some id)
    (walked : Adds below (g.arrive root) inside) :
    Adds (([], root) :: below.map (placeWithin [root])) g (inside.depart root) := by
  have level : (g.arrive root).depth = g.depth + if root.isBlock then 1 else 0 := by
    rw [arrive_eq]
    split <;> rfl
  rw [depart_eq]
  constructor
  · intro id
    have again := targets id
    rw [walked.names, arrive_eq, mem_insert_all, List.exists_mem_cons_iff, bound_within_iff,
      List.mem_append, Option.mem_toList]
    tauto
  · intro single
    apply walked.single
    rw [arrive_eq]
    exact insert_all_nodup _ _ single
  · rw [walked.branches, arrive_eq, List.map_cons, List.map_map, List.sum_cons, Nat.add_assoc]
    rfl
  · rw [walked.complexity, arrive_eq, List.map_cons, List.map_map, List.sum_cons, Int.add_assoc]
    rfl
  · dsimp only
    rw [walked.depth, level]
    split <;> omega
  · intro bound
    have bare : blocksOn ([], root) = if root.isBlock then 1 else 0 := List.countP_singleton
    rw [walked.deepest, level, List.forall_mem_cons, List.forall_mem_map, bare, arrive_eq]
    simp only [blocks_on_within]
    cases root.isBlock with
    | false => simp
    | true =>
      simp only [↓reduceIte, Nat.max_le, Nat.lt_add_one, Nat.zero_lt_succ, forall_const, and_assoc,
        block_bound_iff]

-- By recursion on the tree. What a node says of its targets can be found below it because the tree
-- has under each node what the node says.
mutual
theorem gauge_adds : ∀ t : Tree, t.Sound → ∀ g, Adds (openPlaces [t]) g (t.gauge g)
  | .node root branches, .node _ _ whole parts, g => by
    rw [Tree.gauge, open_places_cons, open_places_nil, List.append_nil]
    cases root.isDefinition with
    | true => exact adds_nil g
    | false => exact adds_node (targets_bound whole) (gauges_add branches parts (g.arrive root))

theorem gauges_add : ∀ ts : List Tree, (∀ t ∈ ts, t.Sound) → ∀ g,
    Adds (openPlaces ts) g (gauges ts g)
  | [], _, g => adds_nil g
  | t :: rest, sound, g => by
    obtain ⟨first, later⟩ := List.forall_mem_cons.mp sound
    rw [gauges, ← List.singleton_append, open_places_append]
    exact adds_append (gauge_adds t first g) (gauges_add rest later (t.gauge g))
end

end Walks

section Measures

theorem sound_parts {t : Tree} (sound : t.Sound) : ∀ branch ∈ t.branches, branch.Sound := by
  cases sound with
  | node root branches whole parts => exact parts

theorem bound_name_iff (node : Node) (id : String) :
    node.boundName? = some id ↔
      (∃ span, node = .expr (.name span id .store)) ∨
        ∃ h, node = .handler h ∧ h.name = some id := by
  constructor
  · intro bound
    unfold Node.boundName? at bound
    split at bound
    · cases bound
      exact Or.inl ⟨_, rfl⟩
    · exact Or.inr ⟨_, rfl, bound⟩
    · cases bound
  · rintro (⟨span, rfl⟩ | ⟨h, rfl, bound⟩)
    · rfl
    · exact bound

theorem bound_among_iff (places : List (List Node × Node)) (id : String) :
    (∃ place ∈ places, place.2.boundName? = some id) ↔
      (∃ span, .expr (.name span id .store) ∈ places.map Prod.snd) ∨
        ∃ h, .handler h ∈ places.map Prod.snd ∧ h.name = some id := by
  simp only [bound_name_iff, List.mem_map]
  constructor
  · rintro ⟨place, inside, ⟨span, here⟩ | ⟨h, here, bound⟩⟩
    · exact Or.inl ⟨span, place, inside, here⟩
    · exact Or.inr ⟨h, ⟨place, inside, here⟩, bound⟩
  · rintro (⟨span, place, inside, here⟩ | ⟨h, ⟨place, inside, here⟩, bound⟩)
    · exact ⟨place, inside, Or.inl ⟨span, here⟩⟩
    · exact ⟨place, inside, Or.inr ⟨h, here, bound⟩⟩

theorem most_blocks_met {places : List (List Node × Node)} (some_ : places ≠ []) {most : Nat}
    (least : ∀ bound, most ≤ bound ↔ ∀ place ∈ places, blocksOn place ≤ bound) :
    ∃ place ∈ places, blocksOn place = most := by
  have within := (least most).mp (Nat.le_refl most)
  cases most with
  | zero =>
    obtain ⟨place, inside⟩ := List.exists_mem_of_ne_nil places some_
    exact ⟨place, inside, Nat.le_zero.mp (within place inside)⟩
  | succ fewer =>
    have beyond : ¬ ∀ place ∈ places, blocksOn place ≤ fewer :=
      fun all => Nat.not_succ_le_self fewer ((least fewer).mpr all)
    push Not at beyond
    obtain ⟨place, inside, more⟩ := beyond
    exact ⟨place, inside, Nat.le_antisymm (within place inside) more⟩

/-- What a walk has measured that began with an empty gauge. -/
theorem metrics_of_adds {places : List (List Node × Node)} {after : Gauge}
    (added : Adds places {} after) (some_ : places ≠ []) :
    after.metrics.localNames.Nodup ∧
      (∀ id, id ∈ after.metrics.localNames ↔ ∃ place ∈ places, place.2.boundName? = some id) ∧
      after.metrics.branches = ((places.map Prod.snd).map Node.branchCount).sum ∧
      after.metrics.complexity = 1 + ((places.map Prod.snd).map Node.wayCount).sum ∧
      (∃ place ∈ places, blocksOn place = after.metrics.nesting) ∧
      ∀ place ∈ places, blocksOn place ≤ after.metrics.nesting := by
  have least : ∀ bound, after.deepest ≤ bound ↔ ∀ place ∈ places, blocksOn place ≤ bound := by
    intro bound
    rw [added.deepest]
    simp only [Nat.zero_le, true_and, Nat.zero_add]
    constructor
    · intro counted place inside
      rcases Nat.eq_zero_or_pos (blocksOn place) with none | some
      · omega
      · exact counted place inside some
    · exact fun counted place inside _ => counted place inside
  simp only [Gauge.metrics, List.map_map]
  refine ⟨added.single List.nodup_nil, fun id => ?_, ?_, added.complexity,
    most_blocks_met some_ least, (least _).mp (Nat.le_refl _)⟩
  · simp [added.names]
  · rw [added.branches, Nat.zero_add]
    rfl

/-- The function itself adds nothing, so the walk below it accounts for all its places. -/
theorem function_adds (span : Span) (isAsync : Bool) (name : String) (params : Parameters Expr)
    (body : List Stmt) (decorators : List Expr) (returns : Option Expr) :
    let f := Stmt.function span isAsync name params body decorators returns
    Adds f.tree.ownPlaces {} (gauges f.tree.branches {}) := by
  intro f
  have shape : f.tree = .node (.stmt f) f.tree.branches := rfl
  have walked := gauges_add f.tree.branches (sound_parts (stmt_sound f)) {}
  rw [shape, own_places_node]
  exact adds_node (fun _ named => by cases named) walked

/--
The measures of a function speak of the places that are reached in it without entering another
definition. Its local names are, each once, the stored names and the names of exception handlers
there. Its branches and its ways are sums over the nodes there, to which each kind of node adds its
share, and its nesting is the most blocks on the way to one of them.
-/
theorem metrics_of_own_places (span : Span) (isAsync : Bool) (name : String)
    (params : Parameters Expr) (body : List Stmt) (decorators : List Expr)
    (returns : Option Expr) :
    let f := Stmt.function span isAsync name params body decorators returns
    let nodes := f.tree.ownNodes
    f.tree.metrics.localNames.Nodup ∧
      (∀ id, id ∈ f.tree.metrics.localNames ↔
        (∃ at_, .expr (.name at_ id .store) ∈ nodes) ∨ ∃ h, .handler h ∈ nodes ∧ h.name = some id) ∧
      f.tree.metrics.branches = (nodes.map Node.branchCount).sum ∧
      f.tree.metrics.complexity = 1 + (nodes.map Node.wayCount).sum ∧
      (∃ place ∈ f.tree.ownPlaces, blocksOn place = f.tree.metrics.nesting) ∧
      ∀ place ∈ f.tree.ownPlaces, blocksOn place ≤ f.tree.metrics.nesting := by
  intro f nodes
  have added := function_adds span isAsync name params body decorators returns
  have some_ : f.tree.ownPlaces ≠ [] := by
    rw [show f.tree = .node (.stmt f) f.tree.branches from rfl, own_places_node]
    exact List.cons_ne_nil _ _
  obtain ⟨single, names, measured⟩ := metrics_of_adds added some_
  refine ⟨single, fun id => ?_, measured⟩
  exact (names id).trans (bound_among_iff f.tree.ownPlaces id)

end Measures

end RefactorAdvice.Code
