import RefactorAdvice.Code.Tree

/-!
Nodes of a tree by their addresses. An address says which branch to take at each node from the root
on, so two nodes that look alike are still told apart. A walk comes to the nodes in the order of
their addresses, a node before what is in it.
-/

namespace RefactorAdvice.Code

section Addresses

/-- What stands at an address. -/
def Tree.sub? (t : Tree) : List Nat → Option Tree
  | [] => some t
  | i :: rest => t.branches[i]?.bind (·.sub? rest)

def Tree.node? (t : Tree) (place : List Nat) : Option Node := (t.sub? place).map Tree.root

variable {root : Node} {branches : List Tree} {stop : Node → Bool}

@[simp]
theorem node_nil : (Tree.node root branches).node? [] = some root := rfl

theorem node_cons_iff (i : Nat) (rest : List Nat) (node : Node) :
    (Tree.node root branches).node? (i :: rest) = some node ↔
      ∃ t, branches[i]? = some t ∧ t.node? rest = some node := by
  simp only [Tree.node?, Tree.sub?, Tree.branches, Option.map_eq_some_iff, Option.bind_eq_some_iff]
  grind

theorem node_member {t : Tree} {i : Nat} (there : branches[i]? = some t) (rest : List Nat) :
    (Tree.node root branches).node? (i :: rest) = t.node? rest := by
  simp [Tree.node?, Tree.sub?, Tree.branches, there]

theorem sub_append (t : Tree) (outer inner : List Nat) :
    t.sub? (outer ++ inner) = (t.sub? outer).bind (·.sub? inner) := by
  induction outer generalizing t with
  | nil => rfl
  | cons i rest ih =>
    rw [List.cons_append, Tree.sub?, Tree.sub?]
    cases t.branches[i]? with
    | none => rfl
    | some branch => exact ih branch

theorem node_append {t part : Tree} {outer : List Nat} (there : t.sub? outer = some part)
    (inner : List Nat) : t.node? (outer ++ inner) = part.node? inner := by
  rw [Tree.node?, sub_append, there]
  rfl

end Addresses

section Scopes

variable {root : Node} {branches : List Tree} (stop : Node → Bool)

def Tree.Clear (t : Tree) (place : List Nat) : Prop :=
  ∀ outer, outer <+: place → ∀ node, t.node? outer = some node → stop node = false

theorem clear_nil : (Tree.node root branches).Clear stop [] ↔ stop root = false := by
  simp [Tree.Clear]

theorem clear_cons (i : Nat) (rest : List Nat) :
    (Tree.node root branches).Clear stop (i :: rest) ↔
      stop root = false ∧ ∀ t, branches[i]? = some t → t.Clear stop rest := by
  constructor
  · intro clear
    refine ⟨clear [] (List.nil_prefix) root rfl, fun t there outer before node found => ?_⟩
    exact clear (i :: outer) ((List.prefix_cons_inj i).mpr before) node
      ((node_member there outer).trans found)
  · rintro ⟨here, below⟩ outer before node found
    cases outer with
    | nil =>
      cases found
      exact here
    | cons j outer =>
      obtain ⟨rfl, inside⟩ := List.cons_prefix_cons.mp before
      obtain ⟨t, there, found⟩ := (node_cons_iff j outer node).mp found
      exact below t there outer inside node found

structure Tree.Innermost (t : Tree) (place outer : List Nat) : Prop where
  around : outer <+: place
  holds : ∃ node, t.node? outer = some node ∧ stop node = true
  nearest : ∀ other, other <+: place → (∃ node, t.node? other = some node ∧ stop node = true) →
    other <+: outer

theorem innermost_nil (outer : List Nat) :
    (Tree.node root branches).Innermost stop [] outer ↔ outer = [] ∧ stop root = true := by
  constructor
  · rintro ⟨around, ⟨node, found, holds⟩, _⟩
    cases List.prefix_nil.mp around
    cases found
    exact ⟨rfl, holds⟩
  · rintro ⟨rfl, holds⟩
    exact ⟨List.prefix_refl [], ⟨root, rfl, holds⟩, fun other inside _ => inside⟩

theorem innermost_cons (i : Nat) (rest outer : List Nat) :
    (Tree.node root branches).Innermost stop (i :: rest) outer ↔
      (∃ t inner, outer = i :: inner ∧ branches[i]? = some t ∧ t.Innermost stop rest inner) ∨
        outer = [] ∧ stop root = true ∧ ∀ t, branches[i]? = some t → t.Clear stop rest := by
  constructor
  · rintro ⟨around, ⟨node, found, holds⟩, nearest⟩
    cases outer with
    | nil =>
      cases found
      refine Or.inr ⟨rfl, holds, fun t there inner before other met => ?_⟩
      -- one further in would be nearer than the root
      cases stops : stop other with
      | false => rfl
      | true =>
        have nearer := nearest (i :: inner) ((List.prefix_cons_inj i).mpr before)
          ⟨other, (node_member there inner).trans met, stops⟩
        cases List.prefix_nil.mp nearer
    | cons j inner =>
      obtain ⟨rfl, before⟩ := List.cons_prefix_cons.mp around
      obtain ⟨t, there, found⟩ := (node_cons_iff j inner node).mp found
      refine Or.inl ⟨t, inner, rfl, there, before, ⟨node, found, holds⟩, ?_⟩
      rintro other inside ⟨one, met, stops⟩
      have nearer := nearest (j :: other) ((List.prefix_cons_inj j).mpr inside)
        ⟨one, (node_member there other).trans met, stops⟩
      exact (List.prefix_cons_inj j).mp nearer
  · rintro (⟨t, inner, rfl, there, before, ⟨node, found, holds⟩, nearest⟩ | ⟨rfl, holds, clear⟩)
    · refine ⟨(List.prefix_cons_inj i).mpr before,
        ⟨node, (node_member there inner).trans found, holds⟩, ?_⟩
      rintro other inside ⟨one, met, stops⟩
      cases other with
      | nil => exact List.nil_prefix
      | cons j other =>
        obtain ⟨rfl, before⟩ := List.cons_prefix_cons.mp inside
        rw [node_member there] at met
        exact (List.prefix_cons_inj j).mpr (nearest other before ⟨one, met, stops⟩)
    · refine ⟨List.nil_prefix, ⟨root, rfl, holds⟩, ?_⟩
      rintro other inside ⟨one, met, stops⟩
      cases other with
      | nil => exact List.nil_prefix
      | cons j other =>
        obtain ⟨rfl, before⟩ := List.cons_prefix_cons.mp inside
        obtain ⟨t, there, met⟩ := (node_cons_iff j other one).mp met
        have free := clear t there other before one met
        cases free.symm.trans stops

end Scopes

section Order

/-- A walk has come to the first address when it leaves the second. -/
def MetBy (place last : List Nat) : Prop := place < last ∨ last <+: place

@[simp]
theorem met_by_nil (place : List Nat) : MetBy place [] := Or.inr List.nil_prefix

@[simp]
theorem nil_met_by (last : List Nat) : MetBy [] last := by
  cases last with
  | nil => exact met_by_nil []
  | cons i rest => exact Or.inl (List.nil_lt_cons i rest)

theorem met_by_cons (i j : Nat) (place last : List Nat) :
    MetBy (i :: place) (j :: last) ↔ i < j ∨ i = j ∧ MetBy place last := by
  simp only [MetBy, List.cons_lt_cons_iff, List.cons_prefix_cons]
  grind

theorem append_lt_append (outer : List Nat) {first second : List Nat} (less : first < second) :
    outer ++ first < outer ++ second := by
  induction outer with
  | nil => exact less
  | cons i rest ih => exact List.cons_lt_cons_iff.mpr (Or.inr ⟨rfl, ih⟩)

end Order

section Listings

def beneath (i : Nat) (found : List (List Nat × Node)) : List (List Nat × Node) :=
  found.map fun (place, node) => (i :: place, node)

theorem mem_beneath_iff (i : Nat) (found : List (List Nat × Node)) (place : List Nat)
    (node : Node) :
    (place, node) ∈ beneath i found ↔ ∃ rest, place = i :: rest ∧ (rest, node) ∈ found := by
  simp only [beneath, List.mem_map, Prod.exists, Prod.mk.injEq]
  grind

theorem beneath_nodes (i : Nat) (found : List (List Nat × Node)) :
    (beneath i found).map Prod.snd = found.map Prod.snd := by
  simp [beneath]

theorem beneath_places (i : Nat) (found : List (List Nat × Node)) :
    (beneath i found).map Prod.fst = (found.map Prod.fst).map (i :: ·) := by
  simp [beneath]

section Reached

variable (stop : Node → Bool)

mutual
def Tree.reached : Tree → List (List Nat × Node)
  | .node root branches => if stop root then [] else ([], root) :: branchReached 0 branches

def branchReached (i : Nat) : List Tree → List (List Nat × Node)
  | [] => []
  | t :: rest => beneath i t.reached ++ branchReached (i + 1) rest
end

mutual
theorem reached_nodes : ∀ t : Tree, (t.reached stop).map Prod.snd = t.reach stop
  | .node root branches => by
    rw [Tree.reached, Tree.reach]
    split
    · rfl
    · rw [List.map_cons, branch_reached_nodes 0 branches]

theorem branch_reached_nodes (i : Nat) : ∀ ts : List Tree,
    (branchReached stop i ts).map Prod.snd = reaches stop ts
  | [] => rfl
  | t :: rest => by
    rw [branchReached, reaches, List.map_append, beneath_nodes, reached_nodes t,
      branch_reached_nodes (i + 1) rest]
end

mutual
theorem mem_reached_iff : ∀ (t : Tree) (place : List Nat) (node : Node),
    (place, node) ∈ t.reached stop ↔ t.node? place = some node ∧ t.Clear stop place
  | .node root branches, place, node => by
    have later := mem_branch_reached_iff 0 branches place node
    rw [Tree.reached]
    cases place with
    | nil =>
      rw [clear_nil, node_nil]
      split
      · grind
      · simp only [List.mem_cons, later]
        grind
    | cons j rest =>
      rw [clear_cons, node_cons_iff]
      split
      · grind
      · simp only [List.mem_cons, later]
        grind

theorem mem_branch_reached_iff (i : Nat) : ∀ (ts : List Tree) (place : List Nat) (node : Node),
    (place, node) ∈ branchReached stop i ts ↔
      ∃ j rest t, place = (i + j) :: rest ∧ ts[j]? = some t ∧ t.node? rest = some node ∧
        t.Clear stop rest
  | [], place, node => by simp [branchReached]
  | t :: ts, place, node => by
    rw [branchReached, List.mem_append, mem_beneath_iff, mem_branch_reached_iff (i + 1) ts]
    constructor
    · rintro (⟨rest, rfl, member⟩ | ⟨j, rest, other, rfl, there, found⟩)
      · exact ⟨0, rest, t, rfl, rfl, (mem_reached_iff t rest node).mp member⟩
      · exact ⟨j + 1, rest, other, by rw [Nat.add_right_comm, Nat.add_assoc], there, found⟩
    · rintro ⟨j, rest, other, rfl, there, found⟩
      cases j with
      | zero =>
        cases there
        exact Or.inl ⟨rest, rfl, (mem_reached_iff t rest node).mpr found⟩
      | succ j => exact Or.inr ⟨j, rest, other, by rw [Nat.add_right_comm, Nat.add_assoc], there,
          found⟩
end

mutual
theorem reached_sorted : ∀ t : Tree, ((t.reached stop).map Prod.fst).Pairwise (· < ·)
  | .node root branches => by
    rw [Tree.reached]
    split
    · exact List.Pairwise.nil
    · refine List.pairwise_cons.mpr ⟨?_, branch_reached_sorted 0 branches⟩
      intro place listed
      obtain ⟨⟨_, node⟩, member, rfl⟩ := List.mem_map.mp listed
      obtain ⟨j, rest, _, rfl, _⟩ := (mem_branch_reached_iff stop 0 branches _ node).mp member
      exact List.nil_lt_cons _ rest

theorem branch_reached_sorted (i : Nat) : ∀ ts : List Tree,
    ((branchReached stop i ts).map Prod.fst).Pairwise (· < ·)
  | [] => List.Pairwise.nil
  | t :: ts => by
    rw [branchReached, List.map_append, beneath_places, List.pairwise_append, List.pairwise_map]
    refine ⟨(reached_sorted t).imp fun less => append_lt_append [i] less,
      branch_reached_sorted (i + 1) ts, ?_⟩
    intro first inFirst second inSecond
    obtain ⟨place, _, rfl⟩ := List.mem_map.mp inFirst
    obtain ⟨⟨_, node⟩, member, rfl⟩ := List.mem_map.mp inSecond
    obtain ⟨j, rest, _, rfl, _⟩ := (mem_branch_reached_iff stop (i + 1) ts _ node).mp member
    exact List.cons_lt_cons_iff.mpr (Or.inl (by omega))
end

end Reached

section Inside

variable (stop : Node → Bool) {t part : Tree} {outer : List Nat}

/-- From one address the other is reached: it is in the node there, and nothing that `stop` holds of
is in between, at either end included. -/
structure Tree.Reaches (t : Tree) (outer place : List Nat) : Prop where
  inside : outer <+: place
  clear : ∀ between, outer <+: between → between <+: place → ∀ node, t.node? between = some node →
    stop node = false

def Tree.reachedFrom (t : Tree) (outer : List Nat) : List (List Nat × Node) :=
  (t.sub? outer).elim [] fun part =>
    (part.reached stop).map fun found => (outer ++ found.1, found.2)

theorem reaches_append_iff (there : t.sub? outer = some part) (rest : List Nat) :
    t.Reaches stop outer (outer ++ rest) ↔ part.Clear stop rest := by
  constructor
  · rintro ⟨_, clear⟩ inner inside node found
    exact clear (outer ++ inner) (List.prefix_append outer inner)
      ((List.prefix_append_right_inj outer).mpr inside) node ((node_append there inner).trans found)
  · intro clear
    refine ⟨List.prefix_append outer rest, ?_⟩
    rintro between ⟨inner, rfl⟩ inside node found
    rw [node_append there] at found
    exact clear inner ((List.prefix_append_right_inj outer).mp inside) node found

theorem mem_reached_from_iff (there : t.sub? outer = some part) (place : List Nat) (node : Node) :
    (place, node) ∈ t.reachedFrom stop outer ↔
      t.node? place = some node ∧ t.Reaches stop outer place := by
  rw [Tree.reachedFrom, there, Option.elim_some, List.mem_map]
  constructor
  · rintro ⟨⟨rest, one⟩, member, same⟩
    cases same
    obtain ⟨found, clear⟩ := (mem_reached_iff stop part rest _).mp member
    exact ⟨(node_append there rest).trans found, (reaches_append_iff stop there rest).mpr clear⟩
  · rintro ⟨found, reaches⟩
    obtain ⟨rest, rfl⟩ := reaches.inside
    refine ⟨(rest, node), (mem_reached_iff stop part rest node).mpr ⟨?_, ?_⟩, rfl⟩
    · exact (node_append there rest).symm.trans found
    · exact (reaches_append_iff stop there rest).mp reaches

theorem reached_from_nodes (there : t.sub? outer = some part) :
    (t.reachedFrom stop outer).map Prod.snd = part.reach stop := by
  rw [Tree.reachedFrom, there, Option.elim_some, List.map_map, ← reached_nodes]
  rfl

theorem reached_from_sorted (t : Tree) (outer : List Nat) :
    ((t.reachedFrom stop outer).map Prod.fst).Pairwise (· < ·) := by
  unfold Tree.reachedFrom
  cases t.sub? outer with
  | none => exact List.Pairwise.nil
  | some part =>
    rw [Option.elim_some, List.map_map, List.pairwise_map]
    have sorted := reached_sorted stop part
    rw [List.pairwise_map] at sorted
    exact sorted.imp fun less => append_lt_append outer less

end Inside

section Departures

mutual
def Tree.departures : Tree → List (List Nat × Node)
  | .node root branches => branchDepartures 0 branches ++ [([], root)]

def branchDepartures (i : Nat) : List Tree → List (List Nat × Node)
  | [] => []
  | t :: rest => beneath i t.departures ++ branchDepartures (i + 1) rest
end

-- What is left was reached, only the order is another.
mutual
theorem departures_perm : ∀ t : Tree, t.departures.Perm (t.reached fun _ => false)
  | .node root branches => by
    rw [Tree.departures, Tree.reached, if_neg Bool.false_ne_true]
    exact (List.perm_append_singleton _ _).trans ((branch_departures_perm 0 branches).cons _)

theorem branch_departures_perm (i : Nat) : ∀ ts : List Tree,
    (branchDepartures i ts).Perm (branchReached (fun _ => false) i ts)
  | [] => List.Perm.refl _
  | t :: rest =>
    ((departures_perm t).map _).append (branch_departures_perm (i + 1) rest)
end

theorem mem_departures_iff (t : Tree) (place : List Nat) (node : Node) :
    (place, node) ∈ t.departures ↔ t.node? place = some node := by
  rw [(departures_perm t).mem_iff, mem_reached_iff]
  exact and_iff_left fun _ _ _ _ => rfl

theorem departures_nodup (t : Tree) : (t.departures.map Prod.fst).Nodup := by
  rw [((departures_perm t).map Prod.fst).nodup_iff]
  refine List.Pairwise.imp (fun {first _} less => ?_) (reached_sorted _ t)
  rintro rfl
  exact List.lt_irrefl first less

mutual
theorem preorder_reached : ∀ t : Tree, t.reach (fun _ => false) = t.preorder
  | .node root branches => by
    rw [Tree.reach, Tree.preorder, if_neg Bool.false_ne_true, preorders_reached branches]

theorem preorders_reached : ∀ ts : List Tree, reaches (fun _ => false) ts = preorders ts
  | [] => rfl
  | t :: rest => by rw [reaches, preorders, preorder_reached t, preorders_reached rest]
end

theorem mem_preorder_iff (t : Tree) (node : Node) :
    node ∈ t.preorder ↔ ∃ place, t.node? place = some node := by
  rw [← preorder_reached, ← reached_nodes]
  simp only [List.mem_map, Prod.exists, exists_eq_right, ← (departures_perm t).mem_iff,
    mem_departures_iff]

end Departures

end Listings

end RefactorAdvice.Code
