import RefactorAdvice.Proofs.Addresses
import RefactorAdvice.Rules.Performance

/-!
Which names stand for texts when a walk leaves a node. The walk keeps the names of each function
around and adds to those of the innermost one. What is in a function has no bearing on the scopes
outside, so when a node is left the innermost scope has the names that were set to a text in the
innermost function around, outside the functions in it, at the nodes that the walk has come to.
-/

namespace RefactorAdvice.Rules.Performance

open Code

section Names

def SetsText (node : Node) (name : String) : Prop :=
  ∃ span targets place value at_ usage,
    node = .stmt (.assign span targets (.constant place value)) ∧
    value.isText = true ∧ Expr.name at_ name usage ∈ targets

def SetAt (t : Tree) (place : List Nat) (name : String) : Prop :=
  ∃ node, t.node? place = some node ∧ SetsText node name

/-- A name is set to a text in the innermost function around an address, and not in a function in
that one, before a walk leaves the node there. -/
def SetBefore (t : Tree) (last : List Nat) (name : String) : Prop :=
  ∃ home place, t.Innermost Node.isFunction last home ∧ t.Innermost Node.isFunction place home ∧
    MetBy place last ∧ SetAt t place name

theorem function_sets_none {node : Node} (function : node.isFunction = true) (name : String) :
    ¬ SetsText node name := by
  rintro ⟨span, targets, place, value, at_, usage, rfl, _⟩
  cases function

end Names

section Steps

def Widens (said : String → Prop) (before after : Scopes) : Prop :=
  match before with
  | [] => after = []
  | names :: rest => ∃ more, after = more :: rest ∧ ∀ name, name ∈ more ↔ name ∈ names ∨ said name

theorem widens_none {said : String → Prop} (nothing : ∀ name, ¬ said name) (s : Scopes) :
    Widens said s s := by
  cases s with
  | nil => rfl
  | cons names rest => exact ⟨names, rfl, fun name => by simp [nothing name]⟩

theorem widens_trans {first second both : String → Prop} {before middle after : Scopes}
    (one : Widens first before middle) (two : Widens second middle after)
    (either : ∀ name, both name ↔ first name ∨ second name) : Widens both before after := by
  cases before with
  | nil =>
    cases one
    exact two
  | cons names rest =>
    obtain ⟨more, rfl, added⟩ := one
    obtain ⟨most, rfl, further⟩ := two
    refine ⟨most, rfl, fun name => ?_⟩
    rw [further, added, either, or_assoc]

def Known (s : Scopes) (name : String) : Prop := ∃ names ∈ s.head?, name ∈ names

theorem is_text_iff (s : Scopes) (name : String) :
    s.isText name = true ↔ sounds textHints name = true ∨ Known s name := by
  rw [Scopes.isText, Bool.or_eq_true, or_comm, Known]
  simp [Option.any_eq_true]

theorem known_widened {said : String → Prop} {before after : Scopes}
    (widens : Widens said before after) (name : String) :
    Known after name ↔ before ≠ [] ∧ (Known before name ∨ said name) := by
  cases before with
  | nil =>
    cases widens
    simp [Known]
  | cons names rest =>
    obtain ⟨more, rfl, added⟩ := widens
    simp [Known, added]

theorem widened_nil {said : String → Prop} {before after : Scopes}
    (widens : Widens said before after) : after = [] ↔ before = [] := by
  cases before with
  | nil =>
    cases widens
    simp
  | cons names rest =>
    obtain ⟨more, rfl, _⟩ := widens
    simp

theorem target_names (targets : List Expr) (name : String) :
    name ∈ targets.filterMap (Node.name? ∘ Node.expr) ↔
      ∃ at_ usage, Expr.name at_ name usage ∈ targets := by
  rw [List.mem_filterMap]
  constructor
  · rintro ⟨target, member, named⟩
    simp only [Function.comp_apply] at named
    unfold Node.name? at named
    split at named
    · rename_i at_ id usage same
      cases same
      cases named
      exact ⟨at_, usage, member⟩
    · cases named
  · rintro ⟨at_, usage, member⟩
    exact ⟨_, member, rfl⟩

theorem step_function {node : Node} (function : node.isFunction = true) (s : Scopes)
    (around : List Node) :
    s.step (.enter around node) = [] :: s ∧ s.step (.leave around node) = s.tail := by
  unfold Node.isFunction at function
  split at function
  · exact ⟨rfl, rfl⟩
  · cases function

theorem leave_plain {node : Node} (plain : node.isFunction = false) (s : Scopes)
    (around : List Node) : s.step (.leave around node) = s := by
  cases node with
  | stmt value => cases value <;> first | rfl | cases plain
  | _ => rfl

/-- What a step does to the scopes hangs on the node alone. -/
theorem step_around (s : Scopes) (around : List Node) (node : Node) :
    s.step (.enter around node) = s.step (.enter [] node) ∧
      s.step (.leave around node) = s.step (.leave [] node) := by
  cases node with
  | stmt value =>
    cases value with
    | assign span targets value => cases value <;> exact ⟨rfl, rfl⟩
    | _ => exact ⟨rfl, rfl⟩
  | _ => exact ⟨rfl, rfl⟩

theorem enter_widens {node : Node} (plain : node.isFunction = false) (s : Scopes)
    (around : List Node) : Widens (SetsText node) s (s.step (.enter around node)) := by
  have nothing : ∀ {other : Node},
      (∀ span targets place value, other ≠ .stmt (.assign span targets (.constant place value))) →
      Widens (SetsText other) s s := by
    intro other none
    apply widens_none
    rintro name ⟨span, targets, place, value, _, _, same, _⟩
    exact none span targets place value same
  cases node with
  | stmt value =>
    cases value with
    | function => cases plain
    | assign span targets value =>
      cases value with
      | constant place value =>
        cases s with
        | nil => rfl
        | cons names rest =>
          have sets : ∀ name, SetsText (.stmt (.assign span targets (.constant place value))) name ↔
              value.isText = true ∧ name ∈ targets.filterMap (Node.name? ∘ Node.expr) := by
            intro name
            rw [target_names]
            constructor
            · rintro ⟨_, _, _, _, at_, usage, same, text, member⟩
              cases same
              exact ⟨text, at_, usage, member⟩
            · rintro ⟨text, at_, usage, member⟩
              exact ⟨span, targets, place, value, at_, usage, rfl, text, member⟩
          simp only [Scopes.step]
          split
          · rename_i text
            refine ⟨_, rfl, fun name => ?_⟩
            rw [List.mem_append, sets, or_comm]
            simp [text]
          · rename_i other
            refine ⟨_, rfl, fun name => ?_⟩
            rw [sets]
            simp [other]
      | _ => exact nothing (by simp)
    | _ => exact nothing (by simp)
  | _ => exact nothing (by simp)

end Steps

section Walks

mutual
def after (s : Scopes) : Tree → Scopes
  | .node root branches => (branchesAfter (s.step (.enter [] root)) branches).step (.leave [] root)

def branchesAfter (s : Scopes) : List Tree → Scopes
  | [] => s
  | t :: rest => branchesAfter (after s t) rest
end

mutual
theorem visits_after (around : List Node) : ∀ (t : Tree) (s : Scopes),
    (t.visits around).foldl Scopes.step s = after s t
  | .node root branches, s => by
    rw [Tree.visits, List.foldl_append, List.foldl_cons, List.foldl_nil, List.foldl_cons,
      branch_visits_after _ branches, (step_around s around root).1, (step_around _ around root).2,
      after]

theorem branch_visits_after (around : List Node) : ∀ (ts : List Tree) (s : Scopes),
    (branchVisits around ts).foldl Scopes.step s = branchesAfter s ts
  | [], s => rfl
  | t :: rest, s => by
    rw [branchVisits, List.foldl_append, visits_after around t, branch_visits_after around rest,
      branchesAfter]
end

theorem branches_after_append (first second : List Tree) (s : Scopes) :
    branchesAfter s (first ++ second) = branchesAfter (branchesAfter s first) second := by
  induction first generalizing s with
  | nil => rfl
  | cons t rest ih => exact ih (after s t)

def SetOutside (t : Tree) (name : String) : Prop :=
  ∃ place, t.Clear Node.isFunction place ∧ SetAt t place name

def SetAmong (branches : List Tree) (last : List Nat) (name : String) : Prop :=
  ∃ i t place, branches[i]? = some t ∧ t.Clear Node.isFunction place ∧ MetBy (i :: place) last ∧
    SetAt t place name

theorem set_at_node_iff (root : Node) (branches : List Tree) (place : List Nat) (name : String) :
    SetAt (.node root branches) place name ↔
      place = [] ∧ SetsText root name ∨
        ∃ i rest t, place = i :: rest ∧ branches[i]? = some t ∧ SetAt t rest name := by
  cases place with
  | nil => simp [SetAt]
  | cons i rest =>
    simp only [SetAt, node_cons_iff]
    grind

theorem set_outside_node_iff (root : Node) (branches : List Tree) (name : String) :
    SetOutside (.node root branches) name ↔
      root.isFunction = false ∧ (SetsText root name ∨ ∃ t ∈ branches, SetOutside t name) := by
  constructor
  · rintro ⟨place, clear, set⟩
    rcases (set_at_node_iff root branches place name).mp set with
      ⟨rfl, here⟩ | ⟨i, rest, t, rfl, there, below⟩
    · exact ⟨(clear_nil _).mp clear, Or.inl here⟩
    · obtain ⟨plain, clear⟩ := (clear_cons _ i rest).mp clear
      exact ⟨plain, Or.inr ⟨t, List.mem_of_getElem? there, rest, clear t there, below⟩⟩
  · rintro ⟨plain, here | ⟨t, member, rest, clear, below⟩⟩
    · exact ⟨[], (clear_nil _).mpr plain, (set_at_node_iff _ _ _ _).mpr (Or.inl ⟨rfl, here⟩)⟩
    · obtain ⟨i, there⟩ := List.mem_iff_getElem?.mp member
      refine ⟨i :: rest, (clear_cons _ i rest).mpr ⟨plain, fun other same => ?_⟩,
        (set_at_node_iff _ _ _ _).mpr (Or.inr ⟨i, rest, t, rfl, there, below⟩)⟩
      cases there.symm.trans same
      exact clear

mutual
theorem after_widens : ∀ (t : Tree) (s : Scopes), Widens (SetOutside t) s (after s t)
  | .node root branches, s => by
    rw [after]
    cases kind : root.isFunction with
    | true =>
      obtain ⟨more, whole, _⟩ := branches_after_widen branches ([] :: s)
      rw [(step_function kind s []).1, (step_function kind _ []).2, whole]
      apply widens_none
      intro name set
      cases kind.symm.trans ((set_outside_node_iff root branches name).mp set).1
    | false =>
      rw [leave_plain kind]
      refine widens_trans (enter_widens kind s []) (branches_after_widen branches _) fun name => ?_
      rw [set_outside_node_iff]
      exact and_iff_right kind

theorem branches_after_widen : ∀ (ts : List Tree) (s : Scopes),
    Widens (fun name => ∃ t ∈ ts, SetOutside t name) s (branchesAfter s ts)
  | [], s => widens_none (by simp) s
  | t :: rest, s =>
    widens_trans (after_widens t s) (branches_after_widen rest (after s t)) fun name => by simp
end

end Walks

section Leaving

def leaving : List Nat → Scopes → Tree → Scopes
  | [], s, t => branchesAfter (s.step (.enter [] t.root)) t.branches
  | i :: rest, s, t =>
    match t.branches[i]? with
    | none => s
    | some branch =>
      leaving rest (branchesAfter (s.step (.enter [] t.root)) (t.branches.take i)) branch

variable {root : Node} {branches : List Tree} {branch : Tree} {i : Nat}

theorem leaving_cons (there : branches[i]? = some branch) (rest : List Nat) (s : Scopes) :
    leaving (i :: rest) s (.node root branches) =
      leaving rest (branchesAfter (s.step (.enter [] root)) (branches.take i)) branch := by
  simp only [leaving, Tree.branches, Tree.root, there]

theorem set_among_nil_iff (name : String) :
    SetAmong branches [] name ↔ ∃ t ∈ branches, SetOutside t name := by
  constructor
  · rintro ⟨i, t, place, there, clear, _, set⟩
    exact ⟨t, List.mem_of_getElem? there, place, clear, set⟩
  · rintro ⟨t, member, place, clear, set⟩
    obtain ⟨i, there⟩ := List.mem_iff_getElem?.mp member
    exact ⟨i, t, place, there, clear, met_by_nil _, set⟩

-- Of the branches a walk has been through those before the one that it is in.
theorem set_among_cons_iff (there : branches[i]? = some branch) (rest : List Nat) (name : String) :
    SetAmong branches (i :: rest) name ↔
      (∃ t ∈ branches.take i, SetOutside t name) ∨
        ∃ place, branch.Clear Node.isFunction place ∧ MetBy place rest ∧
          SetAt branch place name := by
  constructor
  · rintro ⟨j, t, place, at_, clear, met, set⟩
    rcases (met_by_cons j i place rest).mp met with earlier | ⟨rfl, inside⟩
    · refine Or.inl ⟨t, ?_, place, clear, set⟩
      exact List.mem_of_getElem? ((List.getElem?_take_of_lt earlier).trans at_)
    · cases there.symm.trans at_
      exact Or.inr ⟨place, clear, inside, set⟩
  · rintro (⟨t, member, place, clear, set⟩ | ⟨place, clear, met, set⟩)
    · obtain ⟨j, at_⟩ := List.mem_iff_getElem?.mp member
      have earlier : j < i := by
        have short := (List.getElem?_eq_some_iff.mp at_).1
        rw [List.length_take] at short
        omega
      rw [List.getElem?_take_of_lt earlier] at at_
      exact ⟨j, t, place, at_, clear, (met_by_cons j i place rest).mpr (Or.inl earlier), set⟩
    · exact ⟨i, branch, place, there, clear,
        (met_by_cons i i place rest).mpr (Or.inr ⟨rfl, met⟩), set⟩

theorem set_here_iff (plain : root.isFunction = false) (last : List Nat) (name : String) :
    (∃ place, (Code.Tree.node root branches).Clear Node.isFunction place ∧ MetBy place last ∧
        SetAt (.node root branches) place name) ↔
      SetsText root name ∨ SetAmong branches last name := by
  constructor
  · rintro ⟨place, clear, met, set⟩
    rcases (set_at_node_iff root branches place name).mp set with
      ⟨rfl, here⟩ | ⟨i, rest, t, rfl, there, below⟩
    · exact Or.inl here
    · exact Or.inr ⟨i, t, rest, there, ((clear_cons _ i rest).mp clear).2 t there, met, below⟩
  · rintro (here | ⟨i, t, rest, there, clear, met, below⟩)
    · exact ⟨[], (clear_nil _).mpr plain, nil_met_by last,
        (set_at_node_iff _ _ _ _).mpr (Or.inl ⟨rfl, here⟩)⟩
    · refine ⟨i :: rest, (clear_cons _ i rest).mpr ⟨plain, fun other same => ?_⟩, met,
        (set_at_node_iff _ _ _ _).mpr (Or.inr ⟨i, rest, t, rfl, there, below⟩)⟩
      cases there.symm.trans same
      exact clear

/-- What is set in the innermost function, seen from a node that is one: by the nodes in it. -/
theorem set_in_function_iff (function : root.isFunction = true) (last : List Nat) (name : String) :
    (∃ place, (Code.Tree.node root branches).Innermost Node.isFunction place [] ∧ MetBy place last ∧
        SetAt (.node root branches) place name) ↔ SetAmong branches last name := by
  constructor
  · rintro ⟨place, inner, met, set⟩
    rcases (set_at_node_iff root branches place name).mp set with
      ⟨rfl, here⟩ | ⟨i, rest, t, rfl, there, below⟩
    · exact absurd here (function_sets_none function name)
    · rcases (innermost_cons _ i rest []).mp inner with ⟨_, _, same, _⟩ | ⟨_, _, clear⟩
      · cases same
      · exact ⟨i, t, rest, there, clear t there, met, below⟩
  · rintro ⟨i, t, rest, there, clear, met, below⟩
    refine ⟨i :: rest, (innermost_cons _ i rest []).mpr (Or.inr ⟨rfl, function, ?_⟩), met,
      (set_at_node_iff _ _ _ _).mpr (Or.inr ⟨i, rest, t, rfl, there, below⟩)⟩
    intro other same
    cases there.symm.trans same
    exact clear

theorem set_before_nil_iff (name : String) :
    SetBefore (.node root branches) [] name ↔
      root.isFunction = true ∧ SetAmong branches [] name := by
  constructor
  · rintro ⟨home, place, outer, inner, met, set⟩
    obtain ⟨rfl, function⟩ := (innermost_nil _ home).mp outer
    exact ⟨function, (set_in_function_iff function [] name).mp ⟨place, inner, met, set⟩⟩
  · rintro ⟨function, among⟩
    obtain ⟨place, inner, met, set⟩ := (set_in_function_iff function [] name).mpr among
    exact ⟨[], place, (innermost_nil _ _).mpr ⟨rfl, function⟩, inner, met, set⟩

theorem set_before_cons_iff (there : branches[i]? = some branch) (rest : List Nat)
    (name : String) :
    SetBefore (.node root branches) (i :: rest) name ↔
      SetBefore branch rest name ∨
        root.isFunction = true ∧ branch.Clear Node.isFunction rest ∧
          SetAmong branches (i :: rest) name := by
  constructor
  · rintro ⟨home, place, outer, inner, met, set⟩
    rcases (innermost_cons _ i rest home).mp outer with
      ⟨t, within, rfl, at_, outer⟩ | ⟨rfl, function, clear⟩
    · cases there.symm.trans at_
      -- the function is in the branch, and so is what stands in it
      cases place with
      | nil => cases ((innermost_nil _ _).mp inner).1
      | cons j place =>
        rcases (innermost_cons _ j place _).mp inner with ⟨t, _, same, at_, inner⟩ | ⟨none, _⟩
        · cases same
          cases there.symm.trans at_
          obtain ⟨node, found, sets⟩ := set
          rw [node_member there] at found
          rcases (met_by_cons i i place rest).mp met with earlier | ⟨_, met⟩
          · exact absurd earlier (Nat.lt_irrefl i)
          · exact Or.inl ⟨_, place, outer, inner, met, node, found, sets⟩
        · cases none
    · exact Or.inr ⟨function, clear branch there,
        (set_in_function_iff function _ name).mp ⟨place, inner, met, set⟩⟩
  · rintro (⟨home, place, outer, inner, met, node, found, sets⟩ | ⟨function, clear, among⟩)
    · refine ⟨i :: home, i :: place, (innermost_cons _ i rest _).mpr (Or.inl ?_),
        (innermost_cons _ i place _).mpr (Or.inl ?_), (met_by_cons i i place rest).mpr ?_,
        node, (node_member there place).trans found, sets⟩
      · exact ⟨branch, home, rfl, there, outer⟩
      · exact ⟨branch, home, rfl, there, inner⟩
      · exact Or.inr ⟨rfl, met⟩
    · obtain ⟨place, inner, met, set⟩ := (set_in_function_iff function _ name).mpr among
      refine ⟨[], place, (innermost_cons _ i rest _).mpr (Or.inr ⟨rfl, function, ?_⟩), inner, met,
        set⟩
      intro other same
      cases there.symm.trans same
      exact clear

/-- What is known when a node is left, however the walk came to the tree. -/
theorem known_leaving_iff (name : String) (last : List Nat) (s : Scopes) (t : Tree)
    (stands : (t.node? last).isSome = true) :
    Known (leaving last s t) name ↔
      SetBefore t last name ∨
        t.Clear Node.isFunction last ∧ s ≠ [] ∧
          (Known s name ∨ ∃ place, t.Clear Node.isFunction place ∧ MetBy place last ∧
            SetAt t place name) := by
  induction last generalizing s t with
  | nil =>
    obtain ⟨root, branches⟩ := t
    have widens := branches_after_widen branches (s.step (.enter [] root))
    rw [leaving, Tree.root, Tree.branches, known_widened widens, set_before_nil_iff,
      set_among_nil_iff, clear_nil]
    cases kind : root.isFunction with
    | true => simp [(step_function kind s []).1, Known]
    | false =>
      rw [set_here_iff kind, set_among_nil_iff, known_widened (enter_widens kind s []),
        Ne, widened_nil (enter_widens kind s [])]
      grind
  | cons i rest ih =>
    obtain ⟨root, branches⟩ := t
    obtain ⟨node, found⟩ := Option.isSome_iff_exists.mp stands
    obtain ⟨branch, there, found⟩ := (node_cons_iff i rest node).mp found
    have widens := branches_after_widen (branches.take i) (s.step (.enter [] root))
    have clear : (∀ t, branches[i]? = some t → t.Clear Node.isFunction rest) ↔
        branch.Clear Node.isFunction rest := by simp [there]
    rw [leaving_cons there, ih _ _ (by rw [found]; rfl), known_widened widens, Ne,
      widened_nil widens, set_before_cons_iff there, set_among_cons_iff there, clear_cons, clear]
    cases kind : root.isFunction with
    | true =>
      simp only [(step_function kind s []).1, Known]
      grind
    | false =>
      have none := widened_nil (enter_widens kind s [])
      rw [set_here_iff kind, set_among_cons_iff there, known_widened (enter_widens kind s []), Ne,
        none]
      grind

/-- In a walk that starts with no scope a name is known by what was set in the innermost function
around alone. -/
theorem known_from_start (name : String) (last : List Nat) (t : Tree)
    (stands : (t.node? last).isSome = true) :
    Known (leaving last [] t) name ↔ SetBefore t last name := by
  rw [known_leaving_iff name last [] t stands]
  simp

end Leaving

end RefactorAdvice.Rules.Performance
