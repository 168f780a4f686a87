import Mathlib.Data.List.Basic
import RefactorAdvice.Proofs.Inspector.Moves
import RefactorAdvice.Proofs.Publishing

/-!
A kept examiner on a walk. The nodes open at a visit fix what its family has in hand there, so
each visit is spoken of as if the whole tree were in view, and a walk comes to the examination
of the module. Where it fails, it stops in the function in which the failing notice stands.
-/

namespace RefactorAdvice

namespace Code

/--
Visits that lead from the nodes open before them to those open after them: an arrival opens its
node, and a departure closes the nearest.
-/
inductive Follows : List Node → List Visit → List Node → Prop
  | done (around : List Node) : Follows around [] around
  | enter (around : List Node) (node : Node) (visits : List Visit) (out : List Node) :
      Follows (node :: around) visits out → Follows around (.enter around node :: visits) out
  | leave (around : List Node) (node : Node) (visits : List Visit) (out : List Node) :
      Follows around visits out → Follows (node :: around) (.leave around node :: visits) out

theorem follows_append {around middle out : List Node} {first second : List Visit}
    (before : Follows around first middle) (after : Follows middle second out) :
    Follows around (first ++ second) out := by
  induction before with
  | done around => exact after
  | enter around node visits _ _ ih => exact .enter around node _ out (ih after)
  | leave around node visits _ _ ih => exact .leave around node _ out (ih after)

mutual
theorem visits_follow (around : List Node) : ∀ t : Tree, Follows around (t.visits around) around
  | .node root branches =>
    have closing := Follows.leave around root [] around (.done around)
    .enter around root _ around
      (follows_append (branch_visits_follow (root :: around) branches) closing)

theorem branch_visits_follow (around : List Node) :
    ∀ ts : List Tree, Follows around (branchVisits around ts) around
  | [] => .done around
  | t :: rest => follows_append (visits_follow around t) (branch_visits_follow around rest)
end

def Visit.arrival? : Visit → Option (List Node × Node)
  | .enter around node => some (around, node)
  | .leave .. => none

mutual
theorem visits_arrivals (around : List Node) :
    ∀ t : Tree, (t.visits around).filterMap Visit.arrival? = t.places around
  | .node root branches => by
    have inside := branch_visits_arrivals (root :: around) branches
    simp only [Tree.visits, Tree.places, List.cons_append, List.filterMap_cons, Visit.arrival?,
      List.filterMap_append, List.filterMap_nil, List.append_nil, inside]

theorem branch_visits_arrivals (around : List Node) :
    ∀ ts : List Tree, (branchVisits around ts).filterMap Visit.arrival? = branchPlaces around ts
  | [] => by simp only [branchVisits, branchPlaces, List.filterMap_nil]
  | t :: rest => by
    simp only [branchVisits, branchPlaces, List.filterMap_append, visits_arrivals around t,
      branch_visits_arrivals around rest]
end

mutual
theorem places_preorder (around : List Node) :
    ∀ t : Tree, (t.places around).map Prod.snd = t.preorder
  | .node root branches => by
    simp only [Tree.places, Tree.preorder, List.map_cons,
      branch_places_preorders (root :: around) branches]

theorem branch_places_preorders (around : List Node) :
    ∀ ts : List Tree, (branchPlaces around ts).map Prod.snd = preorders ts
  | [] => by simp only [branchPlaces, preorders, List.map_nil]
  | t :: rest => by
    simp only [branchPlaces, preorders, List.map_append, places_preorder around t,
      branch_places_preorders around rest]
end

end Code

namespace Rules.Inspector

open Code

variable (settings : Settings) (listing : Listing) (sheet : Sheet) (outside : Bool)

section Spoken

def spoken (scopes : Performance.Scopes) : Family → Visit → Notices
  | .performance, visit =>
    Performance.check settings.performance
      (fun span rule => listing.silencesAt span (some rule.code)) scopes visit
  | .booleanLogic, .enter around node =>
    ((BooleanLogic.check settings.booleanLogic (BooleanLogic.insideFunction outside around)
      node).map .ok).toList
  | .contextManager, .enter around node => ((ContextManager.check around node).map .ok).toList
  | family, visit => remarks settings listing {} family visit

def said (family : Family) : Performance.Scopes → List Visit → Notices
  | _, [] => []
  | scopes, visit :: rest =>
    spoken settings listing outside scopes family visit ++ said family (scopes.step visit) rest

theorem said_performance (scopes : Performance.Scopes) (visits : List Visit) :
    said settings listing outside .performance scopes visits =
      Performance.walk settings.performance
        (fun span rule => listing.silencesAt span (some rule.code)) scopes visits := by
  induction visits generalizing scopes with
  | nil => rfl
  | cons visit rest ih => rw [said, ih, spoken, Performance.walk]

-- The other families speak at arrivals only.
theorem said_places (family : Family) (heard : List Node × Node → Notices)
    (arriving : ∀ scopes around node,
      spoken settings listing outside scopes family (.enter around node) = heard (around, node))
    (leaving : ∀ scopes around node,
      spoken settings listing outside scopes family (.leave around node) = [])
    (scopes : Performance.Scopes) (visits : List Visit) :
    said settings listing outside family scopes visits =
      (visits.filterMap Visit.arrival?).flatMap heard := by
  induction visits generalizing scopes with
  | nil => rfl
  | cons visit rest ih =>
    rw [said, ih]
    cases visit with
    | enter around node =>
      rw [arriving, List.filterMap_cons, Visit.arrival?, List.flatMap_cons]
    | leave around node => rw [leaving, List.filterMap_cons, Visit.arrival?, List.nil_append]

theorem said_nodes (family : Family) (heard : Node → Notices)
    (arriving : ∀ scopes around node,
      spoken settings listing outside scopes family (.enter around node) = heard node)
    (leaving : ∀ scopes around node,
      spoken settings listing outside scopes family (.leave around node) = []) (t : Tree) :
    said settings listing outside family [] (t.visits []) = t.preorder.flatMap heard := by
  rw [said_places settings listing outside family (fun place => heard place.2) arriving leaving,
    visits_arrivals, ← places_preorder [] t, List.flatMap_map]

theorem said_notices (module : Module) (family : Family) :
    said settings listing outside family [] (module.tree.visits []) =
      notices settings listing outside module family := by
  -- A family that is spoken of node by node, or by the nodes around.
  have nodes := said_nodes settings listing outside family
  have places := fun heard arriving leaving =>
    (said_places settings listing outside family heard arriving leaving []
      (module.tree.visits [])).trans (congrArg _ (visits_arrivals [] module.tree))
  cases family with
  | performance => exact said_performance settings listing outside [] _
  | booleanLogic =>
    rw [places (fun place => ((BooleanLogic.check settings.booleanLogic
      (BooleanLogic.insideFunction outside place.1) place.2).map .ok).toList)
      (fun _ _ _ => rfl) (fun _ _ _ => rfl), ← List.filterMap_eq_flatMap_toList]
    simp only [notices, BooleanLogic.notices, BooleanLogic.placedNotices, List.map_filterMap,
      Option.map_map, Function.comp_def]
  | contextManager =>
    rw [places (fun place => ((ContextManager.check place.1 place.2).map .ok).toList)
      (fun _ _ _ => rfl) (fun _ _ _ => rfl)]
    simp only [notices, ContextManager.notices, List.filterMap_eq_flatMap_toList]
  | controlFlow =>
    rw [nodes (fun node => ((ControlFlow.check node).map .ok).toList) (fun _ _ _ => rfl)
      (fun _ _ _ => rfl)]
    simp only [notices, ControlFlow.notices, List.filterMap_eq_flatMap_toList]
  | duplication =>
    rw [nodes (fun _ => []) (fun _ _ _ => rfl) (fun _ _ _ => rfl)]
    exact List.flatMap_eq_nil_iff.mpr fun _ _ => rfl
  | complexity => exact nodes _ (fun _ _ _ => rfl) (fun _ _ _ => rfl) _
  | loops => exact nodes Loops.check (fun _ _ _ => rfl) (fun _ _ _ => rfl) _
  | dictOperations => exact nodes DictOperations.check (fun _ _ _ => rfl) (fun _ _ _ => rfl) _
  | comparisons => exact nodes Comparisons.check (fun _ _ _ => rfl) (fun _ _ _ => rfl) _

end Spoken

section Standing

def saved : List Node → List Bool
  | [] => []
  | node :: around =>
    if node.isFunction then BooleanLogic.insideFunction outside around :: saved around
    else saved around

structure Stands (family : Family) (scopes : Performance.Scopes) (around : List Node)
    (p : Point) : Prop where
  functions : family = .booleanLogic →
    p.notes.inFunction = BooleanLogic.insideFunction outside around ∧
      p.outer = saved outside around
  loops : family = .performance →
    p.notes.loops = around.filter Node.isLoop ∧ p.notes.inLoop = around.any Node.isLoop ∧
      p.notes.scopes = scopes
  mapped : family = .performance ∨ family = .contextManager → p.notes.mapped = true
  unwarned : p.notes.warnings = []

variable {outside} {family : Family} {scopes : Performance.Scopes} {around : List Node}
  {node : Node} {p : Point}

theorem stands_add (stands : Stands outside family scopes around p) (findings : List Finding) :
    Stands outside family scopes around (p.add findings) :=
  ⟨stands.functions, stands.loops, stands.mapped, stands.unwarned⟩

theorem arrive_stands (node : Node) (stands : Stands outside family scopes around p) :
    Stands outside family (scopes.step (.enter around node)) (node :: around)
      (p.arrive around node family) := by
  obtain ⟨functions, loops, mapped, unwarned⟩ := stands
  cases family with
  | booleanLogic =>
    obtain ⟨answer, aside⟩ := functions rfl
    unfold Point.arrive
    dsimp only
    cases kind : node.isFunction with
    | true =>
      refine ⟨fun _ => ⟨?_, ?_⟩, by simp, by simp, unwarned⟩
      · simp [BooleanLogic.insideFunction, kind]
      · simp [saved, kind, answer, aside]
    | false =>
      refine ⟨fun _ => ⟨?_, ?_⟩, by simp, by simp, unwarned⟩
      · simp [answer, BooleanLogic.insideFunction, kind]
      · simp [saved, kind, aside]
  | performance =>
    obtain ⟨stack, inside, same⟩ := loops rfl
    unfold Point.arrive
    dsimp only
    cases kind : node.isLoop with
    | true =>
      refine ⟨by simp, fun _ => ⟨?_, ?_, ?_⟩, fun _ => mapped (.inl rfl), unwarned⟩
      · simp [stack, kind]
      · simp [kind]
      · simp [same]
    | false =>
      refine ⟨by simp, fun _ => ⟨?_, ?_, ?_⟩, fun _ => mapped (.inl rfl), unwarned⟩
      · simp [stack, kind]
      · simp [inside, kind]
      · simp [same]
  | contextManager => exact ⟨by simp, by simp, mapped, unwarned⟩
  | _ => exact ⟨by simp, by simp, by simp, unwarned⟩

theorem depart_stands (stands : Stands outside family scopes (node :: around) p) :
    Stands outside family (scopes.step (.leave around node)) around
      (p.depart around node family) := by
  obtain ⟨functions, loops, mapped, unwarned⟩ := stands
  cases family with
  | booleanLogic =>
    obtain ⟨answer, aside⟩ := functions rfl
    unfold Point.depart
    dsimp only
    cases kind : node.isFunction with
    | true =>
      have shape : p.outer =
          BooleanLogic.insideFunction outside around :: saved outside around := by
        simpa [saved, kind] using aside
      rw [shape]
      exact ⟨fun _ => ⟨rfl, rfl⟩, by simp, by simp, unwarned⟩
    | false =>
      refine ⟨fun _ => ⟨?_, ?_⟩, by simp, by simp, unwarned⟩
      · simpa [BooleanLogic.insideFunction, kind] using answer
      · simpa [saved, kind] using aside
  | performance =>
    obtain ⟨stack, inside, same⟩ := loops rfl
    unfold Point.depart
    dsimp only
    cases kind : node.isLoop with
    | true =>
      have rest : p.notes.loops.tail = around.filter Node.isLoop := by simp [stack, kind]
      refine ⟨by simp, fun _ => ⟨?_, ?_, ?_⟩, fun _ => mapped (.inl rfl), unwarned⟩
      · exact rest
      · simp only [↓reduceIte, rest]
        cases found : around.any Node.isLoop <;> simp_all
      · simp [same]
    | false =>
      refine ⟨by simp, fun _ => ⟨?_, ?_, ?_⟩, fun _ => mapped (.inl rfl), unwarned⟩
      · simpa [kind] using stack
      · simpa [kind] using inside
      · simp [same]
  | contextManager => exact ⟨by simp, by simp, mapped, unwarned⟩
  | _ => exact ⟨by simp, by simp, by simp, unwarned⟩

end Standing

section Agreement
variable {outside} {family : Family} {scopes after : Performance.Scopes} {around out : List Node}
  {node : Node} {p : Point}

theorem list_growth_loops (first second : List Node) (node : Node)
    (alike : first.any Node.isLoop = second.any Node.isLoop) :
    Performance.listGrowth first node = Performance.listGrowth second node := by
  unfold Performance.listGrowth
  rw [alike]

theorem loops_around_any (stands : Stands outside .performance scopes around p) :
    p.notes.loopsAround.any Node.isLoop = around.any Node.isLoop := by
  obtain ⟨stack, inside, -⟩ := stands.loops rfl
  unfold Notes.loopsAround
  rw [stack, inside]
  cases found : around.any Node.isLoop with
  | true => simpa using found
  | false => rfl

-- The node is among the open ones already, but a node that is spoken of is no function and one
-- that is judged by the loops around is no loop.
theorem enter_remarks (scopes : Performance.Scopes)
    (stands : Stands outside family after (node :: around) p) :
    remarks settings listing p.notes family (.enter around node) =
      spoken settings listing outside scopes family (.enter around node) := by
  cases family with
  | booleanLogic =>
    have answer := (stands.functions rfl).1
    simp only [remarks, spoken, answer]
    cases node with
    | stmt s => cases s <;> rfl
    | _ => rfl
  | performance =>
    have known := stands.mapped (.inl rfl)
    cases node with
    | stmt s =>
      cases s with
      | augAssign =>
        have judged := loops_around_any stands
        simp only [remarks, spoken, Performance.check]
        rw [list_growth_loops _ around _ judged]
      | _ => rfl
    | expr e =>
      cases e with
      | call => simp only [remarks, spoken, Performance.check, Notes.around, known, ↓reduceIte]
      | _ => rfl
    | _ => rfl
  | contextManager =>
    have known := stands.mapped (.inr rfl)
    simp only [remarks, spoken, Notes.around, known, ↓reduceIte]
  | _ => rfl

theorem leave_remarks (stands : Stands outside family scopes (node :: around) p) :
    remarks settings listing p.notes family (.leave around node) =
      spoken settings listing outside scopes family (.leave around node) := by
  cases family with
  | performance =>
    obtain ⟨-, -, same⟩ := stands.loops rfl
    simp only [remarks, spoken, same]
  | _ => rfl

def Told (before : List Finding) (holds : Point → Prop) (findings : List Finding) (p : Point) :
    Prop :=
  p.notes.findings = before ++ findings ∧ holds p

theorem told_append {before : List Finding} {holds ends : Point → Prop} {first second : Notices}
    {progress : Progress} {move : Move}
    (now : Agrees (Told before holds) (sheet.listing.publishAll sheet.file first) progress)
    (next : ∀ q, holds q → Agrees (Told q.notes.findings ends)
      (sheet.listing.publishAll sheet.file second) (move q)) :
    Agrees (Told before ends) (sheet.listing.publishAll sheet.file (first ++ second))
      (progress >>= move) := by
  rw [Listing.publish_all_append]
  refine agrees_bind now ?_
  rintro found q ⟨shown, there⟩
  refine agrees_map (found ++ ·) (next q there) ?_
  rintro others r ⟨more, ended⟩
  exact ⟨by rw [more, shown, List.append_assoc], ended⟩

theorem fold_say_agrees (holds : Point → Prop)
    (stable : ∀ p findings, holds p → holds (p.add findings)) (ns : Notices) (p : Point)
    (start : holds p) :
    Agrees (Told p.notes.findings holds) (sheet.listing.publishAll sheet.file ns)
      (ns.foldlM (say sheet) p) := by
  induction ns generalizing p with
  | nil => exact .done [] p ⟨(List.append_nil _).symm, start⟩
  | cons n rest ih =>
    rw [List.foldlM_cons, ← List.singleton_append]
    refine told_append sheet ?_ ih
    cases n with
    | error failure => exact .failed failure p
    | ok notice =>
      simp only [Listing.publishAll, say, bind, Except.bind]
      cases sheet.listing.publish sheet.file notice with
      | error failure => exact .failed failure p
      | ok found =>
        exact .done _ _ ⟨by simp [Point.add], stable p found.toList start⟩

theorem arrive_findings (p : Point) (around : List Node) (node : Node) (family : Family) :
    (p.arrive around node family).notes.findings = p.notes.findings := by
  cases family with
  | booleanLogic =>
    unfold Point.arrive
    dsimp only
    split <;> rfl
  | performance =>
    unfold Point.arrive
    dsimp only
    split <;> rfl
  | _ => rfl

theorem depart_findings (p : Point) (around : List Node) (node : Node) (family : Family) :
    (p.depart around node family).notes.findings = p.notes.findings := by
  cases family with
  | booleanLogic =>
    unfold Point.depart
    dsimp only
    split
    · split <;> rfl
    · rfl
  | performance =>
    unfold Point.depart
    dsimp only
    split <;> rfl
  | _ => rfl

theorem speak_agrees (visit : Visit) (p : Point) (stands : Stands outside family scopes around p) :
    Agrees (Told p.notes.findings (Stands outside family scopes around))
      (sheet.listing.publishAll sheet.file (remarks settings sheet.listing p.notes family visit))
      (speak settings sheet family visit p) :=
  fold_say_agrees sheet (Stands outside family scopes around)
    (fun _ findings standing => stands_add standing findings) _ p stands

theorem enter_agrees (stands : Stands outside family scopes around p) :
    Agrees (Told p.notes.findings
        (Stands outside family (scopes.step (.enter around node)) (node :: around)))
      (sheet.listing.publishAll sheet.file
        (spoken settings sheet.listing outside scopes family (.enter around node)))
      (go p (visitMoves settings sheet family (.enter around node))) := by
  have arrived := arrive_stands node stands
  have spoke := speak_agrees settings sheet (.enter around node) _ arrived
  rw [enter_remarks settings sheet.listing scopes arrived, arrive_findings] at spoke
  rw [visitMoves, go_two]
  exact spoke

theorem leave_agrees (stands : Stands outside family scopes (node :: around) p) :
    Agrees (Told p.notes.findings (Stands outside family (scopes.step (.leave around node)) around))
      (sheet.listing.publishAll sheet.file
        (spoken settings sheet.listing outside scopes family (.leave around node)))
      (go p (visitMoves settings sheet family (.leave around node))) := by
  have spoke := speak_agrees settings sheet (.leave around node) p stands
  rw [leave_remarks settings sheet.listing stands] at spoke
  rw [visitMoves, go_two, ← List.append_nil (spoken _ _ _ _ _ _)]
  refine told_append sheet spoke ?_
  intro q standing
  refine .done [] _ ⟨?_, depart_stands standing⟩
  rw [depart_findings, List.append_nil]

theorem walk_agrees {visits : List Visit} (follows : Follows around visits out)
    (scopes : Performance.Scopes) (p : Point) (stands : Stands outside family scopes around p) :
    Agrees (Told p.notes.findings (Stands outside family (visits.foldl (·.step ·) scopes) out))
      (sheet.listing.publishAll sheet.file
        (said settings sheet.listing outside family scopes visits))
      (go p (visits.flatMap (visitMoves settings sheet family))) := by
  induction follows generalizing scopes p with
  | done around => exact .done [] p ⟨(List.append_nil _).symm, stands⟩
  | enter around node visits out _ ih =>
    rw [said, List.flatMap_cons, go_append]
    exact told_append sheet (enter_agrees settings sheet stands) (ih _)
  | leave around node visits out _ ih =>
    rw [said, List.flatMap_cons, go_append]
    exact told_append sheet (leave_agrees settings sheet stands) (ih _)

end Agreement

section Stops
variable {outside} {scopes : Performance.Scopes} {around out : List Node}

theorem publish_alike (l : Listing) (file other : String) (n : Notice) :
    (l.publish file n).toOption.isSome = (l.publish other n).toOption.isSome := by
  unfold Listing.publish
  cases n.span.placed with
  | none => rfl
  | some line =>
    dsimp only
    split
    · rfl
    · unfold Finding.ofDraft
      dsimp only
      split
      · rfl
      · split
        · rfl
        · cases n.endLine with
          | none => rfl
          | some last =>
            dsimp only
            split <;> rfl

theorem noticed_not_function (limits : Settings.BooleanLogic) (inside : Bool) (node : Node)
    (n : Notice) (noticed : BooleanLogic.check limits inside node = some n) :
    node.isFunction = false := by
  cases node with
  | stmt s =>
    cases s with
    | function => cases noticed
    | _ => rfl
  | _ => rfl

def placedAmong (limits : Settings.BooleanLogic) (outside : Bool) (visits : List Visit) :
    List (List Node × Notice) :=
  (visits.filterMap Visit.arrival?).filterMap fun place =>
    (BooleanLogic.check limits (BooleanLogic.insideFunction outside place.1) place.2).map
      fun n => (place.1, n)

def failing? (l : Listing) (placed : List (List Node × Notice)) : Option (List Node × Notice) :=
  placed.find? fun placed => !((l.publish "" placed.2).toOption.isSome)

theorem walk_stops {visits : List Visit} (follows : Follows around visits out)
    (scopes : Performance.Scopes) (p : Point)
    (stands : Stands outside .booleanLogic scopes around p) :
    (reached (go p (visits.flatMap
        (visitMoves settings sheet .booleanLogic)))).notes.inFunction =
      BooleanLogic.insideFunction outside
        (((failing? sheet.listing
          (placedAmong settings.booleanLogic outside visits)).map Prod.fst).getD out) := by
  induction follows generalizing scopes p with
  | done around => exact (stands.functions rfl).1
  | enter around node visits out _ ih =>
    have arrived := arrive_stands node stands
    have heard := enter_remarks settings sheet.listing scopes arrived
    rw [List.flatMap_cons, go_append, visitMoves, go_two]
    simp only [bind, Except.bind, speak, heard, spoken]
    simp only [placedAmong, List.filterMap_cons, Visit.arrival?]
    cases noticed : BooleanLogic.check settings.booleanLogic
        (BooleanLogic.insideFunction outside around) node with
    | none => exact ih _ _ arrived
    | some n =>
      have known := publish_alike sheet.listing "" sheet.file n
      simp only [Option.map_some, Option.toList_some, List.foldlM_cons, List.foldlM_nil, say, bind,
        Except.bind, failing?, List.find?_cons, known]
      cases sheet.listing.publish sheet.file n with
      | error failure =>
        have answer := (arrived.functions rfl).1
        have plain := noticed_not_function _ _ node n noticed
        simp only [BooleanLogic.insideFunction, List.any_cons, plain, Bool.false_or] at answer
        exact answer
      | ok found => exact ih _ _ (stands_add arrived found.toList)
  | leave around node visits out _ ih =>
    rw [List.flatMap_cons, go_append, visitMoves, go_two]
    exact ih _ _ (depart_stands stands)

theorem ends_inside_failing (limits : Settings.BooleanLogic) (outside : Bool) (l : Listing)
    (module : Module) :
    BooleanLogic.endsInside limits outside l module =
      BooleanLogic.insideFunction outside
        (((failing? l (placedAmong limits outside (module.tree.visits []))).map
          Prod.fst).getD []) := by
  have placed : placedAmong limits outside (module.tree.visits []) =
      BooleanLogic.placedNotices limits outside module := by
    rw [placedAmong, visits_arrivals]
    rfl
  rw [placed, BooleanLogic.endsInside, failing?]
  cases (BooleanLogic.placedNotices limits outside module).find? _ with
  | none => exact (Bool.or_false outside).symm
  | some stop => rfl

end Stops

section Examinations
variable {family : Family} {notes : Notes}

-- The part that each family clears is the part that its walk looks at.
theorem attempt_walk (onTree : family ≠ .duplication) (unwarned : Unwarned family notes)
    (module : Module) :
    ∃ p, Stands notes.inFunction family [] [] p ∧ p.notes.findings = [] ∧
      attempt settings sheet family notes { module } =
        go p (walkMoves settings sheet family module) := by
  cases family with
  | duplication => exact absurd rfl onTree
  | performance =>
    exact ⟨_, ⟨by simp, fun _ => ⟨rfl, rfl, rfl⟩, fun _ => rfl, unwarned (.inl rfl)⟩, rfl, rfl⟩
  | contextManager =>
    exact ⟨_, ⟨by simp, by simp, fun _ => rfl, unwarned (.inr rfl)⟩, rfl, rfl⟩
  | booleanLogic =>
    refine ⟨_, ⟨fun _ => ⟨?_, rfl⟩, by simp, by simp, rfl⟩, rfl, rfl⟩
    exact (Bool.or_false notes.inFunction).symm
  | _ => exact ⟨_, ⟨by simp, by simp, by simp, rfl⟩, rfl, rfl⟩

theorem inspect_walk (onTree : family ≠ .duplication) (unwarned : Unwarned family notes)
    (module : Module) :
    inspect settings sheet family notes module =
      examine settings sheet notes.inFunction module family := by
  obtain ⟨p, stands, cleared, same⟩ := attempt_walk settings sheet onTree unwarned module
  have agree := walk_agrees settings sheet (visits_follow [] module.tree) [] p stands
  rw [said_notices, cleared] at agree
  rw [inspect, same, examine_eq settings sheet _ module family onTree]
  refine agrees_verdict agree (fun findings => { findings }) ?_
  rintro findings q ⟨shown, standing⟩
  rw [shown, standing.unwarned, List.nil_append]

theorem attempt_boolean_walk (notes : Notes) (module : Module) :
    ∃ p, Stands notes.inFunction .booleanLogic [] [] p ∧
      attempt settings sheet .booleanLogic notes { module } =
        go p (walkMoves settings sheet .booleanLogic module) := by
  have onTree : Family.booleanLogic ≠ .duplication := by decide
  have unwarned : Unwarned .booleanLogic notes := by
    rintro (quiet | quiet) <;> cases quiet
  obtain ⟨p, stands, -, same⟩ := attempt_walk settings sheet onTree unwarned module
  exact ⟨p, stands, same⟩

theorem attempt_stops (notes : Notes) (module : Module) :
    (reached (attempt settings sheet .booleanLogic notes { module })).notes.inFunction =
      BooleanLogic.endsInside settings.booleanLogic notes.inFunction sheet.listing module := by
  obtain ⟨p, stands, same⟩ := attempt_boolean_walk settings sheet notes module
  rw [same, walkMoves, walk_stops settings sheet (visits_follow [] module.tree) [] p stands,
    ends_inside_failing]

-- At the end of a walk no node is open, so nothing is put aside.
theorem finished_outside (notes : Notes) (module : Module) (p : Point)
    (finished : attempt settings sheet .booleanLogic notes { module } = .ok p) : p.outer = [] := by
  obtain ⟨q, stands, same⟩ := attempt_boolean_walk settings sheet notes module
  have agree := walk_agrees settings sheet (visits_follow [] module.tree) [] q stands
  rw [same, walkMoves] at finished
  rw [finished] at agree
  obtain ⟨findings, -, standing⟩ := agrees_ends agree
  exact (standing.functions rfl).2

end Examinations

end Rules.Inspector

end RefactorAdvice
