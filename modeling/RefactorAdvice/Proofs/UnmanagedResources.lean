import RefactorAdvice.Proofs.LoopReach
import RefactorAdvice.Proofs.SeparateStatements
import RefactorAdvice.Proofs.SilencingFilter
import RefactorAdvice.Proofs.StatementReports

/-!
Statements that open a resource. Such a statement is reported unless a comment silences the rule
there or a `with` block has it in its body, up to the nearest function. No statement stands in an
item of a `with` block, where a resource would be managed: the block around a statement that goes
unreported has nothing to do with the resource.
-/

namespace RefactorAdvice

namespace Code

section Around

mutual
theorem places_inside {above : List Node} : ∀ {t : Tree}, t.Sound → ∀ {around : List Node}
    {node : Node}, (around, node) ∈ t.places above → ∀ outer ∈ around,
      outer ∈ above ∨ node ∈ preorders outer.tree.branches
  | .node root branches, .node _ _ whole parts, around, node, member, outer, listed => by
    rw [Tree.places, List.mem_cons] at member
    rcases member with same | inside
    · cases same
      exact Or.inl listed
    · rcases branch_places_inside parts inside outer listed with here | below
      · rcases List.mem_cons.mp here with rfl | farther
        · rw [whole]
          have walked := branch_places_preorders (outer :: above) branches
          exact Or.inr (walked ▸ List.mem_map_of_mem inside)
        · exact Or.inl farther
      · exact Or.inr below

theorem branch_places_inside {above : List Node} : ∀ {ts : List Tree}, (∀ t ∈ ts, t.Sound) →
    ∀ {around : List Node} {node : Node}, (around, node) ∈ branchPlaces above ts →
      ∀ outer ∈ around, outer ∈ above ∨ node ∈ preorders outer.tree.branches
  | [], _, _, _, member, _, _ => by cases member
  | t :: rest, sound, around, node, member, outer, listed => by
    rw [branchPlaces, List.mem_append] at member
    rcases member with first | later
    · exact places_inside (sound t List.mem_cons_self) first outer listed
    · exact branch_places_inside (fun t inside => sound t (List.mem_cons_of_mem _ inside)) later
        outer listed
end

end Around

end Code

namespace Rules.ContextManager

open Code

section Openings

/-- A statement that opens a resource: an assignment of a call that opens it, or an expression that
is such a call or calls a method of what one gives. -/
inductive Opens : Stmt → String → Prop
  | assigned {span : Span} {targets : List Expr} {value : Expr} {name : String} :
      opener? value = some name → Opens (.assign span targets value) name
  | called {span : Span} {value : Expr} {name : String} :
      opener? value = some name → Opens (.expr span value) name
  | method {span at_ dot : Span} {receiver : Expr} {attr name : String} {usage : Usage}
      {args : List Expr} {keywords : List (Keyword Expr)} :
      opener? (.call at_ (.attribute dot receiver attr usage) args keywords) = none →
      opener? receiver = some name →
      Opens (.expr span (.call at_ (.attribute dot receiver attr usage) args keywords)) name

theorem opened_iff (node : Node) (span : Span) (name : String) :
    opened? node = some (span, name) ↔ ∃ s, node = .stmt s ∧ s.span = span ∧ Opens s name := by
  constructor
  · intro opened
    unfold opened? at opened
    split at opened
    · obtain ⟨_, named, same⟩ := Option.map_eq_some_iff.mp opened
      cases same
      exact ⟨_, rfl, rfl, .assigned named⟩
    · obtain ⟨_, named, same⟩ := Option.map_eq_some_iff.mp opened
      cases same
      refine ⟨_, rfl, rfl, ?_⟩
      unfold innerOpener? at named
      split at named
      · rename_i direct
        cases named
        exact .called direct
      · rename_i none
        exact .method none named
      · cases named
    · cases opened
  · rintro ⟨s, rfl, rfl, opens⟩
    cases opens with
    | assigned named => simp [opened?, named, Stmt.span]
    | called named => simp [opened?, innerOpener?, named, Stmt.span]
    | method none named => simp [opened?, innerOpener?, none, named, Stmt.span]

end Openings

section Shelter

theorem sheltered_iff (around : List Node) :
    sheltered around = true ↔ ∃ nearer block farther, around = nearer ++ block :: farther ∧
      (∀ node ∈ nearer, node.isFunction = false) ∧ Node.isWith block = true := by
  constructor
  · intro found
    unfold sheltered at found
    obtain ⟨block, listed, isWith⟩ := List.any_eq_true.mp found
    obtain ⟨nearer, later, split⟩ := List.append_of_mem listed
    refine ⟨nearer, block, later ++ around.dropWhile fun node => !node.isFunction, ?_, ?_, isWith⟩
    · rw [← List.cons_append, ← List.append_assoc, ← split, List.takeWhile_append_dropWhile]
    · intro node inside
      have before : node ∈ around.takeWhile fun node => !node.isFunction := by
        rw [split]
        exact List.mem_append_left _ inside
      simpa using List.mem_takeWhile_imp before
  · rintro ⟨nearer, block, farther, rfl, passed, isWith⟩
    have plain : Node.isFunction block = false := by
      cases block with
      | stmt s => cases s <;> first | rfl | cases isWith
      | _ => rfl
    unfold sheltered
    rw [List.takeWhile_append_of_pos (by simpa using passed),
      List.takeWhile_cons_of_pos (by simpa using plain)]
    simp [isWith]

/-- Among the nodes around, up to the nearest function, a `with` block has the statement in its
body. -/
def InWithBody (around : List Node) (s : Stmt) : Prop :=
  ∃ nearer span isAsync items body farther,
    around = nearer ++ .stmt (.withBlock span isAsync items body) :: farther ∧
      (∀ node ∈ nearer, node.isFunction = false) ∧ .stmt s ∈ preorders (stmtTrees body)

theorem item_stmtless (item : WithItem) (s : Stmt) : .stmt s ∉ item.tree.preorder := by
  apply unlisted_of_stmtless
  intro spot
  simp [WithItem.tree, Node.own, expr_stmtless, option_stmtless]

theorem items_unlisted (items : List WithItem) (s : Stmt) :
    .stmt s ∉ preorders (items.map WithItem.tree) := by
  intro member
  obtain ⟨t, listed, inside⟩ := (mem_preorders_iff _ _).mp member
  obtain ⟨item, _, rfl⟩ := List.mem_map.mp listed
  exact item_stmtless item s inside

theorem sheltered_in_body {m : Module} {around : List Node} {s : Stmt}
    (member : (around, .stmt s) ∈ m.tree.places []) :
    sheltered around = true ↔ InWithBody around s := by
  rw [sheltered_iff]
  constructor
  · rintro ⟨nearer, block, farther, split, passed, isWith⟩
    have below := places_inside (module_sound m) member block (by simp [split])
    unfold Node.isWith at isWith
    split at isWith
    · rename_i span isAsync items body
      refine ⟨nearer, span, isAsync, items, body, farther, split, passed, ?_⟩
      rcases below with none | inside
      · cases none
      · change _ ∈ preorders (items.map WithItem.tree ++ stmtTrees body) at inside
        rw [preorders_append, List.mem_append] at inside
        exact inside.resolve_left (items_unlisted items s)
    · cases isWith
  · rintro ⟨nearer, span, isAsync, items, body, farther, split, passed, _⟩
    exact ⟨nearer, _, farther, split, passed, rfl⟩

end Shelter

section Reports

theorem check_eq (around : List Node) {s : Stmt} {name : String} (opens : Opens s name) :
    check around (.stmt s) =
      if sheltered around then none
      else some <| Rule.unmanagedResource.notice s.span
        s!"Resource-allocating operation '{name}' should use 'with' statement"
        s!"Use 'with {name}(...) as resource:' to ensure proper resource cleanup" := by
  unfold check
  rw [(opened_iff (.stmt s) s.span name).mpr ⟨s, rfl, rfl, opens⟩]

theorem check_opens {around : List Node} {node : Node} {n : Notice}
    (checked : check around node = some n) :
    sheltered around = false ∧ ∃ s name, node = .stmt s ∧ n.span = s.span ∧ n.endLine = none ∧
      Opens s name := by
  unfold check at checked
  split at checked
  · cases checked
  · rename_i span name opened
    obtain ⟨s, rfl, rfl, opens⟩ := (opened_iff node span name).mp opened
    split at checked
    · cases checked
    · rename_i bare
      cases checked
      exact ⟨by simpa using bare, s, name, rfl, rfl, rfl, opens⟩

theorem of_openings (m : Module) :
    OfStatements m Prod.snd (fun place => check place.1 place.2) (m.tree.places []) where
  walked := places_preorder [] m.tree
  own := by
    rintro ⟨around, node⟩ n checked
    obtain ⟨_, s, _, is, span, bare, _⟩ := check_opens checked
    exact ⟨s, is, span, bare⟩

/--
In a module that was read, a statement that opens a resource has one report, which names the
resource, if nothing silences the rule there and no `with` block up to the nearest function has the
statement in its body; else it has none. There are no reports but those. No statement stands in an
item of a `with` block, so it is never for its own sake that a block keeps a report away.
-/
theorem unmanaged_reported_iff (names : CharNames) (cs : List Char) (m : Module)
    (read : parse names cs = some m) (settings : Settings) (sheet : Sheet) (outside : Bool) :
    ∃ verdict, examine settings sheet outside m .contextManager = .ok verdict ∧
      (∀ around s name, (around, .stmt s) ∈ m.tree.places [] → Opens s name →
        let here := verdict.findings.filter (·.spot = s.span.spot)
        (¬ InWithBody around s ∧ sheet.listing.silencesAt s.span (some "R001") = false →
          ∃ f, here = [f] ∧ f.rule = "R001" ∧
            f.message = s!"Resource-allocating operation '{name}' should use 'with' statement") ∧
        (InWithBody around s ∨ sheet.listing.silencesAt s.span (some "R001") = true → here = [])) ∧
      (∀ f ∈ verdict.findings, ∃ around s name, (around, .stmt s) ∈ m.tree.places [] ∧
        Opens s name ∧ ¬ InWithBody around s ∧ f.spot = s.span.spot) ∧
      ∀ (item : WithItem) (s : Stmt), .stmt s ∉ item.tree.preorder := by
  obtain ⟨findings, published, each⟩ :=
    statement_reports read (of_openings m) sheet.listing sheet.file
  refine ⟨⟨findings, []⟩, ?_, ?_, ?_, item_stmtless⟩
  · rw [examine_eq _ _ _ _ .contextManager (by decide)]
    exact (bind_ok_iff _ _ _).mpr ⟨findings, published, rfl⟩
  · intro around s name member opens
    have here := each _ member s rfl
    rw [show check _ _ = _ from check_eq around opens] at here
    rw [← sheltered_in_body member]
    constructor
    · rintro ⟨bare, heard⟩
      rw [if_neg bare] at here
      obtain ⟨f, _, alone, _, same⟩ := here.heard _ rfl heard
      exact ⟨f, alone, congrArg Finding.Draft.rule same, congrArg Finding.Draft.message same⟩
    · rintro (covered | silent)
      · rw [if_pos covered] at here
        exact here.unnoticed rfl
      · by_cases covered : sheltered around = true
        · rw [if_pos covered] at here
          exact here.unnoticed rfl
        · rw [if_neg covered] at here
          exact here.silenced _ rfl silent
  · intro f member
    obtain ⟨n, noticed, made⟩ :=
      sheet.listing.publish_all_source sheet.file _ findings published f member
    obtain ⟨⟨around, node⟩, inside, told⟩ := List.mem_filterMap.mp noticed
    obtain ⟨_, checked, same⟩ := Option.map_eq_some_iff.mp told
    cases same
    obtain ⟨bare, s, name, rfl, span, _, opens⟩ := check_opens checked
    refine ⟨around, s, name, inside, opens, ?_, ?_⟩
    · rw [← sheltered_in_body inside, bare]
      exact Bool.false_ne_true
    · rw [← span]
      exact congrArg Sign.spot (publish_sign made)

section Samples

def opensAt (spot : Nat × Nat) (shelter : Bool) (place : List Node × Node) : Bool :=
  match place.2 with
  | .stmt (.assign span _ value) =>
    decide (span.spot = spot ∧ opener? value = some "open") && sheltered place.1 == shelter
  | _ => false

theorem stmt_listed {m : Module} {around : List Node} {s : Stmt}
    (member : (around, .stmt s) ∈ m.tree.places []) : .stmt s ∈ m.tree.preorder := by
  rw [← places_preorder [] m.tree]
  exact List.mem_map_of_mem member

theorem opens_at {spot : Nat × Nat} {shelter : Bool} {place : List Node × Node}
    (holds : opensAt spot shelter place = true) :
    ∃ s, place = (place.1, .stmt s) ∧ s.span.spot = spot ∧ Opens s "open" ∧
      sheltered place.1 = shelter := by
  obtain ⟨around, node⟩ := place
  unfold opensAt at holds
  split at holds
  · rename_i span targets value is
    simp only [Bool.and_eq_true, decide_eq_true_eq, beq_iff_eq] at holds
    obtain ⟨⟨there, named⟩, covered⟩ := holds
    exact ⟨.assign span targets value, congrArg (Prod.mk around) is, there, .assigned named,
      covered⟩
  · cases holds

def withFunction : String := "with a:\n    def f():\n        b = open(c)\n"

theorem unmanaged_reported_iff_function :
    ∃ m verdict f, parse noNames withFunction.toList = some m ∧
      examine {} ⟨"a.py", .ofList []⟩ false m .contextManager = .ok verdict ∧
      verdict.findings.filter (·.spot = (3, 8)) = [f] ∧ f.rule = "R001" := by
  have spelled : (parse noNames withFunction.toList).any
      (fun m => (m.tree.places []).any (opensAt (3, 8) false)) = true := by decide +kernel
  obtain ⟨m, parsed, among⟩ := (Option.any_eq_true _ _).mp spelled
  obtain ⟨⟨around, node⟩, member, holds⟩ := List.any_eq_true.mp among
  obtain ⟨s, is, spot, opens, bare⟩ := opens_at holds
  rw [is] at member
  obtain ⟨verdict, returned, each, _⟩ :=
    unmanaged_reported_iff _ _ m parsed {} ⟨"a.py", .ofList []⟩ false
  have outside : ¬ InWithBody around s := by
    rw [← sheltered_in_body member, bare]
    exact Bool.false_ne_true
  obtain ⟨f, alone, rule, _⟩ :=
    (each around s "open" member opens).1 ⟨outside, Listing.no_lines_silence_at s.span _⟩
  exact ⟨m, verdict, f, parsed, returned, spot ▸ alone, rule⟩

def withOther : String := "with a:\n    b = open(c)\n"

/-- A resource that no `with` block manages and no comment excuses goes unreported, since a block
that manages another has the statement in its body. -/
theorem unmanaged_unreported :
    ∃ m around s, parse noNames withOther.toList = some m ∧ (around, .stmt s) ∈ m.tree.places [] ∧
      Opens s "open" ∧ InWithBody around s ∧
      (Listing.ofList ["with a:", "    b = open(c)"]).silencesAt s.span (some "R001") = false ∧
      examine {} ⟨"a.py", .ofList ["with a:", "    b = open(c)"]⟩ false m .contextManager =
        .ok ⟨[], []⟩ := by
  have spelled : (parse noNames withOther.toList).any (fun m =>
      (notices m).isEmpty && (m.tree.places []).any (opensAt (2, 4) true)) = true := by
    decide +kernel
  obtain ⟨m, parsed, both⟩ := (Option.any_eq_true _ _).mp spelled
  obtain ⟨none, among⟩ := (Bool.and_eq_true _ _).mp both
  obtain ⟨⟨around, node⟩, member, holds⟩ := List.any_eq_true.mp among
  obtain ⟨s, is, spot, opens, covered⟩ := opens_at holds
  rw [is] at member
  refine ⟨m, around, s, parsed, member, opens, (sheltered_in_body member).mp covered, ?_, ?_⟩
  · obtain ⟨line, column, endLine, known, first⟩ :=
      parse_stmt_known parsed (stmt_listed member)
    rw [known, known_spot] at spot
    cases spot
    rw [known, Listing.silencesAt, known_placed first]
    decide +kernel
  · rw [examine_eq _ _ _ _ .contextManager (by decide)]
    change (Listing.publishAll _ _ (notices m) >>= _) = _
    rw [List.isEmpty_iff.mp none]
    rfl

end Samples

end Reports

end Rules.ContextManager

end RefactorAdvice
