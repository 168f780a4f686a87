import RefactorAdvice.Proofs.RepeatedCalls

/-!
What is reported of loops. A loop is given up to four notices, one of each rule, all of them at its
own place. The family fails as a whole where a loop over `range(len(…))` comes upon an integer too
long to be written out while it looks for its collection in the body; else a rule that speaks of the
loops of some kind has one report at each of them that no comment silences, and no others.
-/

namespace RefactorAdvice.Rules.Loops

open Code
open Performance (LoopParts loopParts? loop_parts_iff alike isOf isError)

section Sayings

def Concerns (span : Span) (rule : Rule) (found : Option Notice) : Prop :=
  ∀ n, found = some n → ∃ message suggestion, n = rule.notice span message suggestion

variable {s : Stmt}

theorem range_concerns {target iter : Expr} {body : List Stmt} {found : Option Notice}
    (ranged : rangeLen s.span target iter body = .ok found) : Concerns s.span .rangeLen found := by
  rintro n rfl
  unfold rangeLen at ranged
  split at ranged
  · obtain ⟨signature, _, ranged⟩ := (bind_ok_iff _ _ _).mp ranged
    obtain ⟨known, _, ranged⟩ := (bind_ok_iff _ _ _).mp ranged
    split at ranged
    · cases ranged
      exact ⟨_, _, rfl⟩
    · cases ranged
  · cases ranged

theorem index_concerns (body : List Stmt) :
    Concerns s.span .manualIndex (manualIndex s.span body) := by
  intro n found
  simp only [manualIndex] at found
  split at found
  · cases found
  · cases found
    exact ⟨_, _, rfl⟩

theorem nested_concerns (body : List Stmt) :
    Concerns s.span .nestedLookup (nestedLookup s.span body) := by
  intro n found
  unfold nestedLookup at found
  split at found
  · cases found
    exact ⟨_, _, rfl⟩
  · cases found

theorem invariant_concerns (names : List String) (body : List Stmt) :
    Concerns s.span .loopInvariant (invariant s.span names body) := by
  intro n found
  unfold invariant at found
  split at found
  · cases found
    exact ⟨_, _, rfl⟩
  · cases found

/-- A rule finds its own notices among those that concern a place. -/
theorem concerns_filter {span : Span} {rule : Rule} {found : Option Notice}
    (about : Concerns span rule found) (other : Rule) :
    (found.toList.map Except.ok).filter (isOf other) =
      if rule.code = other.code then found.toList.map .ok else [] := by
  cases found with
  | none => simp
  | some n =>
    obtain ⟨message, suggestion, rfl⟩ := about n rfl
    by_cases same : rule.code = other.code
    · simp [isOf, Rule.notice, same]
    · simp [isOf, Rule.notice, same]

/-- The names that must not be mentioned in a call that is said not to depend on the loop: the one
name of a `for` loop, those in the condition of a `while` loop. -/
def watched? : Stmt → Option (List String)
  | .forLoop _ _ (.name _ id _) _ _ _ => some [id]
  | .whileLoop _ test _ _ => some (test.tree.preorder.filterMap Node.name?)
  | _ => none

def ranged : Stmt → Except Failure (Option Notice)
  | .forLoop span _ target iter body _ => rangeLen span target iter body
  | _ => .ok none

def nested (s : Stmt) : Option Notice :=
  (loopParts? s).bind fun parts => nestedLookup s.span parts.body

def unmoved (s : Stmt) : Option Notice :=
  (loopParts? s).bind fun parts =>
    (watched? s).bind fun names => invariant s.span names parts.body

/-- A loop is given the notices of the four rules, one after the other. -/
theorem check_loop {parts : LoopParts} (made : loopParts? s = some parts) :
    check (.stmt s) = Comparisons.asNotices (ranged s) ++
      ((manualIndex s.span parts.body).toList.map .ok ++
        ((nested s).toList.map .ok ++ (unmoved s).toList.map .ok)) := by
  cases s with
  | forLoop span isAsync target iter body orelse =>
    cases made
    have moved : forInvariant span target body =
        unmoved (.forLoop span isAsync target iter body orelse) := by
      cases target <;> rfl
    rw [check, moved, List.map_append, List.map_append, List.append_assoc]
    rfl
  | whileLoop span test body orelse =>
    cases made
    rw [check, List.map_append, List.map_append, List.append_assoc]
    rfl
  | _ => cases made

theorem check_other (other : loopParts? s = none) : check (.stmt s) = [] := by
  cases s with
  | forLoop | whileLoop => cases other
  | _ => rfl

theorem ranged_concerns {found : Option Notice} (made : ranged s = .ok found) :
    Concerns s.span .rangeLen found := by
  cases s with
  | forLoop span isAsync target iter body orelse =>
    exact range_concerns (s := .forLoop span isAsync target iter body orelse) made
  | _ =>
    cases made
    intro n found
    cases found

theorem nested_said : Concerns s.span .nestedLookup (nested s) := by
  intro n found
  obtain ⟨parts, _, found⟩ := Option.bind_eq_some_iff.mp found
  exact nested_concerns parts.body n found

theorem unmoved_said : Concerns s.span .loopInvariant (unmoved s) := by
  intro n found
  obtain ⟨parts, _, found⟩ := Option.bind_eq_some_iff.mp found
  obtain ⟨names, _, found⟩ := Option.bind_eq_some_iff.mp found
  exact invariant_concerns names parts.body n found

/-- A loop says what stands at its own place, unless it fails over its collection. -/
theorem check_cases {node : Node} {n : Except Failure Notice} (member : n ∈ check node) :
    ∃ s, node = .stmt s ∧ ((∃ failure, n = .error failure ∧ ranged s = .error failure) ∨
      ∃ rule found, Concerns s.span rule (some found) ∧ n = .ok found) := by
  cases node with
  | stmt s =>
    refine ⟨s, rfl, ?_⟩
    cases made : loopParts? s with
    | none =>
      rw [check_other made] at member
      cases member
    | some parts =>
      have told : ∀ {rule : Rule} {found : Option Notice}, Concerns s.span rule found →
          n ∈ found.toList.map Except.ok →
          ∃ rule found, Concerns s.span rule (some found) ∧ n = .ok found := by
        intro rule found about inside
        obtain ⟨notice, listed, rfl⟩ := List.mem_map.mp inside
        exact ⟨rule, notice, Option.mem_toList.mp listed ▸ about, rfl⟩
      rw [check_loop made, List.mem_append, List.mem_append, List.mem_append] at member
      rcases member with first | second | third | fourth
      · cases outcome : ranged s with
        | error failure =>
          rw [outcome] at first
          exact Or.inl ⟨failure, List.mem_singleton.mp first, rfl⟩
        | ok found =>
          rw [outcome] at first
          exact Or.inr (told (ranged_concerns outcome) first)
      · exact Or.inr (told (index_concerns parts.body) second)
      · exact Or.inr (told nested_said third)
      · exact Or.inr (told unmoved_said fourth)
  | _ => cases member

/-- The last two rules speak by themselves. -/
theorem check_filter {rule : Rule} (notRange : Rule.rangeLen.code ≠ rule.code)
    (notIndex : Rule.manualIndex.code ≠ rule.code) :
    (check (.stmt s)).filter (isOf rule) =
      (if Rule.nestedLookup.code = rule.code then (nested s).toList.map .ok else []) ++
        if Rule.loopInvariant.code = rule.code then (unmoved s).toList.map .ok else [] := by
  cases made : loopParts? s with
  | none => simp [check_other made, nested, unmoved, made]
  | some parts =>
    have range : (Comparisons.asNotices (ranged s)).filter (isOf rule) = [] := by
      cases outcome : ranged s with
      | error failure => rfl
      | ok found => exact (concerns_filter (ranged_concerns outcome) rule).trans (if_neg notRange)
    rw [check_loop made, List.filter_append, List.filter_append, List.filter_append, range,
      concerns_filter (index_concerns parts.body), concerns_filter nested_said,
      concerns_filter unmoved_said, if_neg notIndex]
    rfl

theorem nested_sole :
    (check (.stmt s)).filter (isOf .nestedLookup) = (nested s).toList.map .ok := by
  rw [check_filter (by decide) (by decide), if_pos rfl, if_neg (by decide), List.append_nil]

theorem unmoved_sole :
    (check (.stmt s)).filter (isOf .loopInvariant) = (unmoved s).toList.map .ok := by
  rw [check_filter (by decide) (by decide), if_neg (by decide), if_pos rfl, List.nil_append]

end Sayings

section Failing

def indexed (index : String) (body : List Stmt) : List Expr :=
  ((stmtTrees body).flatMap Tree.breadthFirst).filterMap (indexedBy? index)

/-- A loop over the indices of a collection that cannot be sought in the body: there is an integer
too long to be written out in the collection, or in something that the body indexes by the name of
the loop, before anything like the collection. -/
inductive Unwritable : Stmt → Prop
  | collection {span at_ : Span} {isAsync : Bool} {index : String} {usage : Usage}
      {iter collection : Expr} {body orelse : List Stmt} :
      measured? iter = some collection → collection.holdsHuge = true →
      Unwritable (.forLoop span isAsync (.name at_ index usage) iter body orelse)
  | indexed {span at_ : Span} {isAsync : Bool} {index : String} {usage : Usage}
      {iter collection e : Expr} {body orelse : List Stmt} {before after : List Expr} :
      measured? iter = some collection → indexed index body = before ++ e :: after →
      e.holdsHuge = true → (∀ other ∈ before, alike other collection = false) →
      Unwritable (.forLoop span isAsync (.name at_ index usage) iter body orelse)

theorem signature_cases (e : Expr) :
    e.holdsHuge = true ∧ e.signature = .error .hugeInteger ∨
      e.holdsHuge = false ∧ e.signature = .ok (e.tree.preorder.map Node.mark) := by
  rw [Expr.signature]
  cases e.holdsHuge <;> simp

-- The search ends at the first that is alike, and fails at the first that cannot be written out.
theorem any_alike_error_iff (collection : Expr) (es : List Expr) (failure : Failure) :
    anyAlike (collection.tree.preorder.map Node.mark) es = .error failure ↔
      failure = .hugeInteger ∧ ∃ before e after, es = before ++ e :: after ∧
        e.holdsHuge = true ∧ ∀ other ∈ before, alike other collection = false := by
  induction es with
  | nil => simp [anyAlike]
  | cons first rest ih =>
    rw [anyAlike]
    rcases signature_cases first with ⟨huge, failed⟩ | ⟨small, written⟩
    · rw [failed]
      constructor
      · rintro ⟨⟩
        exact ⟨rfl, [], first, rest, rfl, huge, by simp⟩
      · rintro ⟨rfl, _⟩
        rfl
    · rw [written]
      change (if alike first collection = true then Except.ok true else anyAlike _ rest) = _ ↔ _
      split
      · rename_i same
        refine iff_of_false (by simp) ?_
        rintro ⟨_, before, e, after, split, huge, unlike⟩
        rcases List.cons_eq_append_iff.mp split with ⟨rfl, tail⟩ | ⟨others, rfl, _⟩
        · cases tail
          exact Bool.false_ne_true (small.symm.trans huge)
        · exact Bool.false_ne_true ((unlike first List.mem_cons_self).symm.trans same)
      · rename_i apart
        rw [ih]
        refine and_congr_right fun _ => ⟨?_, ?_⟩
        · rintro ⟨before, e, after, rfl, huge, unlike⟩
          refine ⟨first :: before, e, after, rfl, huge, ?_⟩
          exact List.forall_mem_cons.mpr ⟨by simpa using apart, unlike⟩
        · rintro ⟨before, e, after, split, huge, unlike⟩
          rcases List.cons_eq_append_iff.mp split with ⟨rfl, tail⟩ | ⟨others, rfl, tail⟩
          · cases tail
            exact absurd huge (by simp [small])
          · exact ⟨others, e, after, tail, huge, (List.forall_mem_cons.mp unlike).2⟩

/-- A loop over the indices of a collection fails where the search for the collection does. -/
theorem ranged_name_error_iff {span at_ : Span} {isAsync : Bool} {index : String} {usage : Usage}
    {iter collection : Expr} {body orelse : List Stmt} (known : measured? iter = some collection)
    (failure : Failure) :
    ranged (.forLoop span isAsync (.name at_ index usage) iter body orelse) = .error failure ↔
      (collection.signature >>= fun signature => anyAlike signature (indexed index body)) =
        .error failure := by
  simp only [ranged, rangeLen, known]
  cases collection.signature with
  | error other => simp [bind, Except.bind]
  | ok signature =>
    change (anyAlike signature (indexed index body) >>= _) = _ ↔
      anyAlike signature (indexed index body) = _
    cases anyAlike signature (indexed index body) with
    | error other => simp [bind, Except.bind]
    | ok found => cases found <;> exact iff_of_false (by rintro ⟨⟩) (by rintro ⟨⟩)

theorem ranged_error_iff (s : Stmt) (failure : Failure) :
    ranged s = .error failure ↔ failure = .hugeInteger ∧ Unwritable s := by
  constructor
  · intro failed
    cases s with
    | forLoop span isAsync target iter body orelse =>
      have search := failed
      rw [ranged] at failed
      unfold rangeLen at failed
      split at failed
      · rename_i collection at_ index usage known
        rw [ranged_name_error_iff known] at search
        rcases signature_cases collection with ⟨huge, given⟩ | ⟨_, given⟩
        · rw [given] at search
          cases search
          exact ⟨rfl, .collection known huge⟩
        · rw [given] at search
          obtain ⟨rfl, before, e, after, split, huge, unlike⟩ :=
            (any_alike_error_iff collection _ failure).mp search
          exact ⟨rfl, .indexed known split huge unlike⟩
      · cases failed
    | _ => cases failed
  · rintro ⟨rfl, stuck⟩
    cases stuck with
    | collection known huge =>
      rw [ranged_name_error_iff known, Expr.signature, if_pos huge]
      rfl
    | indexed known split huge unlike =>
      rename_i collection _ _ _ _ _
      rw [ranged_name_error_iff known]
      rcases signature_cases collection with ⟨_, given⟩ | ⟨_, given⟩
      · rw [given]
        rfl
      · rw [given]
        exact (any_alike_error_iff collection _ _).mpr ⟨rfl, _, _, _, split, huge, unlike⟩

variable (m : Module)

theorem notices_error_iff (failure : Failure) :
    .error failure ∈ notices m ↔
      failure = .hugeInteger ∧ ∃ s, .stmt s ∈ m.tree.preorder ∧ Unwritable s := by
  rw [notices, List.mem_flatMap]
  constructor
  · rintro ⟨node, listed, member⟩
    obtain ⟨s, rfl, ⟨_, same, failed⟩ | ⟨_, _, _, same⟩⟩ := check_cases member
    · cases same
      obtain ⟨same, stuck⟩ := (ranged_error_iff s failure).mp failed
      exact ⟨same, s, listed, stuck⟩
    · cases same
  · rintro ⟨same, s, listed, stuck⟩
    refine ⟨.stmt s, listed, ?_⟩
    obtain ⟨parts, made⟩ := (loop_parts_iff s).mp (by cases stuck <;> rfl)
    rw [check_loop made, (ranged_error_iff s failure).mpr ⟨same, stuck⟩]
    exact List.mem_append_left _ (List.mem_singleton_self _)

theorem writable_of_quiet {m : Module} (quiet : (notices m).all (!isError ·) = true) :
    ¬ ∃ s, .stmt s ∈ m.tree.preorder ∧ Unwritable s := by
  intro stuck
  cases List.all_eq_true.mp quiet _ ((notices_error_iff m .hugeInteger).mpr ⟨rfl, stuck⟩)

end Failing

section Reports

structure LoopRule where
  rule : Rule
  message : String
  suggestion : String
  kind : Stmt → Prop

variable {r : LoopRule} {pick : Stmt → Option Notice}

def LoopRule.notice (r : LoopRule) (s : Stmt) : Notice :=
  r.rule.notice s.span r.message r.suggestion

structure Follows (r : LoopRule) (pick : Stmt → Option Notice) : Prop where
  sole : ∀ s, (check (.stmt s)).filter (isOf r.rule) = (pick s).toList.map .ok
  said : ∀ s n, pick s = some n ↔ r.kind s ∧ n = r.notice s

structure Reports (l : Listing) (file : String) (m : Module) (r : LoopRule)
    (findings : List Finding) : Prop where
  told : ∀ s, .stmt s ∈ m.tree.preorder → r.kind s →
    l.silencesAt s.span (some r.rule.code) = false →
    ∃ f line, findings.filter (fun f => f.rule = r.rule.code ∧ f.spot = s.span.spot) = [f] ∧
      s.span.placed = some line ∧ f.draft = l.draftOf file (r.notice s) line
  untold : ∀ s, .stmt s ∈ m.tree.preorder →
    ¬ r.kind s ∨ l.silencesAt s.span (some r.rule.code) = true →
    findings.filter (fun f => f.rule = r.rule.code ∧ f.spot = s.span.spot) = []
  only : ∀ f ∈ findings, f.rule = r.rule.code →
    ∃ s, .stmt s ∈ m.tree.preorder ∧ r.kind s ∧ f.spot = s.span.spot

def pickAt (pick : Stmt → Option Notice) : Node → Option Notice
  | .stmt s => pick s
  | _ => none

structure PickedReports (l : Listing) (file : String) (m : Module) (rule : Rule)
    (pick : Stmt → Option Notice) (findings : List Finding) : Prop where
  told : ∀ s n, .stmt s ∈ m.tree.preorder → pick s = some n →
    l.silencesAt s.span (some rule.code) = false →
    ∃ f line, findings.filter (fun f => f.rule = rule.code ∧ f.spot = s.span.spot) = [f] ∧
      s.span.placed = some line ∧ f.draft = l.draftOf file n line
  untold : ∀ s, .stmt s ∈ m.tree.preorder →
    pick s = none ∨ l.silencesAt s.span (some rule.code) = true →
    findings.filter (fun f => f.rule = rule.code ∧ f.spot = s.span.spot) = []
  only : ∀ f ∈ findings, f.rule = rule.code →
    ∃ s n, .stmt s ∈ m.tree.preorder ∧ pick s = some n ∧ f.spot = s.span.spot

def PicksOwn (rule : Rule) (pick : Stmt → Option Notice) : Prop :=
  ∀ s n, pick s = some n → n.span = s.span ∧ n.rule = rule.code ∧ n.endLine = none

theorem of_picked {rule : Rule} (own : PicksOwn rule pick) (m : Module) :
    OfStatements m id (pickAt pick) m.tree.preorder where
  walked := List.map_id _
  own := by
    intro node n picked
    cases node with
    | stmt s => exact ⟨s, rfl, (own s n picked).1, (own s n picked).2.2⟩
    | _ => cases picked

theorem picked_reports {names : CharNames} {cs : List Char} {m : Module}
    (read : parse names cs = some m) {l : Listing} {file : String} {rule : Rule}
    {check : Node → Notices} (own : PicksOwn rule pick)
    (sole : ∀ node, (check node).filter (isOf rule) = (pickAt pick node).toList.map .ok)
    {findings : List Finding}
    (published : l.publishAll file (m.tree.preorder.flatMap check) = .ok findings) :
    PickedReports l file m rule pick findings := by
  have chosen : l.publishAll file (m.tree.preorder.filterMap fun node =>
      (pickAt pick node).map .ok) = .ok (findings.filter (·.rule == rule.code)) := by
    have kept : (m.tree.preorder.flatMap check).filter (isOf rule) =
        m.tree.preorder.filterMap fun node => (pickAt pick node).map .ok := by
      rw [List.filter_flatMap, List.filterMap_eq_flatMap_toList]
      congr 1
      funext node
      rw [sole]
      cases pickAt pick node <;> rfl
    rw [← kept]
    apply l.publish_all_filter file _ _ _ published
    intro n f made
    rw [show f.rule = n.rule from congrArg Sign.rule (publish_sign made)]
    rfl
  obtain ⟨others, same, each⟩ := statement_reports read (of_picked own m) l file
  cases chosen.symm.trans same
  have both : ∀ s : Stmt,
      findings.filter (fun f => f.rule = rule.code ∧ f.spot = s.span.spot) =
        (findings.filter (·.rule == rule.code)).filter (·.spot = s.span.spot) := by
    intro s
    rw [List.filter_filter]
    congr 1
    funext f
    simp [Bool.and_comm, Bool.beq_eq_decide_eq]
  constructor
  · intro s n listed picked heard
    rw [both]
    apply (each _ listed s rfl).heard n picked
    rw [(own s n picked).2.1]
    exact heard
  · intro s listed other
    rw [both]
    cases picked : pickAt pick (.stmt s) with
    | none => exact (each _ listed s rfl).unnoticed picked
    | some n =>
      apply (each _ listed s rfl).silenced n picked
      rw [(own s n picked).2.1]
      exact other.resolve_left fun none => by cases picked.symm.trans none
  · intro f member named
    have kept : f ∈ findings.filter (·.rule == rule.code) :=
      List.mem_filter.mpr ⟨member, by simpa using named⟩
    obtain ⟨n, noticed, made⟩ := l.publish_all_source file _ _ chosen f kept
    obtain ⟨node, listed, told⟩ := List.mem_filterMap.mp noticed
    obtain ⟨_, picked, same⟩ := Option.map_eq_some_iff.mp told
    cases same
    cases node with
    | stmt s =>
      refine ⟨s, n, listed, picked, ?_⟩
      rw [← (own s n picked).1]
      exact congrArg Sign.spot (publish_sign made)
    | _ => cases picked

theorem check_at_nodes : AtNodes check := by
  intro node n member
  obtain ⟨s, rfl, ⟨_, same, _⟩ | ⟨rule, _, about, same⟩⟩ := check_cases member
  · cases same
  · cases same
    obtain ⟨message, suggestion, rfl⟩ := about n rfl
    exact ⟨s.span, rfl, rule, message, suggestion, rfl⟩

variable {names : CharNames} {cs : List Char} {m : Module} (read : parse names cs = some m)
  (l : Listing) (file : String)

include read

theorem loops_examined (settings : Settings) (sheet : Sheet) (outside : Bool)
    (short : ¬ ∃ s, .stmt s ∈ m.tree.preorder ∧ Unwritable s) :
    ∃ verdict, examine settings sheet outside m .loops = .ok verdict ∧
      sheet.listing.publishAll sheet.file (notices m) = .ok verdict.findings := by
  rcases examination_ends read .loops check_at_nodes settings sheet outside (by decide) rfl with
    ⟨node, listed, failure, failing, _⟩ | ⟨_, found⟩
  · have stuck := (notices_error_iff m failure).mp (List.mem_flatMap.mpr ⟨node, listed, failing⟩)
    exact absurd stuck.2 short
  · exact found

theorem loops_examination_fails (settings : Settings) (sheet : Sheet) (outside : Bool) {s : Stmt}
    (listed : .stmt s ∈ m.tree.preorder) (stuck : Unwritable s) :
    examine settings sheet outside m .loops = .error .hugeInteger := by
  rcases examination_ends read .loops check_at_nodes settings sheet outside (by decide) rfl with
    ⟨node, inside, failure, failing, failed⟩ | ⟨sound, _⟩
  · have same := (notices_error_iff m failure).mp (List.mem_flatMap.mpr ⟨node, inside, failing⟩)
    exact same.1 ▸ failed
  · obtain ⟨node, inside, failing⟩ :=
      List.mem_flatMap.mp ((notices_error_iff m _).mpr ⟨rfl, s, listed, stuck⟩)
    exact absurd failing (sound node inside _)

theorem loop_rule_reports (follows : Follows r pick) {findings : List Finding}
    (published : l.publishAll file (notices m) = .ok findings) : Reports l file m r findings := by
  have own : PicksOwn r.rule pick := by
    intro s n picked
    obtain ⟨_, rfl⟩ := (follows.said s n).mp picked
    exact ⟨rfl, rfl, rfl⟩
  have sole : ∀ node, (check node).filter (isOf r.rule) = (pickAt pick node).toList.map .ok := by
    intro node
    cases node with
    | stmt s => exact follows.sole s
    | _ => rfl
  have reports := picked_reports read own sole published
  constructor
  · intro s listed kind heard
    exact reports.told s _ listed ((follows.said s _).mpr ⟨kind, rfl⟩) heard
  · intro s listed other
    apply reports.untold s listed
    refine other.imp_left fun unkind => Option.eq_none_iff_forall_ne_some.mpr fun n picked => ?_
    exact unkind ((follows.said s n).mp picked).1
  · intro f member named
    obtain ⟨s, n, listed, picked, spot⟩ := reports.only f member named
    exact ⟨s, listed, ((follows.said s n).mp picked).1, spot⟩

end Reports

end RefactorAdvice.Rules.Loops
