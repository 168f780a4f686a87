import RefactorAdvice.Proofs.Containment
import RefactorAdvice.Proofs.DuplicateReports
import RefactorAdvice.Proofs.LoopReach
import RefactorAdvice.Proofs.NoticeSubjects
import RefactorAdvice.Proofs.Positions.Statements

/-!
No finding is reported twice, but for what is said of loops. What a rule says of a node shows the
node's key, and no two nodes bear the same; so under one sign there is one finding at most. What is
said when a loop is left shows a node in the loop. It is said again by every loop around, and by
every call that starts at one place with another: those are the ways to a second, equal finding.
-/

namespace RefactorAdvice

namespace Code

section Visits

def Visit.node : Visit → Node
  | .enter _ node => node
  | .leave _ node => node

mutual
theorem visits_mem (around : List Node) :
    ∀ (t : Tree) (visit : Visit), visit ∈ t.visits around → visit.node ∈ t.preorder
  | .node root branches, visit, member => by
    rw [Tree.visits, List.mem_append, List.mem_cons, List.mem_singleton] at member
    rcases member with (rfl | inside) | rfl
    · exact List.mem_cons_self
    · exact List.mem_cons_of_mem root (branch_visits_mem _ branches visit inside)
    · exact List.mem_cons_self

theorem branch_visits_mem (around : List Node) :
    ∀ (ts : List Tree) (visit : Visit),
      visit ∈ branchVisits around ts → visit.node ∈ preorders ts
  | [], _, member => by cases member
  | t :: rest, visit, member => by
    rcases List.mem_append.mp member with first | later
    · exact List.mem_append_left _ (visits_mem around t visit first)
    · exact List.mem_append_right _ (branch_visits_mem around rest visit later)
end

variable (arriving leaving : Node → Nat)

def visitWeight : Visit → Nat
  | .enter _ node => arriving node
  | .leave _ node => leaving node

mutual
theorem visits_total (around : List Node) : ∀ t : Tree,
    total (visitWeight arriving leaving) (t.visits around) =
      total arriving t.preorder + total leaving t.preorder
  | .node root branches => by
    have inside := branch_visits_total (root :: around) branches
    simp only [Tree.visits, Tree.preorder, total_append, total_cons, total_nil, visitWeight, inside]
    omega

theorem branch_visits_total (around : List Node) : ∀ ts : List Tree,
    total (visitWeight arriving leaving) (branchVisits around ts) =
      total arriving (preorders ts) + total leaving (preorders ts)
  | [] => rfl
  | t :: rest => by
    have first := visits_total around t
    have more := branch_visits_total around rest
    simp only [branchVisits, preorders, total_append, first, more]
    omega
end

end Visits

end Code

open Code

namespace Rules

variable {sign : Sign} {count : Int}

section Departures

open Performance

variable {limits : Settings.Performance} {silent : Span → Rule → Bool} {nodes : List Node}

theorem concatenation_shown (scopes : Scopes) :
    shown sign ((concatenation limits silent scopes nodes).toList.map .ok) ≤
      total (fun node => due sign count node .textConcatenation) nodes := by
  cases found : concatenation limits silent scopes nodes with
  | none => exact Nat.zero_le _
  | some n =>
    have stands : ∃ node ∈ nodes, Speaks count node .textConcatenation n := by
      simp only [concatenation] at found
      split at found
      · cases found
      · rename_i last ends
        split at found
        · cases found
          have listed := List.mem_of_getLast? ends
          obtain ⟨node, inside, grown⟩ := List.mem_filterMap.mp (List.mem_filter.mp listed).1
          refine ⟨node, inside, rfl, ?_⟩
          unfold textGrowth? at grown
          split at grown
          · split at grown
            · cases grown
              exact stmt_own (.augAssign _ _ _ _)
            · cases grown
          · cases grown
        · cases found
    obtain ⟨node, inside, speaks⟩ := stands
    have one : Within sign count node [.textConcatenation] [.ok n] :=
      within_one fun _ => ⟨_, List.mem_singleton_self _, speaks⟩
    have paid := cost_le_total (fun node => due sign count node .textConcatenation) inside
    exact Nat.le_trans one paid

theorem join_firsts (signature : List Mark) (span : Span) (found : List Group) :
    ((join signature span found).map (·.first)).Sublist (found.map (·.first) ++ [span]) := by
  induction found with
  | nil => exact List.Sublist.refl _
  | cons group rest ih =>
    unfold join
    split
    · exact List.sublist_append_left _ _
    · exact ih.cons_cons group.first

theorem groups_firsts {calls : List (Span × Expr)} {found : List Group}
    (made : groups calls = .ok found) : (found.map (·.first)).Sublist (calls.map (·.1)) := by
  have grown : ∀ step : List Group → Span × Expr → Except Failure (List Group),
      (∀ old call next, step old call = .ok next →
        (next.map (·.first)).Sublist (old.map (·.first) ++ [call.1])) →
      ∀ (calls : List (Span × Expr)) (old found : List Group), calls.foldlM step old = .ok found →
        (found.map (·.first)).Sublist (old.map (·.first) ++ calls.map (·.1)) := by
    intro step steps calls
    induction calls with
    | nil =>
      intro old found same
      cases same
      simp
    | cons call rest ih =>
      intro old found folded
      rw [List.foldlM_cons] at folded
      obtain ⟨next, joined, folded⟩ := (bind_ok_iff _ _ _).mp folded
      have first := (steps old call next joined).append_right (rest.map (·.1))
      simpa using (ih next found folded).trans first
  have joins := grown _ ?_ calls [] found made
  · simpa using joins
  · rintro old ⟨span, call⟩ next joined
    obtain ⟨signature, _, same⟩ := (bind_ok_iff _ _ _).mp joined
    cases same
    exact join_firsts signature span old

theorem group_notices_shown (text : Group → String) (suggestion : String) (found : List Group) :
    shown sign (found.map fun group =>
        .ok (Rule.repeatedCall.notice group.first (text group) suggestion)) ≤
      if sign.rule = Rule.repeatedCall.code then
        (found.map (·.first.spot)).count sign.spot else 0 := by
  induction found with
  | nil => exact Nat.zero_le _
  | cons group rest ih =>
    rw [List.map_cons, shown_cons, List.map_cons, List.count_cons]
    by_cases same : (Rule.repeatedCall.notice group.first (text group) suggestion).sign = sign
    · have told : sign.rule = Rule.repeatedCall.code := congrArg Sign.rule same.symm
      have here : group.first.spot = sign.spot := congrArg Sign.spot same
      rw [if_pos told] at ih ⊢
      rw [if_pos same, here, beq_self_eq_true, if_pos rfl]
      omega
    · rw [if_neg same]
      split at ih <;> rename_i told
      · rw [if_pos told]
        omega
      · rw [if_neg told]
        omega

theorem repeated_calls_shown :
    shown sign (repeatedCalls limits silent nodes) ≤
      if sign.rule = Rule.repeatedCall.code then (callSpots nodes).count sign.spot else 0 := by
  unfold repeatedCalls
  dsimp only
  split
  · exact Nat.zero_le _
  · rename_i found made
    apply Nat.le_trans (group_notices_shown _ _ _)
    split
    · apply List.Sublist.count_le
      have firsts := (groups_firsts made).map Span.spot
      have heard := (List.filter_sublist (l := nodes.filterMap callSpan?)
        (p := fun call => !silent call.1 .repeatedCall)).map fun call => call.1.spot
      have enough := (List.filter_sublist (l := found)
        (p := fun group => decide (limits.minDuplicateCalls ≤ group.count))).map (·.first.spot)
      rw [List.map_map, List.map_map] at firsts
      exact (enough.trans firsts).trans heard
    · exact Nat.le_refl 0

-- Under the sign of a repeated call the calls of the loop start apart, so the one at the place of
-- the sign is the first there and bears its key.
theorem departure_shown (scopes : Scopes) (around : List Node) (node : Node)
    (calls : sign.rule = Rule.repeatedCall.code → node.isLoop = true →
      (callSpots (loopNodes node)).Nodup) :
    shown sign (Performance.check limits silent scopes (.leave around node)) ≤
      loopWeight (fun n => total (due sign count n) Family.performance.loopRules) node := by
  have leaves : Performance.check limits silent scopes (.leave around node) =
      if node.isLoop then ((concatenation limits silent scopes (loopNodes node)).map .ok).toList ++
        repeatedCalls limits silent (loopNodes node) else [] := rfl
  rw [leaves]
  unfold loopWeight
  split
  · rename_i loop
    have grown : shown sign ((concatenation limits silent scopes (loopNodes node)).toList.map .ok) ≤
        total (fun n => due sign count n .textConcatenation) (loopNodes node) :=
      concatenation_shown scopes
    have repeated : shown sign (repeatedCalls limits silent (loopNodes node)) ≤
        total (fun n => due sign count n .repeatedCall) (loopNodes node) := by
      apply Nat.le_trans repeated_calls_shown
      split
      · rename_i told
        have apart := calls told loop
        have single := List.nodup_iff_count_le_one.mp apart sign.spot
        by_cases member : sign.spot ∈ callSpots (loopNodes node)
        · have first := loop_first_call node sign.spot apart member
          have same : (fun n => due sign count n .repeatedCall) = Node.own ⟨.call, sign.spot⟩ :=
            funext fun n => if_pos told
          rw [same]
          omega
        · rw [List.count_eq_zero.mpr member]
          exact Nat.zero_le _
      · exact Nat.zero_le _
    have two : (fun n => total (due sign count n) Family.performance.loopRules) =
        fun n => due sign count n .textConcatenation + due sign count n .repeatedCall :=
      rfl
    rw [two, total_add, Option.toList_map, shown_append]
    omega
  · exact Nat.zero_le _

end Departures

section Families

open Inspector

/-- The sign of a loop is shown once where loops, and for a repeated call also the calls of a loop,
lie apart. -/
structure Apart (sign : Sign) (nodes : List Node) : Prop where
  loops : sign.rule = Rule.textConcatenation.code ∨ sign.rule = Rule.repeatedCall.code →
    LoopsApart nodes
  calls : sign.rule = Rule.repeatedCall.code → CallsApart nodes

variable (settings : Settings) (listing : Listing) (outside : Bool) (module : Module)
  (family : Family)

theorem said_shown (nodes : List Node)
    (calls : sign.rule = Rule.repeatedCall.code → CallsApart nodes)
    (told : ∀ other, sign.message =
      crowdMessage settings.booleanLogic.maxBooleanOperators other → other = count)
    (scopes : Performance.Scopes) (visits : List Visit)
    (inside : ∀ visit ∈ visits, visit.node ∈ nodes) :
    shown sign (said settings listing outside family scopes visits) ≤
      total (visitWeight (fun node => total (due sign count node) family.nodeRules)
        (loopWeight fun node => total (due sign count node) family.loopRules)) visits := by
  induction visits generalizing scopes with
  | nil => exact Nat.le_refl 0
  | cons visit rest ih =>
    obtain ⟨here, more⟩ := List.forall_mem_cons.mp inside
    have later := ih (scopes.step visit) more
    have first : shown sign (spoken settings listing outside scopes family visit) ≤
        visitWeight (fun node => total (due sign count node) family.nodeRules)
          (loopWeight fun node => total (due sign count node) family.loopRules) visit := by
      cases visit with
      | enter around node => exact arrival_within settings listing outside scopes family around told
      | leave around node =>
        cases family with
        | performance =>
          exact departure_shown scopes around node fun same loop => calls same node here loop
        | _ => exact Nat.zero_le _
    rw [said, shown_append, total_cons]
    omega

theorem rule_total (tree : Tree) (rule : Rule) :
    total (fun node => due sign count node rule) tree.preorder =
      if sign.rule = rule.code then
        tree.tally ⟨rule.subject sign.message count, sign.spot⟩ else 0 := by
  unfold due
  split
  · rfl
  · exact total_zero _

theorem rules_total (single : ∀ k, module.tree.tally k ≤ 1) (rules : List Rule) :
    total (fun node => total (due sign count node) rules) module.tree.preorder ≤
      (rules.map Rule.code).count sign.rule := by
  rw [total_swap]
  induction rules with
  | nil => exact Nat.le_refl 0
  | cons rule rest ih =>
    rw [total_cons, rule_total, List.map_cons, List.count_cons]
    have once := single ⟨rule.subject sign.message count, sign.spot⟩
    by_cases same : sign.rule = rule.code
    · rw [if_pos same, ← same, beq_self_eq_true, if_pos rfl]
      omega
    · rw [if_neg same]
      omega

theorem unlisted_due (node : Node) (rules : List Rule)
    (unlisted : sign.rule ∉ rules.map Rule.code) :
    total (due sign count node) rules = 0 := by
  induction rules with
  | nil => rfl
  | cons rule rest ih =>
    rw [List.map_cons, List.mem_cons, not_or] at unlisted
    rw [total_cons, ih unlisted.2, due, if_neg unlisted.1]

theorem loop_rules_total (single : ∀ k, module.tree.tally k ≤ 1)
    (apart : Apart sign module.tree.preorder) :
    total (loopWeight fun node => total (due sign count node) family.loopRules)
      module.tree.preorder ≤ (family.loopRules.map Rule.code).count sign.rule := by
  by_cases listed : sign.rule ∈ family.loopRules.map Rule.code
  · have loops : LoopsApart module.tree.preorder := by
      apply apart.loops
      cases family with
      | performance => simpa [Family.loopRules] using listed
      | _ => cases listed
    exact Nat.le_trans (loop_weights_le _ module.tree (module_sound module) loops).1
      (rules_total module single family.loopRules)
  · have silent : (fun node => total (due sign count node) family.loopRules) = fun _ => 0 :=
      funext fun node => unlisted_due node family.loopRules listed
    have none : loopWeight (fun _ => 0) = fun _ => 0 :=
      funext fun node => by simp [loopWeight]
    rw [silent, none, total_zero]
    exact Nat.zero_le _

theorem family_shown (single : ∀ k, module.tree.tally k ≤ 1)
    (apart : Apart sign module.tree.preorder) :
    shown sign (notices settings listing outside module family) ≤
      ((family.nodeRules ++ family.loopRules).map Rule.code).count sign.rule := by
  -- Of a crowded operation the message tells how many operators it has.
  obtain ⟨count, told⟩ : ∃ count : Int, ∀ other, sign.message =
      crowdMessage settings.booleanLogic.maxBooleanOperators other → other = count := by
    by_cases tells : ∃ count : Int, sign.message =
        crowdMessage settings.booleanLogic.maxBooleanOperators count
    · obtain ⟨count, same⟩ := tells
      exact ⟨count, fun other also => crowd_message_injective (also.symm.trans same)⟩
    · exact ⟨0, fun other also => absurd ⟨other, also⟩ tells⟩
  have heard := said_shown settings listing outside family module.tree.preorder apart.calls told []
    (module.tree.visits []) (visits_mem [] module.tree)
  rw [said_notices, visits_total] at heard
  have nodes : total (fun node => total (due sign count node) family.nodeRules) _ ≤ _ :=
    rules_total module single family.nodeRules
  have loops : total (loopWeight fun node => total (due sign count node) family.loopRules) _ ≤ _ :=
    loop_rules_total module family single apart
  rw [List.map_append, List.count_append]
  omega

theorem duplication_signs {bounds : Duplication.Bounds} {limits : Settings.Duplication}
    {l : Listing} {file : String} {found : Duplication.Outcome}
    (searched : Duplication.search bounds limits l file module = .ok found) (sign : Sign) :
    (found.findings.map Finding.sign).count sign ≤
      (Family.duplication.nodeRules.map Rule.code).count sign.rule := by
  obtain ⟨_, made⟩ := Duplication.search_ok bounds limits l file module found searched
  have shows : ∀ f ∈ found.findings,
      f.rule = Rule.duplicateBlock.code ∧ ∃ last, f.endLine = some last := by
    intro f member
    obtain ⟨pair, _, given⟩ := map_ok_source _ _ _ made f member
    obtain ⟨rule, _, ends, _⟩ := Duplication.finding_shows l file pair.1 pair.2 f given
    obtain ⟨last, same, _⟩ := Option.map_eq_some_iff.mp ends
    exact ⟨rule, last, same⟩
  have apart := Duplication.findings_apart bounds limits l file module found searched
  have distinct : (found.findings.map Finding.sign).Nodup := by
    rw [List.Nodup, List.pairwise_map]
    apply apart.imp_of_mem
    intro f g first second separate same
    obtain ⟨_, last, ends⟩ := shows f first
    obtain ⟨_, stop, stops⟩ := shows g second
    have line : f.line = g.line := congrArg (fun sign => sign.spot.1) same
    have before := f.line_le_end last ends
    have after := g.line_le_end stop stops
    have aside := separate last stop ends stops
    unfold Duplication.Apart at aside
    omega
  have once := List.nodup_iff_count_le_one.mp distinct sign
  by_cases member : sign ∈ found.findings.map Finding.sign
  · obtain ⟨f, inside, same⟩ := List.mem_map.mp member
    have rule : sign.rule = Rule.duplicateBlock.code := same ▸ (shows f inside).1
    rw [rule]
    exact once
  · rw [List.count_eq_zero.mpr member]
    exact Nat.zero_le _

theorem family_signs (sheet : Sheet) (single : ∀ k, module.tree.tally k ≤ 1)
    (apart : Apart sign module.tree.preorder) :
    ((leftFindings (examine settings sheet outside module family)).map Finding.sign).count sign ≤
      ((family.nodeRules ++ family.loopRules).map Rule.code).count sign.rule := by
  by_cases onTree : family = .duplication
  · subst onTree
    cases searched : Duplication.search Duplication.usualBounds settings.duplication sheet.listing
        sheet.file module with
    | error failure =>
      simp only [examine, searched]
      exact Nat.zero_le _
    | ok found =>
      simp only [examine, searched]
      exact duplication_signs module searched sign
  · rw [examine_eq settings sheet outside module family onTree]
    cases published : sheet.listing.publishAll sheet.file
        (notices settings sheet.listing outside module family) with
    | error failure => exact Nat.zero_le _
    | ok findings =>
      exact Nat.le_trans (published_shown sign published)
        (family_shown settings sheet.listing outside module family single apart)

end Families

end Rules

section Analyses

open Rules

theorem codes_distinct :
    ((Family.all.flatMap fun family => family.nodeRules ++ family.loopRules).map
      Rule.code).Nodup := by
  decide

theorem examined_signs (settings : Settings) (sheet : Sheet) (module : Module)
    (single : ∀ k, module.tree.tally k ≤ 1) (sign : Sign)
    (apart : Rules.Apart sign module.tree.preorder) :
    (((Family.all.filter settings.runs).flatMap fun family => leftFindings
      (Conduct.usual settings family sheet module)).map Finding.sign).count sign ≤ 1 := by
  have each : ∀ families : List Family,
      ((families.flatMap fun family =>
        leftFindings (Conduct.usual settings family sheet module)).map Finding.sign).count sign ≤
      ((families.flatMap fun family => family.nodeRules ++ family.loopRules).map Rule.code).count
        sign.rule := by
    intro families
    induction families with
    | nil => exact Nat.le_refl 0
    | cons family rest ih =>
      have first := family_signs settings false module family sheet single apart
      simp only [List.flatMap_cons, List.map_append, List.count_append] at ih first ⊢
      unfold Conduct.usual at ih ⊢
      omega
  have enabled := (List.filter_sublist (l := Family.all) (p := settings.runs)).flatMap
    fun family => family.nodeRules ++ family.loopRules
  calc
    _ ≤ _ := each (Family.all.filter settings.runs)
    _ ≤ _ := (enabled.map Rule.code).count_le sign.rule
    _ ≤ 1 := List.nodup_iff_count_le_one.mp codes_distinct sign.rule

theorem opened_findings (names : CharNames) (store : Store) (settings : Settings) (path : Path)
    (text : List Char) (module : Module) (opened : store.Opens names path text module) :
    ((Plan.usual names store settings).read path).1.findings =
      (Family.all.filter settings.runs).flatMap fun family =>
        leftFindings (Conduct.usual settings family ⟨path.text, .ofText text⟩ module) := by
  have read := read_opened (Plan.usual names store settings) path text module _ opened rfl
  exact (congrArg Analysis.findings read).trans
    (examined_findings path.text text settings (.usual settings) module)

theorem distinct_of_signs (findings : List Finding) (p : Finding → Bool)
    (once : ∀ f, p f = true → (findings.map Finding.sign).count f.sign ≤ 1) :
    (findings.filter p).Nodup := by
  rw [List.nodup_iff_count_le_one]
  intro f
  by_cases kept : p f = true
  · rw [List.count_filter kept]
    exact Nat.le_trans List.count_le_count_map (once f kept)
  · have gone : f ∉ findings.filter p := fun member => kept (List.mem_filter.mp member).2
    rw [List.count_eq_zero.mpr gone]
    exact Nat.zero_le 1

/--
In a file that is read and whose replacement fields have their true places, no two findings are
equal, but for those on texts grown and on calls repeated in a loop. Where no loop reaches another,
those on grown texts are apart as well, and where moreover no two calls of a loop start at one
place, all are.
-/
theorem findings_distinct (names : CharNames) (store : Store) (settings : Settings) (path : Path)
    (text : List Char) (module : Module) (opened : store.Opens names path text module)
    (placed : FieldsPlaced text) :
    let findings := ((Plan.usual names store settings).read path).1.findings
    (findings.filter fun f => f.rule != "P001" && f.rule != "P007").Nodup ∧
      (LoopsApart module.tree.preorder → (findings.filter fun f => f.rule != "P007").Nodup) ∧
      (LoopsApart module.tree.preorder → CallsApart module.tree.preorder → findings.Nodup) := by
  intro findings
  have single : ∀ k, module.tree.tally k ≤ 1 := parse_tally_le_one opened.parsed placed
  have heard := opened_findings names store settings path text module opened
  have once : ∀ sign, Rules.Apart sign module.tree.preorder →
      (findings.map Finding.sign).count sign ≤ 1 := by
    simp only [findings, heard]
    exact examined_signs settings _ module single
  refine ⟨?_, fun loops => ?_, fun loops calls => ?_⟩
  · apply distinct_of_signs
    intro f other
    rw [Bool.and_eq_true, bne_iff_ne, bne_iff_ne] at other
    exact once f.sign ⟨fun same => absurd same (not_or.mpr other), fun same => absurd same other.2⟩
  · apply distinct_of_signs
    intro f other
    rw [bne_iff_ne] at other
    exact once f.sign ⟨fun _ => loops, fun same => absurd same other⟩
  · have all := distinct_of_signs findings (fun _ => true)
      fun f _ => once f.sign ⟨fun _ => loops, fun _ => calls⟩
    rwa [List.filter_true] at all

section Samples

def loneSource (text : String) : Store where
  entries := [(["a.py"], .file text.toUTF8)]

def foundIn (text : String) : List Finding :=
  ((Plan.usual noNames (loneSource text) {}).read ⟨"", ["a.py"]⟩).1.findings

variable {text : String} {module : Module}

theorem lone_source_opens (decoded : Plan.source text.toUTF8 = .ok text.toList)
    (parsed : parse noNames text.toList = some module) :
    (loneSource text).Opens noNames ⟨"", ["a.py"]⟩ text.toList module :=
  ⟨⟨text.toUTF8, lone_file_read _, decoded⟩, parsed⟩

-- To find all that is found in a text takes long; one family is enough for what follows.
theorem family_part (decoded : Plan.source text.toUTF8 = .ok text.toList)
    (parsed : parse noNames text.toList = some module) (family : Family)
    (runs : ({} : Settings).runs family = true) :
    (leftFindings (Conduct.usual {} family ⟨"a.py", .ofText text.toList⟩ module)).Sublist
      (foundIn text) := by
  have listed : family ∈ Family.all := by cases family <;> decide
  have named : Path.text ⟨"", ["a.py"]⟩ = "a.py" := rfl
  rw [foundIn, opened_findings _ _ {} _ _ module (lone_source_opens decoded parsed), named]
  have one : [family].Sublist (Family.all.filter ({} : Settings).runs) :=
    List.singleton_sublist.mpr (List.mem_filter.mpr ⟨listed, runs⟩)
  simpa using one.flatMap fun family =>
    leftFindings (Conduct.usual {} family ⟨"a.py", .ofText text.toList⟩ module)

def repeats (text : String) (family : Family) (module : Module) : Bool :=
  !decide (leftFindings (Conduct.usual {} family ⟨"a.py", .ofText text.toList⟩ module)).Nodup

theorem found_repeated (decoded : Plan.source text.toUTF8 = .ok text.toList)
    (parsed : parse noNames text.toList = some module) (family : Family)
    (runs : ({} : Settings).runs family = true) (twice : repeats text family module = true) :
    ¬ (foundIn text).Nodup := by
  intro distinct
  have part := distinct.sublist (family_part decoded parsed family runs)
  simp only [repeats, decide_eq_true part, Bool.not_true, Bool.false_eq_true] at twice

def repeating : String :=
  "for a in b:\n    f(a)\n    f(a)\n    f(a)\nx == None or f\"\x7by == None\x7d\"\n"

theorem findings_distinct_repeating :
    ∃ module, (loneSource repeating).Opens noNames ⟨"", ["a.py"]⟩ repeating.toList module ∧
      FieldsPlaced repeating.toList ∧ LoopsApart module.tree.preorder ∧
      CallsApart module.tree.preorder ∧ ["P007"].Sublist ((foundIn repeating).map (·.rule)) ∧
      ["R014", "R014"].Sublist ((foundIn repeating).map (·.rule)) ∧ (foundIn repeating).Nodup := by
  have decoded : Plan.source repeating.toUTF8 = .ok repeating.toList := by rfl
  have placed : FieldsPlaced repeating.toList := by decide +kernel
  have spelled : ((parse noNames repeating.toList).any fun module =>
      decide (LoopsApart module.tree.preorder ∧ CallsApart module.tree.preorder ∧
        (leftFindings (Conduct.usual {} .performance ⟨"a.py", .ofText repeating.toList⟩ module)).map
          (·.rule) = ["P007"] ∧
        (leftFindings (Conduct.usual {} .comparisons ⟨"a.py", .ofText repeating.toList⟩ module)).map
          (·.rule) = ["R014", "R014"])) = true := by
    decide +kernel
  obtain ⟨module, parsed, apart⟩ := (Option.any_eq_true _ _).mp spelled
  obtain ⟨loops, calls, repeated, compared⟩ := of_decide_eq_true apart
  have opened := lone_source_opens decoded parsed
  refine ⟨module, opened, placed, loops, calls, ?_, ?_, ?_⟩
  · exact repeated ▸ (family_part decoded parsed .performance rfl).map (·.rule)
  · exact compared ▸ (family_part decoded parsed .comparisons rfl).map (·.rule)
  · exact (findings_distinct _ _ {} _ _ module opened placed).2.2 loops calls

def nestedCalls : String :=
  "for a in b:\n    for c in d:\n        f(a)\n        f(a)\n        f(a)\n"

def chainedCalls : String := "for a in b:\n    f()()\n    f()()\n    f()()\n"

def straddling : String := "(a == None, f'''\x7b\"\"\"\n\"\"\" == None\x7d''')\n"

/-- Where the calls are in a loop in a loop, where two start at one place, and where a field has not
its true place, two findings are equal, though the other conditions hold. -/
theorem findings_repeated :
    (FieldsPlaced nestedCalls.toList ∧ ¬ (foundIn nestedCalls).Nodup) ∧
      (FieldsPlaced chainedCalls.toList ∧
        (∃ module, parse noNames chainedCalls.toList = some module ∧
          LoopsApart module.tree.preorder) ∧ ¬ (foundIn chainedCalls).Nodup) ∧
      ((∃ module, parse noNames straddling.toList = some module ∧ LoopsApart module.tree.preorder ∧
        CallsApart module.tree.preorder) ∧ ¬ (foundIn straddling).Nodup) := by
  refine ⟨⟨by decide +kernel, ?_⟩, ⟨by decide +kernel, ?_⟩, ?_⟩
  · have spelled :
        ((parse noNames nestedCalls.toList).any (repeats nestedCalls .performance)) = true := by
      decide +kernel
    obtain ⟨module, parsed, twice⟩ := (Option.any_eq_true _ _).mp spelled
    exact found_repeated rfl parsed .performance rfl twice
  · have spelled : ((parse noNames chainedCalls.toList).any fun module =>
        decide (LoopsApart module.tree.preorder) && repeats chainedCalls .performance module) =
        true := by decide +kernel
    obtain ⟨module, parsed, both⟩ := (Option.any_eq_true _ _).mp spelled
    obtain ⟨loops, twice⟩ := (Bool.and_eq_true _ _).mp both
    exact ⟨⟨module, parsed, of_decide_eq_true loops⟩,
      found_repeated rfl parsed .performance rfl twice⟩
  · have spelled : ((parse noNames straddling.toList).any fun module =>
        decide (LoopsApart module.tree.preorder ∧ CallsApart module.tree.preorder) &&
          repeats straddling .comparisons module) = true := by decide +kernel
    obtain ⟨module, parsed, both⟩ := (Option.any_eq_true _ _).mp spelled
    obtain ⟨apart, twice⟩ := (Bool.and_eq_true _ _).mp both
    exact ⟨⟨module, parsed, of_decide_eq_true apart⟩,
      found_repeated rfl parsed .comparisons rfl twice⟩

end Samples

end Analyses

end RefactorAdvice
