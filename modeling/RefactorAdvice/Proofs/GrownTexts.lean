import RefactorAdvice.Proofs.DistinctFindings
import RefactorAdvice.Proofs.StatementReports
import RefactorAdvice.Proofs.TextScopes

/-!
Texts grown in loops, reported exactly. A loop is reported if enough additions to texts are in it,
outside the functions and lambdas in it, and the report stands at the last of them and tells how
many there are. A walk says this when it leaves the loop, by the scopes that it has then. The family
fails as a whole where a loop repeats a call that holds an integer too long to be written out.
-/

namespace RefactorAdvice.Rules.Performance

open Code

section Departing

variable {β : Type} (said : Scopes → Node → List β)

def departing : Scopes → List Visit → List β
  | _, [] => []
  | s, .enter around node :: rest => departing (s.step (.enter around node)) rest
  | s, .leave around node :: rest => said s node ++ departing (s.step (.leave around node)) rest

theorem departing_append (s : Scopes) (first second : List Visit) :
    departing said s (first ++ second) =
      departing said s first ++ departing said (first.foldl Scopes.step s) second := by
  induction first generalizing s with
  | nil => rfl
  | cons visit rest ih =>
    cases visit with
    | enter around node => exact ih _
    | leave around node =>
      rw [List.cons_append, departing, departing, ih, List.append_assoc, List.foldl_cons]

def saidAt (s : Scopes) (t : Tree) (found : List Nat × Node) : List β :=
  said (leaving found.1 s t) found.2

theorem said_beneath (s : Scopes) (root : Node) {branches : List Tree} {branch : Tree} {i : Nat}
    (there : branches[i]? = some branch) (found : List (List Nat × Node)) :
    (beneath i found).flatMap (saidAt said s (.node root branches)) =
      found.flatMap
        (saidAt said (branchesAfter (s.step (.enter [] root)) (branches.take i)) branch) := by
  simp only [beneath, List.flatMap_map, saidAt, leaving_cons there]
  rfl

-- The branches of a node are walked through one after the other, each from the scopes that those
-- before it leave behind.
mutual
theorem departing_visits (around : List Node) : ∀ (t : Tree) (s : Scopes),
    departing said s (t.visits around) = t.departures.flatMap (saidAt said s t)
  | .node root branches, s => by
    have inside := departing_branches (root :: around) root s [] branches
    rw [List.nil_append] at inside
    rw [Tree.visits, List.cons_append, departing, (step_around s around root).1, departing_append,
      Tree.departures, List.flatMap_append, branch_visits_after]
    exact congrArg₂ (· ++ ·) inside rfl

theorem departing_branches (around : List Node) (root : Node) (s : Scopes) :
    ∀ done ts : List Tree,
      departing said (branchesAfter (s.step (.enter [] root)) done) (branchVisits around ts) =
        (branchDepartures done.length ts).flatMap (saidAt said s (.node root (done ++ ts)))
  | done, [] => rfl
  | done, t :: rest => by
    have there : (done ++ t :: rest)[done.length]? = some t := by simp
    have later := departing_branches around root s (done ++ [t]) rest
    rw [List.append_assoc, List.singleton_append, branches_after_append,
      List.length_append] at later
    rw [branchVisits, departing_append, visits_after, departing_visits around t, branchDepartures,
      List.flatMap_append, said_beneath said s root there, List.take_left]
    exact congrArg _ later
end

end Departing

section Selecting

variable {limits : Settings.Performance} {silent : Span → Rule → Bool}

/-- Where nothing is chosen at arrivals, what is chosen of a walk is chosen at its departures. -/
theorem walk_filter (chosen : Except Failure Notice → Bool)
    (never : ∀ s around node, (check limits silent s (.enter around node)).filter chosen = [])
    (s : Scopes) (visits : List Visit) :
    (walk limits silent s visits).filter chosen =
      departing (fun s node => (check limits silent s (.leave [] node)).filter chosen) s
        visits := by
  induction visits generalizing s with
  | nil => rfl
  | cons visit rest ih =>
    rw [walk, List.filter_append, ih]
    cases visit with
    | enter around node =>
      rw [never, List.nil_append]
      rfl
    | leave around node => rfl

def isOf (rule : Rule) : Except Failure Notice → Bool
  | .ok notice => notice.rule == rule.code
  | .error _ => false

def isError : Except Failure Notice → Bool
  | .ok _ => false
  | .error _ => true

end Selecting

section Loops

variable {m : Module} {loop : List Nat} {node : Node}

theorem sub_sound {t part : Tree} (sound : t.Sound) (place : List Nat)
    (there : t.sub? place = some part) : part.Sound := by
  induction place generalizing t with
  | nil =>
    cases there
    exact sound
  | cons i rest ih =>
    obtain ⟨root, branches, _, parts⟩ := sound
    obtain ⟨branch, at_, there⟩ := Option.bind_eq_some_iff.mp there
    exact ih (parts branch (List.mem_of_getElem? at_)) there

theorem loop_nodes_reached (at_ : m.tree.node? loop = some node) (isLoop : node.isLoop = true) :
    loopNodes node = (m.tree.reachedFrom Node.isCallable loop).map Prod.snd := by
  obtain ⟨part, there, rfl⟩ := Option.map_eq_some_iff.mp at_
  rw [reached_from_nodes _ there]
  obtain ⟨root, branches, whole, _⟩ := sub_sound (module_sound m) loop there
  cases root with
  | stmt s => exact congrArg _ whole
  | _ => cases isLoop

theorem mem_loop_nodes_iff (at_ : m.tree.node? loop = some node) (isLoop : node.isLoop = true)
    (other : Node) :
    other ∈ loopNodes node ↔
      ∃ place, m.tree.node? place = some other ∧ m.tree.Reaches Node.isCallable loop place := by
  obtain ⟨part, there, _⟩ := Option.map_eq_some_iff.mp at_
  rw [loop_nodes_reached at_ isLoop]
  simp only [List.mem_map, Prod.exists, exists_eq_right, mem_reached_from_iff _ there]

end Loops

section Growths

variable (silent : Span → Rule → Bool)

/-- An addition to a text that a loop counts. It is reached from the loop, no comment silences the
rule there, and the name sounds like a text or was set to one before the end of the loop. -/
def Grows (t : Tree) (loop place : List Nat) : Prop :=
  ∃ span at_ name usage value,
    t.node? place = some (.stmt (.augAssign span (.name at_ name usage) .add value)) ∧
    t.Reaches Node.isCallable loop place ∧ silent span .textConcatenation = false ∧
    (sounds textHints name = true ∨ SetBefore t loop name)

structure Growths (t : Tree) (loop : List Nat) (places : List (List Nat)) : Prop where
  sorted : places.Pairwise (· < ·)
  all : ∀ place, place ∈ places ↔ Grows silent t loop place

theorem Growths.unique {silent : Span → Rule → Bool} {t : Tree} {loop : List Nat}
    {places others : List (List Nat)} (first : Growths silent t loop places)
    (second : Growths silent t loop others) : places = others := by
  apply List.Perm.eq_of_pairwise _ first.sorted second.sorted
  · rw [List.perm_ext_iff_of_nodup (first.sorted.imp ne_of_lt) (second.sorted.imp ne_of_lt)]
    intro place
    rw [first.all, second.all]
  · intro a b _ _ below above
    exact absurd above (lt_asymm below)

def growthSpan? (s : Scopes) (node : Node) : Option Span :=
  (textGrowth? s node).filter (!silent · .textConcatenation)

theorem growth_span_iff (s : Scopes) (node : Node) (span : Span) :
    growthSpan? silent s node = some span ↔
      ∃ at_ name usage value, node = .stmt (.augAssign span (.name at_ name usage) .add value) ∧
        silent span .textConcatenation = false ∧ s.isText name = true := by
  rw [growthSpan?, Option.filter_eq_some_iff, Bool.not_eq_true']
  constructor
  · rintro ⟨grown, heard⟩
    unfold textGrowth? at grown
    split at grown
    · rename_i at_ name usage value
      split at grown
      · rename_i isText
        cases grown
        exact ⟨at_, name, usage, value, rfl, heard, isText⟩
      · cases grown
    · cases grown
  · rintro ⟨at_, name, usage, value, rfl, heard, isText⟩
    exact ⟨if_pos isText, heard⟩

def grown (s : Scopes) (found : List (List Nat × Node)) : List (List Nat × Span) :=
  found.filterMap fun one => (growthSpan? silent s one.2).map (one.1, ·)

theorem mem_grown_iff (s : Scopes) (found : List (List Nat × Node)) (place : List Nat)
    (span : Span) :
    (place, span) ∈ grown silent s found ↔
      ∃ node, (place, node) ∈ found ∧ growthSpan? silent s node = some span := by
  simp only [grown, List.mem_filterMap, Prod.exists, Option.map_eq_some_iff, Prod.mk.injEq]
  grind

theorem grown_spans (s : Scopes) (found : List (List Nat × Node)) :
    (grown silent s found).map Prod.snd =
      ((found.map Prod.snd).filterMap (textGrowth? s)).filter (!silent · .textConcatenation) := by
  rw [grown, List.map_filterMap, List.filterMap_map, List.filter_filterMap]
  congr 1
  funext one
  simp [growthSpan?, Function.comp_def]

theorem grown_sublist (s : Scopes) (found : List (List Nat × Node)) :
    ((grown silent s found).map Prod.fst).Sublist (found.map Prod.fst) := by
  induction found with
  | nil => exact List.Sublist.refl _
  | cons first rest ih =>
    cases span : growthSpan? silent s first.2 with
    | none =>
      rw [grown, List.filterMap_cons_none (by rw [span]; rfl)]
      exact ih.cons first.1
    | some span =>
      rw [grown, List.filterMap_cons_some (by rw [span]; rfl)]
      exact ih.cons_cons first.1

def growthNotice (span : Span) (count : Nat) : Notice :=
  Rule.textConcatenation.notice span
    s!"String concatenation in loop using += ({count} times) is inefficient"
    "Use str.join() with a list or io.StringIO for better performance"

theorem concatenation_eq (limits : Settings.Performance) (s : Scopes)
    (found : List (List Nat × Node)) :
    concatenation limits silent s (found.map Prod.snd) =
      (grown silent s found).getLast?.bind fun last =>
        if limits.minConcatenations ≤ (grown silent s found).length then
          some (growthNotice last.2 (grown silent s found).length)
        else none := by
  simp only [concatenation, ← grown_spans, List.getLast?_map, List.length_map]
  cases (grown silent s found).getLast? <;> rfl

/-- The additions of a loop, by the scopes that a walk has when it leaves the loop. -/
theorem growths_of_loop {m : Module} {loop : List Nat} {node : Node}
    (at_ : m.tree.node? loop = some node) :
    Growths silent m.tree loop ((grown silent (leaving loop [] m.tree)
      (m.tree.reachedFrom Node.isCallable loop)).map Prod.fst) := by
  obtain ⟨part, there, _⟩ := Option.map_eq_some_iff.mp at_
  have known := fun name => known_from_start name loop m.tree (by rw [at_]; rfl)
  constructor
  · exact (reached_from_sorted _ _ _).sublist (grown_sublist silent _ _)
  · intro place
    rw [List.mem_map]
    constructor
    · rintro ⟨⟨_, span⟩, member, rfl⟩
      obtain ⟨other, listed, spanned⟩ := (mem_grown_iff silent _ _ _ _).mp member
      obtain ⟨found, reaches⟩ := (mem_reached_from_iff _ there _ other).mp listed
      obtain ⟨at_, name, usage, value, rfl, heard, isText⟩ :=
        (growth_span_iff silent _ other span).mp spanned
      rw [is_text_iff, known] at isText
      exact ⟨span, at_, name, usage, value, found, reaches, heard, isText⟩
    · rintro ⟨span, at_, name, usage, value, found, reaches, heard, isText⟩
      rw [← known, ← is_text_iff] at isText
      have listed := (mem_reached_from_iff _ there place _).mpr ⟨found, reaches⟩
      have spanned := (growth_span_iff silent _ _ span).mpr
        ⟨at_, name, usage, value, rfl, heard, isText⟩
      exact ⟨(place, span), (mem_grown_iff silent _ _ _ _).mpr ⟨_, listed, spanned⟩, rfl⟩

/-- Each of the additions is a statement at its address, and none of them is silenced. -/
theorem grown_stands {m : Module} {loop : List Nat} {node : Node}
    (at_ : m.tree.node? loop = some node) (place : List Nat) (span : Span)
    (member : (place, span) ∈ grown silent (leaving loop [] m.tree)
      (m.tree.reachedFrom Node.isCallable loop)) :
    ∃ s, m.tree.node? place = some (.stmt s) ∧ s.span = span ∧
      silent span .textConcatenation = false := by
  obtain ⟨part, there, _⟩ := Option.map_eq_some_iff.mp at_
  obtain ⟨other, listed, spanned⟩ := (mem_grown_iff silent _ _ _ _).mp member
  obtain ⟨_, _, _, _, rfl, heard, _⟩ := (growth_span_iff silent _ other span).mp spanned
  exact ⟨_, ((mem_reached_from_iff _ there _ _).mp listed).1, rfl, heard⟩

end Growths

section Calls

variable (limits : Settings.Performance) (silent : Span → Rule → Bool)

/-- A call that a loop looks at and that holds an integer too long to be written out. -/
def Overlong (node : Node) : Prop :=
  ∃ span func args keywords, node = .expr (.call span func args keywords) ∧
    silent span .repeatedCall = false ∧ (Expr.call span func args keywords).holdsHuge = true

-- One member after the other is taken up, until the first that cannot be.
theorem fold_cases {α β : Type} {step : β → α → Except Failure β} {failure : Failure}
    {bad : α → Bool} (fails : ∀ old x, bad x = true → step old x = .error failure)
    (joins : ∀ old x, bad x = false → ∃ next, step old x = .ok next) (xs : List α) (old : β) :
    (∃ found, xs.foldlM step old = .ok found) ∧ (∀ x ∈ xs, bad x = false) ∨
      xs.foldlM step old = .error failure ∧ ∃ x ∈ xs, bad x = true := by
  induction xs generalizing old with
  | nil => exact Or.inl ⟨⟨old, rfl⟩, by simp⟩
  | cons x rest ih =>
    rw [List.foldlM_cons, List.forall_mem_cons]
    cases known : bad x with
    | true =>
      rw [fails old x known]
      exact Or.inr ⟨rfl, x, List.mem_cons_self, known⟩
    | false =>
      obtain ⟨next, joined⟩ := joins old x known
      rw [joined]
      rcases ih next with ⟨found, fine⟩ | ⟨failed, other, member, holds⟩
      · exact Or.inl ⟨found, rfl, fine⟩
      · exact Or.inr ⟨failed, other, List.mem_cons_of_mem x member, holds⟩

theorem groups_cases (calls : List (Span × Expr)) :
    (∃ found, groups calls = .ok found) ∧ (∀ call ∈ calls, call.2.holdsHuge = false) ∨
      groups calls = .error .hugeInteger ∧ ∃ call ∈ calls, call.2.holdsHuge = true := by
  refine fold_cases ?_ ?_ calls []
  · rintro old ⟨span, call⟩ huge
    simp only [Expr.signature, show call.holdsHuge = true from huge, if_true]
    rfl
  · rintro old ⟨span, call⟩ small
    simp only [Expr.signature, show call.holdsHuge = false from small, Bool.false_eq_true, if_false]
    exact ⟨_, rfl⟩

def heardCalls (nodes : List Node) : List (Span × Expr) :=
  (nodes.filterMap callSpan?).filter fun call => !silent call.1 .repeatedCall

theorem huge_call_iff (nodes : List Node) :
    (∃ call ∈ heardCalls silent nodes, call.2.holdsHuge = true) ↔
      ∃ node ∈ nodes, Overlong silent node := by
  constructor
  · rintro ⟨⟨span, call⟩, member, huge⟩
    obtain ⟨listed, heard⟩ := List.mem_filter.mp member
    obtain ⟨node, inside, spelled⟩ := List.mem_filterMap.mp listed
    refine ⟨node, inside, ?_⟩
    unfold callSpan? at spelled
    split at spelled
    · cases spelled
      exact ⟨_, _, _, _, rfl, by simpa using heard, huge⟩
    · cases spelled
  · rintro ⟨_, inside, span, func, args, keywords, rfl, heard, huge⟩
    refine ⟨(span, _), List.mem_filter.mpr ⟨List.mem_filterMap.mpr ⟨_, inside, rfl⟩, ?_⟩, huge⟩
    simpa using heard

theorem repeated_calls_error_iff (nodes : List Node) (failure : Failure) :
    .error failure ∈ repeatedCalls limits silent nodes ↔
      failure = .hugeInteger ∧ ∃ node ∈ nodes, Overlong silent node := by
  rw [← huge_call_iff, repeatedCalls]
  split
  · rename_i other failed
    rcases groups_cases (heardCalls silent nodes) with ⟨⟨found, made⟩, _⟩ | ⟨same, long⟩
    · cases made.symm.trans failed
    · cases same.symm.trans failed
      simp [long]
  · rename_i found made
    rcases groups_cases (heardCalls silent nodes) with ⟨_, small⟩ | ⟨failed, _⟩
    · grind
    · cases failed.symm.trans made

end Calls

section Speaking

variable {limits : Settings.Performance} {silent : Span → Rule → Bool} {s : Scopes}
  {around : List Node} {node : Node} {n : Except Failure Notice}

def SpokenAt (node : Node) (rule : Rule) (n : Except Failure Notice) : Prop :=
  ∃ span message suggestion, node.span? = some span ∧ n = .ok (rule.notice span message suggestion)

theorem list_growth_spoken {notice : Notice} (found : listGrowth around node = some notice) :
    SpokenAt node .listConcatenation (.ok notice) := by
  unfold listGrowth at found
  split at found
  · split at found
    · cases found
      exact ⟨_, _, _, rfl, rfl⟩
    · cases found
  · cases found

theorem redundant_list_spoken {e : Expr} {notice : Notice} (found : redundantList e = some notice) :
    SpokenAt (.expr e) .redundantList (.ok notice) := by
  unfold redundantList at found
  split at found
  · cases found
    exact ⟨_, _, _, rfl, rfl⟩
  · cases found

theorem len_comparison_spoken {e : Expr} {notice : Notice}
    (found : lenComparison around e = some notice) :
    ∃ rule ∈ [Rule.lenPositive, .lenZero], SpokenAt (.expr e) rule (.ok notice) := by
  unfold lenComparison at found
  split at found
  · split at found
    · split at found
      · obtain ⟨⟨rule, message, suggestion⟩, advice, rfl⟩ := Option.map_eq_some_iff.mp found
        exact ⟨rule, (@len_advice_rule 0 _ _ _ _ advice).1, _, message, suggestion, rfl, rfl⟩
      · cases found
    · cases found
  · cases found

theorem arrival_spoken (member : n ∈ check limits silent s (.enter around node)) :
    ∃ rule ∈ Family.performance.nodeRules, SpokenAt node rule n := by
  unfold check at member
  split at member
  · rename_i same
    cases same
    obtain ⟨notice, found, rfl⟩ := Option.map_eq_some_iff.mp (Option.mem_toList.mp member)
    exact ⟨.listConcatenation, by decide, list_growth_spoken found⟩
  · rename_i same
    cases same
    obtain ⟨notice, listed, rfl⟩ := List.mem_map.mp member
    rcases List.mem_append.mp listed with first | second
    · exact ⟨.redundantList, by decide, redundant_list_spoken (Option.mem_toList.mp first)⟩
    · obtain ⟨rule, among, spoken⟩ := len_comparison_spoken (Option.mem_toList.mp second)
      exact ⟨rule, List.mem_of_mem_drop (i := 2) among, spoken⟩
  · rename_i same
    cases same
  · cases member

/-- What is said at an arrival is not chosen by a rule that speaks at departures. -/
theorem arrival_unchosen {rule : Rule} (other : rule ∈ Family.performance.loopRules) :
    (check limits silent s (.enter around node)).filter (isOf rule) = [] := by
  rw [List.filter_eq_nil_iff]
  intro n member
  obtain ⟨spoken, among, _, _, _, _, rfl⟩ := arrival_spoken member
  have apart : ∀ rule ∈ Family.performance.loopRules, ∀ spoken ∈ Family.performance.nodeRules,
      ¬ (spoken.code == rule.code) = true := by decide
  exact apart rule other spoken among

theorem repeated_calls_spoken {nodes : List Node} (member : n ∈ repeatedCalls limits silent nodes) :
    (∃ failure, n = .error failure) ∨ ∃ other ∈ nodes, SpokenAt other .repeatedCall n := by
  rw [repeatedCalls] at member
  split at member
  · exact Or.inl ⟨_, List.mem_singleton.mp member⟩
  · rename_i found made
    obtain ⟨group, kept, rfl⟩ := List.mem_map.mp member
    have first := (groups_firsts made).subset
      (List.mem_map_of_mem (List.mem_of_mem_filter kept))
    obtain ⟨⟨span, call⟩, listed, same⟩ := List.mem_map.mp first
    obtain ⟨other, inside, spelled⟩ := List.mem_filterMap.mp (List.mem_of_mem_filter listed)
    refine Or.inr ⟨other, inside, group.first, _, _, ?_, rfl⟩
    unfold callSpan? at spelled
    split at spelled
    · cases spelled
      exact congrArg some same
    · cases spelled

theorem concatenation_spoken {found : List (List Nat × Node)} {notice : Notice}
    (told : concatenation limits silent s (found.map Prod.snd) = some notice) :
    ∃ other ∈ found.map Prod.snd, SpokenAt other .textConcatenation (.ok notice) := by
  rw [concatenation_eq] at told
  obtain ⟨⟨place, span⟩, last, told⟩ := Option.bind_eq_some_iff.mp told
  split at told
  · cases told
    obtain ⟨other, among, spanned⟩ :=
      (mem_grown_iff silent _ _ _ _).mp (List.mem_of_getLast? last)
    obtain ⟨_, _, _, _, rfl, _⟩ := (growth_span_iff silent _ other span).mp spanned
    exact ⟨_, List.mem_map_of_mem among, span, _, _, rfl, rfl⟩
  · cases told

/-- When a loop is left, it says what it has to say of texts first, and then of calls. -/
theorem leave_loop (isLoop : node.isLoop = true) :
    check limits silent s (.leave around node) =
      ((concatenation limits silent s (loopNodes node)).map .ok).toList ++
        repeatedCalls limits silent (loopNodes node) := by
  rw [check, if_pos isLoop]

theorem leave_other (other : node.isLoop = false) :
    check limits silent s (.leave around node) = [] := by
  rw [check, other]
  rfl

end Speaking

section Reports

variable (limits : Settings.Performance) (silent : Span → Rule → Bool) (m : Module)

def loopPlaces : List (List Nat) :=
  (m.tree.departures.filter (·.2.isLoop)).map Prod.fst

theorem mem_loop_places_iff (loop : List Nat) :
    loop ∈ loopPlaces m ↔ ∃ node, m.tree.node? loop = some node ∧ node.isLoop = true := by
  simp only [loopPlaces, List.mem_map, List.mem_filter, Prod.exists, exists_and_right,
    exists_eq_right, mem_departures_iff]

theorem loop_places_nodup : (loopPlaces m).Nodup :=
  (departures_nodup m.tree).sublist ((List.filter_sublist).map Prod.fst)

def loopNotice (loop : List Nat) : Option Notice :=
  concatenation limits silent (leaving loop [] m.tree)
    ((m.tree.reachedFrom Node.isCallable loop).map Prod.snd)

theorem leave_texts {loop : List Nat} {node : Node} (at_ : m.tree.node? loop = some node) :
    (check limits silent (leaving loop [] m.tree) (.leave [] node)).filter
        (isOf .textConcatenation) =
      if node.isLoop then ((loopNotice limits silent m loop).map .ok).toList else [] := by
  cases isLoop : node.isLoop with
  | false => rw [leave_other isLoop, if_neg Bool.false_ne_true, List.filter_nil]
  | true =>
    rw [leave_loop isLoop, if_pos rfl, List.filter_append, loopNotice,
      ← loop_nodes_reached at_ isLoop]
    have calls : (repeatedCalls limits silent (loopNodes node)).filter
        (isOf .textConcatenation) = [] := by
      rw [List.filter_eq_nil_iff]
      intro n member
      rcases repeated_calls_spoken member with ⟨failure, rfl⟩ | ⟨_, _, _, _, _, _, rfl⟩
      · exact Bool.false_ne_true
      · exact Bool.false_ne_true
    rw [calls, List.append_nil, List.filter_eq_self]
    intro n member
    obtain ⟨notice, found, rfl⟩ := Option.map_eq_some_iff.mp (Option.mem_toList.mp member)
    rw [loop_nodes_reached at_ isLoop] at found
    obtain ⟨_, _, _, _, _, _, same⟩ := concatenation_spoken found
    cases same
    rfl

theorem flat_map_filter {α β : Type} {f : α → List β} {keep : α → Bool} {view : α → Option β}
    {xs : List α} (agree : ∀ x ∈ xs, f x = if keep x then (view x).toList else []) :
    xs.flatMap f = (xs.filter keep).filterMap view := by
  induction xs with
  | nil => rfl
  | cons x rest ih =>
    rw [List.flatMap_cons, agree x List.mem_cons_self,
      ih fun y member => agree y (List.mem_cons_of_mem x member), List.filter_cons]
    split
    · rw [List.filterMap_cons]
      cases view x <;> rfl
    · rfl

/-- What the family says of texts is what is said of the loops, one after the other. -/
theorem text_notices :
    (walk limits silent [] (m.tree.visits [])).filter (isOf .textConcatenation) =
      (loopPlaces m).filterMap fun loop => (loopNotice limits silent m loop).map .ok := by
  rw [walk_filter _ fun _ _ _ => arrival_unchosen (by decide), departing_visits, loopPlaces,
    List.filterMap_map]
  apply flat_map_filter
  rintro ⟨loop, node⟩ member
  exact leave_texts limits silent m ((mem_departures_iff m.tree loop node).mp member)

end Reports

section Failing

variable {limits : Settings.Performance} {silent : Span → Rule → Bool} {m : Module}

def HoldsOverlong (silent : Span → Rule → Bool) (t : Tree) : Prop :=
  ∃ loop node place call, t.node? loop = some node ∧ node.isLoop = true ∧
    t.node? place = some call ∧ t.Reaches Node.isCallable loop place ∧ Overlong silent call

theorem leave_error_iff {loop : List Nat} {node : Node} (at_ : m.tree.node? loop = some node)
    (s : Scopes) (failure : Failure) :
    .error failure ∈ check limits silent s (.leave [] node) ↔
      node.isLoop = true ∧ failure = .hugeInteger ∧ ∃ place call, m.tree.node? place = some call ∧
        m.tree.Reaches Node.isCallable loop place ∧ Overlong silent call := by
  cases isLoop : node.isLoop with
  | false => simp [leave_other isLoop]
  | true =>
    have spoken : Except.error failure ∉
        ((concatenation limits silent s (loopNodes node)).map .ok).toList := by simp
    rw [leave_loop isLoop, List.mem_append, or_iff_right spoken, repeated_calls_error_iff]
    simp only [mem_loop_nodes_iff at_ isLoop, true_and]
    grind

theorem walk_error_iff (failure : Failure) :
    .error failure ∈ walk limits silent [] (m.tree.visits []) ↔
      failure = .hugeInteger ∧ HoldsOverlong silent m.tree := by
  have never : ∀ s around node,
      (check limits silent s (.enter around node)).filter isError = [] := by
    intro s around node
    rw [List.filter_eq_nil_iff]
    intro n member
    obtain ⟨_, _, _, _, _, _, rfl⟩ := arrival_spoken member
    exact Bool.false_ne_true
  have chosen : .error failure ∈ walk limits silent [] (m.tree.visits []) ↔
      .error failure ∈ (walk limits silent [] (m.tree.visits [])).filter isError := by
    simp [List.mem_filter, isError]
  rw [chosen, walk_filter _ never, departing_visits, List.mem_flatMap]
  constructor
  · rintro ⟨⟨loop, node⟩, departed, said⟩
    have at_ := (mem_departures_iff m.tree loop node).mp departed
    obtain ⟨isLoop, same, place, call, found⟩ :=
      (leave_error_iff at_ _ failure).mp (List.mem_filter.mp said).1
    exact ⟨same, loop, node, place, call, at_, isLoop, found⟩
  · rintro ⟨same, loop, node, place, call, at_, isLoop, found⟩
    refine ⟨(loop, node), (mem_departures_iff m.tree loop node).mpr at_, ?_⟩
    exact List.mem_filter.mpr ⟨(leave_error_iff at_ _ failure).mpr
      ⟨isLoop, same, place, call, found⟩, rfl⟩

theorem mem_walk {s : Scopes} {visits : List Visit} {n : Except Failure Notice}
    (member : n ∈ walk limits silent s visits) :
    ∃ scopes, ∃ visit ∈ visits, n ∈ check limits silent scopes visit := by
  induction visits generalizing s with
  | nil => cases member
  | cons visit rest ih =>
    rcases List.mem_append.mp member with here | later
    · exact ⟨s, visit, List.mem_cons_self, here⟩
    · obtain ⟨scopes, other, inside, said⟩ := ih later
      exact ⟨scopes, other, List.mem_cons_of_mem visit inside, said⟩

/-- Every notice stands at a node of the module. -/
theorem walk_spoken {n : Notice}
    (member : .ok n ∈ walk limits silent [] (m.tree.visits [])) :
    ∃ part ∈ m.tree.preorder, ∃ rule, SpokenAt part rule (.ok n) := by
  obtain ⟨scopes, visit, inside, said⟩ := mem_walk member
  have listed := visits_mem [] m.tree visit inside
  cases visit with
  | enter around node =>
    obtain ⟨rule, _, spoken⟩ := arrival_spoken said
    exact ⟨node, listed, rule, spoken⟩
  | leave around node =>
    obtain ⟨loop, at_⟩ := (mem_preorder_iff m.tree node).mp listed
    cases isLoop : node.isLoop with
    | false =>
      rw [leave_other isLoop] at said
      cases said
    | true =>
      have reached : ∀ other ∈ loopNodes node, other ∈ m.tree.preorder := by
        intro other among
        obtain ⟨place, found, _⟩ := (mem_loop_nodes_iff at_ isLoop other).mp among
        exact (mem_preorder_iff m.tree other).mpr ⟨place, found⟩
      rw [leave_loop isLoop] at said
      rcases List.mem_append.mp said with texts | calls
      · obtain ⟨_, found, same⟩ := Option.map_eq_some_iff.mp (Option.mem_toList.mp texts)
        cases same
        rw [loop_nodes_reached at_ isLoop] at found reached
        obtain ⟨other, among, spoken⟩ := concatenation_spoken found
        exact ⟨other, reached other among, .textConcatenation, spoken⟩
      · rcases repeated_calls_spoken calls with ⟨failure, same⟩ | ⟨other, among, spoken⟩
        · cases same
        · exact ⟨other, reached other among, .repeatedCall, spoken⟩

end Failing

section Exactness

variable (l : Listing) (file : String)

def hushed (span : Span) (rule : Rule) : Bool := l.silencesAt span (some rule.code)

def shown (n : Notice) : Option Finding :=
  match l.publish file n with
  | .ok found => found
  | .error _ => none

theorem publish_all_shown {α : Type} {view : α → Option Notice} {xs : List α}
    {findings : List Finding}
    (published : l.publishAll file (xs.filterMap fun x => (view x).map .ok) = .ok findings) :
    findings = xs.filterMap fun x => (view x).bind (shown l file) := by
  induction xs generalizing findings with
  | nil =>
    cases published
    rfl
  | cons x rest ih =>
    cases given : view x with
    | none =>
      rw [List.filterMap_cons_none (by rw [given]; rfl)] at published ⊢
      exact ih published
    | some n =>
      rw [List.filterMap_cons_some (by rw [given]; rfl)] at published
      obtain ⟨_, found, others, same, here, later, rfl⟩ :=
        (l.publish_all_cons_iff file _ _ _).mp published
      cases same
      have told : (view x).bind (shown l file) = found := by
        rw [given, Option.bind_some, shown, here]
      rw [List.filterMap_cons, told, ih later]
      cases found <;> rfl

/-- What is reported of a loop that counts the additions at the places: nothing if there are none or
too few, else one report, which stands at the last of them and tells their number. -/
structure Reports (limits : Settings.Performance) (t : Tree) (places : List (List Nat))
    (report : Option Finding) : Prop where
  told : report.isSome = true ↔ 1 ≤ places.length ∧ limits.minConcatenations ≤ places.length
  shown : ∀ f, report = some f → ∃ last s, places.getLast? = some last ∧
    t.node? last = some (.stmt s) ∧ f.spot = s.span.spot ∧ f.rule = "P001" ∧
    f.message =
      s!"String concatenation in loop using += ({places.length} times) is inefficient"

variable {l file}

theorem rule_notice_shown {rule : Rule} {span : Span} {line column endLine : Nat}
    (message suggestion : String) (known : span = .known line column endLine) (first : 1 ≤ line)
    (heard : hushed l span rule = false) :
    ∃ f, shown l file (rule.notice span message suggestion) = some f ∧
      f.sign = ⟨rule.code, message, span.spot⟩ ∧ f.suggestion = some suggestion := by
  have placed : (rule.notice span message suggestion).span.placed = some line :=
    known ▸ known_placed first
  obtain ⟨found, made⟩ :=
    l.publish_defined file (n := rule.notice span message suggestion) known first rfl
  have published : l.publishAll file [.ok (rule.notice span message suggestion)] =
      .ok (found.toList ++ []) :=
    (l.publish_all_cons_iff file _ _ _).mpr ⟨_, found, [], rfl, made, rfl, rfl⟩
  obtain ⟨f, _, alone, _, same⟩ := (reported_at placed published).heard _ rfl heard
  cases found with
  | none => cases alone
  | some g =>
    cases alone
    exact ⟨f, by rw [shown, made], publish_sign made, congrArg Finding.Draft.suggestion same⟩

theorem growth_shown {span : Span} {line column endLine : Nat} (count : Nat)
    (known : span = .known line column endLine) (first : 1 ≤ line)
    (heard : hushed l span .textConcatenation = false) :
    ∃ f, shown l file (growthNotice span count) = some f ∧ f.spot = span.spot ∧
      f.rule = "P001" ∧
      f.message = s!"String concatenation in loop using += ({count} times) is inefficient" := by
  obtain ⟨f, made, sign, _⟩ := rule_notice_shown _ _ known first heard
  exact ⟨f, made, congrArg Sign.spot sign, congrArg Sign.rule sign, congrArg Sign.message sign⟩

variable {names : CharNames} {cs : List Char} {m : Module} (read : parse names cs = some m)

include read

/-- A loop's notice becomes the report that its additions call for. -/
theorem loop_reports (limits : Settings.Performance) {loop : List Nat} {node : Node}
    (at_ : m.tree.node? loop = some node) :
    ∃ places, Growths (hushed l) m.tree loop places ∧
      Reports limits m.tree places
        ((loopNotice limits (hushed l) m loop).bind (shown l file)) := by
  refine ⟨_, growths_of_loop (hushed l) at_, ?_⟩
  have stands := fun place span => grown_stands (hushed l) at_ place span
  rw [loopNotice, concatenation_eq]
  generalize grown (hushed l) (leaving loop [] m.tree)
    (m.tree.reachedFrom Node.isCallable loop) = pairs at stands ⊢
  cases ends : pairs.getLast? with
  | none =>
    cases List.getLast?_eq_none_iff.mp ends
    exact ⟨by simp, by simp⟩
  | some last =>
    obtain ⟨place, span⟩ := last
    obtain ⟨s, found, rfl, heard⟩ := stands place span (List.mem_of_getLast? ends)
    obtain ⟨line, column, endLine, known, first⟩ :=
      parse_stmt_known read ((mem_preorder_iff m.tree _).mpr ⟨place, found⟩)
    obtain ⟨f, made, spot, rule, message⟩ := growth_shown pairs.length known first heard
    have some_ : 1 ≤ (pairs.map Prod.fst).length := by
      rw [List.length_map, Nat.one_le_iff_ne_zero, Ne, List.length_eq_zero_iff]
      rintro rfl
      cases ends
    have final : (pairs.map Prod.fst).getLast? = some place := by rw [List.getLast?_map, ends]; rfl
    rw [Option.bind_some]
    split
    · rename_i enough
      rw [Option.bind_some, made]
      rw [← List.length_map (f := Prod.fst)] at enough message
      refine ⟨iff_of_true rfl ⟨some_, enough⟩, ?_⟩
      rintro _ ⟨⟩
      exact ⟨place, s, final, found, spot, rule, message⟩
    · rename_i few
      rw [← List.length_map (f := Prod.fst)] at few
      exact ⟨iff_of_false (by simp) fun both => few both.2, by simp⟩

/-- Whatever the family says of a module that was read can be published. -/
theorem walk_published {limits : Settings.Performance} {silent : Span → Rule → Bool} (n : Notice)
    (member : .ok n ∈ walk limits silent [] (m.tree.visits [])) :
    ∃ found, l.publish file n = .ok found := by
  obtain ⟨part, inside, rule, span, message, suggestion, stands, same⟩ := walk_spoken member
  cases same
  obtain ⟨line, column, endLine, rfl⟩ := parse_known read part inside span stands
  exact l.publish_total file _ (Int.natCast_nonneg column) rfl fun _ => rfl

theorem walk_findings (limits : Settings.Performance) (l : Listing) (file : String)
    (short : ¬ HoldsOverlong (hushed l) m.tree) :
    ∃ findings,
      l.publishAll file (walk limits (hushed l) [] (m.tree.visits [])) = .ok findings := by
  apply l.publish_all_defined file
  intro n member
  cases n with
  | error failure => exact absurd ((walk_error_iff failure).mp member).2 short
  | ok notice =>
    obtain ⟨found, made⟩ := walk_published read notice member
    exact ⟨notice, found, rfl, made⟩

omit read in
theorem examine_walk (settings : Settings) (sheet : Sheet) (outside : Bool) (m : Module) :
    examine settings sheet outside m .performance =
      (sheet.listing.publishAll sheet.file
        (walk settings.performance (hushed sheet.listing) [] (m.tree.visits [])) >>=
          fun findings => .ok { findings }) :=
  examine_eq settings sheet outside m .performance (by decide)

/-- An integer too long to be written out, in a call that a loop reaches, ends the examination. -/
theorem overlong_fails (settings : Settings) (sheet : Sheet) (outside : Bool)
    (long : HoldsOverlong (hushed sheet.listing) m.tree) :
    examine settings sheet outside m .performance = .error .hugeInteger := by
  have fine : ∀ n,
      .ok n ∈ walk settings.performance (hushed sheet.listing) [] (m.tree.visits []) →
        ∃ found, sheet.listing.publish sheet.file n = .ok found := walk_published read
  have failed := sheet.listing.publish_all_fails sheet.file fine
    (fun other member => (walk_error_iff other).mp member |>.1)
    ((walk_error_iff .hugeInteger).mpr ⟨rfl, long⟩)
  rw [examine_walk, failed]
  rfl

/--
What is reported of texts grown in the loops of a module that was read. Where a loop reaches a call
that holds an integer too long to be written out, and the rule for repeated calls is not silenced
there, the examination fails. Else the reports of the rule are those of the loops, one loop after
the other: for each loop the additions that it counts decide whether there is a report, where it
stands and what number it tells.
-/
theorem text_growth_reported (settings : Settings) (sheet : Sheet) (outside : Bool) :
    (HoldsOverlong (hushed sheet.listing) m.tree →
      examine settings sheet outside m .performance = .error .hugeInteger) ∧
    (¬ HoldsOverlong (hushed sheet.listing) m.tree →
      ∃ (verdict : Verdict) (loops : List (List Nat)) (report : List Nat → Option Finding),
        examine settings sheet outside m .performance = .ok verdict ∧ loops.Nodup ∧
        (∀ loop, loop ∈ loops ↔ ∃ node, m.tree.node? loop = some node ∧ node.isLoop = true) ∧
        verdict.findings.filter (·.rule == "P001") = loops.filterMap report ∧
        ∀ loop ∈ loops, ∃ places, Growths (hushed sheet.listing) m.tree loop places ∧
          Reports settings.performance m.tree places (report loop)) := by
  refine ⟨overlong_fails read settings sheet outside, ?_⟩
  intro short
  obtain ⟨findings, published⟩ :=
    walk_findings read settings.performance sheet.listing sheet.file short
  have ofRule := sheet.listing.publish_all_filter sheet.file (isOf .textConcatenation)
    (·.rule == "P001")
    (fun n f made => congrArg (· == "P001") (congrArg Sign.rule (publish_sign made))) published
  rw [text_notices] at ofRule
  refine ⟨⟨findings, []⟩, loopPlaces m, _, ?_, loop_places_nodup m, mem_loop_places_iff m,
    publish_all_shown _ _ ofRule, ?_⟩
  · rw [examine_walk, published]
    rfl
  · intro loop listed
    obtain ⟨node, at_, _⟩ := (mem_loop_places_iff m loop).mp listed
    exact loop_reports read settings.performance at_

end Exactness

section Instances

def grownInLoop : List Char :=
  "def f():\n    x = ''\n    for a in b:\n        x += c\n        x += d\n        x += e\n".toList

theorem text_growth_reported_function :
    ∃ m verdict f, parse noNames grownInLoop = some m ∧
      examine {} ⟨"a.py", .ofList []⟩ false m .performance = .ok verdict ∧
      verdict.findings.filter (·.rule == "P001") = [f] ∧
      f.message = "String concatenation in loop using += (3 times) is inefficient" := by
  have spelled : (parse noNames grownInLoop).any (fun m =>
      loopPlaces m == [[0, 2]] &&
        ((grown (hushed (.ofList [])) (leaving [0, 2] [] m.tree)
          (m.tree.reachedFrom Node.isCallable [0, 2])).length == 3 &&
        (walk {} (hushed (.ofList [])) [] (m.tree.visits [])).all (!isError ·))) = true := by
    decide +kernel
  obtain ⟨m, parsed, holds⟩ := (Option.any_eq_true _ _).mp spelled
  obtain ⟨placed, counted, quiet⟩ := by simpa only [Bool.and_eq_true, beq_iff_eq] using holds
  have short : ¬ HoldsOverlong (hushed (.ofList [])) m.tree := by
    intro long
    have := List.all_eq_true.mp quiet _ ((walk_error_iff .hugeInteger).mpr ⟨rfl, long⟩)
    cases this
  obtain ⟨verdict, loops, report, returned, single, loopsAt, reported, each⟩ :=
    (text_growth_reported parsed {} ⟨"a.py", .ofList []⟩ false).2 short
  have alone : loops = [[0, 2]] := by
    rw [← List.perm_singleton, ← placed, List.perm_ext_iff_of_nodup single (loop_places_nodup m)]
    intro loop
    rw [loopsAt, mem_loop_places_iff]
  obtain ⟨node, at_, _⟩ := (loopsAt [0, 2]).mp (by rw [alone]; exact List.mem_singleton_self _)
  obtain ⟨places, growths, told, shown⟩ :=
    each [0, 2] (by rw [alone]; exact List.mem_singleton_self _)
  have three : places.length = 3 := by
    rw [growths.unique (growths_of_loop _ at_), List.length_map, counted]
  obtain ⟨f, made⟩ := Option.isSome_iff_exists.mp (told.mpr (by rw [three]; decide))
  obtain ⟨_, _, _, _, _, _, message⟩ := shown f made
  refine ⟨m, verdict, f, parsed, returned, ?_, ?_⟩
  · rw [reported, alone, List.filterMap_cons_some made, List.filterMap_nil]
  · rw [message, three]
    rfl

def overlongInLoop : List Char :=
  "for a in b:\n    text += f(0x".toList ++ List.replicate 4000 'f' ++
    ")\n    text += c\n    text += d\n".toList

set_option maxRecDepth 100000 in
/-- A loop that counts enough additions goes unreported, since the examination fails. -/
theorem text_growth_unreported :
    ∃ m node places, parse noNames overlongInLoop = some m ∧
      m.tree.node? [0] = some node ∧ node.isLoop = true ∧
      Growths (hushed (.ofList [])) m.tree [0] places ∧ places.length = 3 ∧
      ({} : Settings).performance.minConcatenations ≤ places.length ∧
      examine {} ⟨"a.py", .ofList []⟩ false m .performance = .error .hugeInteger := by
  have spelled : (parse noNames overlongInLoop).any (fun m =>
      (m.tree.node? [0]).any Node.isLoop &&
        ((grown (hushed (.ofList [])) (leaving [0] [] m.tree)
          (m.tree.reachedFrom Node.isCallable [0])).length == 3 &&
        (walk {} (hushed (.ofList [])) [] (m.tree.visits [])).any isError)) = true := by
    decide +kernel
  obtain ⟨m, parsed, holds⟩ := (Option.any_eq_true _ _).mp spelled
  obtain ⟨looped, counted, failing⟩ := by simpa only [Bool.and_eq_true, beq_iff_eq] using holds
  obtain ⟨node, at_, isLoop⟩ := (Option.any_eq_true _ _).mp looped
  have three := (List.length_map Prod.fst).trans counted
  obtain ⟨n, said, isError⟩ := List.any_eq_true.mp failing
  cases n with
  | ok notice => cases isError
  | error failure =>
    have long := ((walk_error_iff failure).mp said).2
    exact ⟨m, node, _, parsed, at_, isLoop, growths_of_loop _ at_, three, by rw [three]; decide,
      overlong_fails parsed {} _ false long⟩

end Instances

end RefactorAdvice.Rules.Performance
