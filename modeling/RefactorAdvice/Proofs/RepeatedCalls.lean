import RefactorAdvice.Proofs.GrownTexts

/-!
Calls repeated in loops, reported exactly. A loop gathers the calls in it by kind, in the order in
which it meets the kinds, and reports each kind that has enough calls, at the first of them. What it
counts is not the body alone: the head of the loop and its `else` are counted too, though neither is
run again and again.
-/

namespace RefactorAdvice.Rules.Performance

open Code

section Kinds

def alike (e other : Expr) : Bool :=
  e.tree.preorder.map Node.mark == other.tree.preorder.map Node.mark

theorem alike_iff (e other : Expr) :
    alike e other = true ↔ e.tree.preorder.map Node.mark = other.tree.preorder.map Node.mark :=
  beq_iff_eq

def firsts : List (Span × Expr) → List (Span × Expr)
  | [] => []
  | call :: rest => call :: (firsts rest).filter fun other => !alike other.2 call.2

def likes (e : Expr) (calls : List (Span × Expr)) : Nat := calls.countP fun other => alike other.2 e

theorem likes_append (e : Expr) (first second : List (Span × Expr)) :
    likes e (first ++ second) = likes e first + likes e second := List.countP_append

theorem firsts_concat (calls : List (Span × Expr)) (last : Span × Expr) :
    firsts (calls ++ [last]) =
      firsts calls ++ if calls.any fun call => alike call.2 last.2 then [] else [last] := by
  induction calls with
  | nil => rfl
  | cons call rest ih =>
    have turned : alike last.2 call.2 = alike call.2 last.2 := Bool.beq_comm
    rw [List.cons_append, firsts, ih, List.filter_append, firsts, List.cons_append, List.any_cons]
    cases same : alike call.2 last.2 with
    | true => cases rest.any fun call => alike call.2 last.2 <;> simp [turned, same]
    | false => cases rest.any fun call => alike call.2 last.2 <;> simp [turned, same]

theorem firsts_sublist (calls : List (Span × Expr)) : (firsts calls).Sublist calls := by
  induction calls with
  | nil => exact List.Sublist.refl _
  | cons call rest ih => exact (List.filter_sublist.trans ih).cons_cons call

theorem firsts_apart (calls : List (Span × Expr)) :
    (firsts calls).Pairwise fun call other => alike other.2 call.2 = false := by
  induction calls with
  | nil => exact List.Pairwise.nil
  | cons call rest ih =>
    refine List.pairwise_cons.mpr ⟨fun other member => ?_, ih.sublist List.filter_sublist⟩
    simpa using (List.mem_filter.mp member).2

/-- Every call has a like among the first ones. -/
theorem firsts_any (calls : List (Span × Expr)) (e : Expr) :
    (firsts calls).any (fun call => alike call.2 e) = calls.any fun call => alike call.2 e := by
  induction calls with
  | nil => rfl
  | cons call rest ih =>
    rw [firsts, List.any_cons, List.any_cons, ← ih]
    cases same : alike call.2 e with
    | true => rfl
    | false =>
      -- what is left out is like this call, and so not like `e`
      rw [Bool.false_or, Bool.false_or, List.any_filter]
      congr 1
      funext other
      rw [alike, alike] at *
      grind

def groupOf (calls : List (Span × Expr)) (call : Span × Expr) : Group :=
  ⟨call.2.tree.preorder.map Node.mark, call.1, likes call.2 calls⟩

theorem group_of_concat_like (calls : List (Span × Expr)) {call last : Span × Expr}
    (same : alike last.2 call.2 = true) :
    groupOf (calls ++ [last]) call =
      { groupOf calls call with count := (groupOf calls call).count + 1 } := by
  simp [groupOf, likes, List.countP_append, same]

theorem group_of_concat_unlike (calls : List (Span × Expr)) {call last : Span × Expr}
    (apart : alike last.2 call.2 = false) :
    groupOf (calls ++ [last]) call = groupOf calls call := by
  simp [groupOf, likes, List.countP_append, apart]

-- A call joins the one group of its kind, or founds one behind all others.
theorem join_groups (calls : List (Span × Expr)) (last : Span × Expr) :
    ∀ kinds : List (Span × Expr),
      (kinds.Pairwise fun call other => alike other.2 call.2 = false) →
      join (last.2.tree.preorder.map Node.mark) last.1 (kinds.map (groupOf calls)) =
        kinds.map (groupOf (calls ++ [last])) ++
          if kinds.any fun call => alike call.2 last.2 then []
          else [⟨last.2.tree.preorder.map Node.mark, last.1, 1⟩]
  | [], _ => rfl
  | call :: rest, apart => by
    obtain ⟨here, later⟩ := List.pairwise_cons.mp apart
    have turned : alike last.2 call.2 = alike call.2 last.2 := Bool.beq_comm
    rw [List.map_cons, List.map_cons, join, List.any_cons]
    change (if alike call.2 last.2 = true then _ else _) = _
    cases same : alike call.2 last.2 with
    | true =>
      have others : rest.map (groupOf (calls ++ [last])) = rest.map (groupOf calls) := by
        apply List.map_congr_left
        intro other member
        apply group_of_concat_unlike
        have unlike := here other member
        rw [alike] at *
        grind
      rw [group_of_concat_like calls (turned.trans same), others]
      simp
    | false =>
      rw [group_of_concat_unlike calls (turned.trans same), join_groups calls last rest later]
      simp only [Bool.false_eq_true, if_false, Bool.false_or, List.cons_append]

theorem groups_concat (calls : List (Span × Expr)) (last : Span × Expr) :
    groups (calls ++ [last]) = (groups calls >>= fun found =>
      last.2.signature >>= fun signature => .ok (join signature last.1 found)) := by
  rw [groups, List.foldlM_append]
  simp only [List.foldlM_cons, List.foldlM_nil, bind_pure]
  rfl

/-- Calls are gathered by kind. -/
theorem groups_eq (calls : List (Span × Expr)) (small : ∀ call ∈ calls, call.2.holdsHuge = false) :
    groups calls = .ok ((firsts calls).map (groupOf calls)) := by
  induction calls using List.reverseRecOn with
  | nil => rfl
  | append_singleton calls last ih =>
    have before : ∀ call ∈ calls, call.2.holdsHuge = false :=
      fun call member => small call (List.mem_append_left _ member)
    have written : last.2.signature = .ok (last.2.tree.preorder.map Node.mark) := by
      rw [Expr.signature, small last (List.mem_append_right _ (List.mem_singleton_self _))]
      rfl
    rw [groups_concat, ih before, written]
    change Except.ok (join _ _ _) = _
    rw [join_groups calls last _ (firsts_apart calls), firsts_any, firsts_concat, List.map_append]
    cases known : calls.any fun call => alike call.2 last.2 with
    | true => rfl
    | false =>
      have none : likes last.2 calls = 0 := by
        rw [likes, List.countP_eq_zero]
        simpa using known
      have self : alike last.2 last.2 = true := (alike_iff _ _).mpr rfl
      have alone : likes last.2 [last] = 1 := by simp [likes, self]
      simp only [Bool.false_eq_true, if_false, List.map_cons, List.map_nil, groupOf, likes_append,
        none, alone]

end Kinds

section Notices

variable (limits : Settings.Performance) (silent : Span → Rule → Bool)

def repeatMessage (count : Nat) : String :=
  s!"Repeated identical call in loop ({count} times); consider caching the result"

def repeatNotice (span : Span) (count : Nat) : Notice :=
  Rule.repeatedCall.notice span (repeatMessage count)
    ("Assign the call result to a variable before the loop " ++
      "or cache it on first use inside the loop")

def repeated (calls : List (Span × Expr)) : List (Span × Expr) :=
  (firsts calls).filter fun call => limits.minDuplicateCalls ≤ likes call.2 calls

def repeatNotices (calls : List (Span × Expr)) : List Notice :=
  (repeated limits calls).map fun call => repeatNotice call.1 (likes call.2 calls)

theorem repeated_calls_eq {nodes : List Node}
    (small : ∀ call ∈ heardCalls silent nodes, call.2.holdsHuge = false) :
    repeatedCalls limits silent nodes =
      (repeatNotices limits (heardCalls silent nodes)).map .ok := by
  have grouped := groups_eq (heardCalls silent nodes) small
  rw [repeatedCalls]
  split
  · rename_i failure failed
    cases failed.symm.trans grouped
  · rename_i found made
    cases made.symm.trans grouped
    rw [List.filter_map, List.map_map, repeatNotices, List.map_map]
    rfl

end Notices

section Parts

/-- What a loop is made of: the expressions at its head, its body and its `else`. -/
structure LoopParts where
  head : List Expr
  body : List Stmt
  orelse : List Stmt

def loopParts? : Stmt → Option LoopParts
  | .forLoop _ _ target iter body orelse => some ⟨[target, iter], body, orelse⟩
  | .whileLoop _ test body orelse => some ⟨[test], body, orelse⟩
  | _ => none

theorem loop_parts_iff (s : Stmt) : s.isLoop = true ↔ ∃ parts, loopParts? s = some parts := by
  cases s <;> simp [Stmt.isLoop, loopParts?]

theorem reaches_append (stop : Node → Bool) (first second : List Tree) :
    reaches stop (first ++ second) = reaches stop first ++ reaches stop second := by
  induction first with
  | nil => rfl
  | cons t rest ih => rw [List.cons_append, reaches, ih, reaches, List.append_assoc]

variable (silent : Span → Rule → Bool)

def callsIn (ts : List Tree) : List (Span × Expr) :=
  heardCalls silent (reaches Node.isCallable ts)

theorem heard_calls_append (first second : List Node) :
    heardCalls silent (first ++ second) = heardCalls silent first ++ heardCalls silent second := by
  rw [heardCalls, List.filterMap_append, List.filter_append]
  rfl

theorem calls_in_append (first second : List Tree) :
    callsIn silent (first ++ second) = callsIn silent first ++ callsIn silent second := by
  rw [callsIn, reaches_append, heard_calls_append]
  rfl

def LoopParts.calls (parts : LoopParts) : List (Span × Expr) :=
  callsIn silent (exprTrees parts.head) ++ callsIn silent (stmtTrees parts.body) ++
    callsIn silent (stmtTrees parts.orelse)

theorem loop_calls {s : Stmt} {parts : LoopParts} (made : loopParts? s = some parts) :
    heardCalls silent (loopNodes (.stmt s)) = parts.calls silent := by
  have below : heardCalls silent (loopNodes (.stmt s)) =
      callsIn silent (exprTrees parts.head ++ stmtTrees parts.body ++ stmtTrees parts.orelse) := by
    cases s with
    | forLoop | whileLoop =>
      cases made
      rfl
    | _ => cases made
  rw [below, calls_in_append, calls_in_append]
  rfl

end Parts

section Leaving

variable (limits : Settings.Performance) (silent : Span → Rule → Bool) {m : Module}

def loop? : Node → Option Stmt
  | .stmt s => if s.isLoop then some s else none
  | _ => none

theorem loop_iff (node : Node) (s : Stmt) :
    loop? node = some s ↔ node = .stmt s ∧ s.isLoop = true := by
  cases node with
  | stmt other => grind [loop?]
  | _ => simp [loop?]

def loopsLeft (m : Module) : List Stmt := (m.tree.departures.map Prod.snd).filterMap loop?

theorem loops_among (nodes : List Node) :
    (nodes.filterMap loop?).map Node.stmt = nodes.filter Node.isLoop := by
  induction nodes with
  | nil => rfl
  | cons node rest ih =>
    cases is : loop? node with
    | none =>
      have other : node.isLoop = false := by
        cases node with
        | stmt s => simpa [loop?, Node.isLoop] using is
        | _ => rfl
      rw [List.filterMap_cons_none is, ih, List.filter_cons_of_neg (by simp [other])]
    | some s =>
      obtain ⟨rfl, isLoop⟩ := (loop_iff node s).mp is
      have kept : (Node.stmt s).isLoop = true := isLoop
      rw [List.filterMap_cons_some is, List.map_cons, ih, List.filter_cons_of_pos kept]

theorem loops_left_perm (m : Module) :
    ((loopsLeft m).map Node.stmt).Perm (m.tree.preorder.filter Node.isLoop) := by
  have nodes : (m.tree.departures.map Prod.snd).Perm m.tree.preorder := by
    rw [← preorder_reached, ← reached_nodes]
    exact (departures_perm m.tree).map Prod.snd
  rw [loopsLeft, loops_among]
  exact nodes.filter _

theorem mem_loops_left_iff (s : Stmt) :
    s ∈ loopsLeft m ↔ .stmt s ∈ m.tree.preorder ∧ s.isLoop = true := by
  have listed := (loops_left_perm m).mem_iff (a := .stmt s)
  rw [List.mem_filter, List.mem_map_of_injective (fun _ _ same => Node.stmt.inj same)] at listed
  exact listed

theorem flat_map_view {α β γ : Type} {f : α → List γ} {view : α → Option β} {g : β → List γ}
    {xs : List α} (agree : ∀ x ∈ xs, f x = (view x).elim [] g) :
    xs.flatMap f = (xs.filterMap view).flatMap g := by
  induction xs with
  | nil => rfl
  | cons x rest ih =>
    rw [List.flatMap_cons, agree x List.mem_cons_self,
      ih fun y member => agree y (List.mem_cons_of_mem x member), List.filterMap_cons]
    cases view x <;> rfl

theorem short_of_quiet {limits : Settings.Performance} {silent : Span → Rule → Bool}
    (quiet : (walk limits silent [] (m.tree.visits [])).all (!isError ·) = true) :
    ¬ HoldsOverlong silent m.tree := by
  intro long
  cases List.all_eq_true.mp quiet _ ((walk_error_iff .hugeInteger).mpr ⟨rfl, long⟩)

/-- The calls of a loop can be written out, unless it reaches an overlong one. -/
theorem loop_calls_small (short : ¬ HoldsOverlong silent m.tree) {s : Stmt}
    (listed : .stmt s ∈ m.tree.preorder) (isLoop : s.isLoop = true) :
    ∀ call ∈ heardCalls silent (loopNodes (.stmt s)), call.2.holdsHuge = false := by
  intro call member
  cases huge : call.2.holdsHuge with
  | false => rfl
  | true =>
    obtain ⟨loop, at_⟩ := (mem_preorder_iff m.tree _).mp listed
    obtain ⟨node, among, long⟩ := (huge_call_iff silent _).mp ⟨call, member, huge⟩
    obtain ⟨place, found, reaches⟩ := (mem_loop_nodes_iff at_ isLoop node).mp among
    exact absurd ⟨loop, _, place, node, at_, isLoop, found, reaches, long⟩ short

theorem concatenation_rule {limits : Settings.Performance} {silent : Span → Rule → Bool}
    {s : Scopes} {nodes : List Node} {notice : Notice}
    (told : concatenation limits silent s nodes = some notice) :
    ∃ span message suggestion, notice = Rule.textConcatenation.notice span message suggestion := by
  simp only [concatenation] at told
  split at told
  · cases told
  · split at told
    · cases told
      exact ⟨_, _, _, rfl⟩
    · cases told

/-- What is said of calls when a node is left. -/
theorem leave_calls (s : Scopes) (node : Node) :
    (check limits silent s (.leave [] node)).filter (isOf .repeatedCall) =
      (loop? node).elim [] fun loop =>
        (repeatedCalls limits silent (loopNodes (.stmt loop))).filter (isOf .repeatedCall) := by
  cases isLoop : node.isLoop with
  | false =>
    rw [leave_other isLoop]
    cases node with
    | stmt other => simp [loop?, show other.isLoop = false from isLoop]
    | _ => rfl
  | true =>
    cases node with
    | stmt loop =>
      have texts : (((concatenation limits silent s (loopNodes (.stmt loop))).map
          .ok).toList.filter (isOf .repeatedCall)) = [] := by
        rw [List.filter_eq_nil_iff]
        intro n member
        obtain ⟨notice, told, rfl⟩ := Option.map_eq_some_iff.mp (Option.mem_toList.mp member)
        obtain ⟨_, _, _, rfl⟩ := concatenation_rule told
        exact Bool.false_ne_true
      rw [leave_loop isLoop, List.filter_append, texts, List.nil_append,
        (loop_iff _ loop).mpr ⟨rfl, isLoop⟩]
      rfl
    | _ => cases isLoop

/-- What the family says of calls is what the loops say, one after the other. -/
theorem call_notices (short : ¬ HoldsOverlong silent m.tree) :
    (walk limits silent [] (m.tree.visits [])).filter (isOf .repeatedCall) =
      ((loopsLeft m).flatMap fun loop =>
        repeatNotices limits (heardCalls silent (loopNodes (.stmt loop)))).map .ok := by
  rw [walk_filter _ fun _ _ _ => arrival_unchosen (by decide), departing_visits, loopsLeft,
    List.filterMap_map, List.map_flatMap]
  apply flat_map_view
  rintro ⟨place, node⟩ departed
  have listed := (mem_preorder_iff m.tree node).mpr
    ⟨place, (mem_departures_iff m.tree place node).mp departed⟩
  change (check limits silent _ (.leave [] node)).filter _ = (loop? node).elim [] _
  rw [leave_calls]
  cases is : loop? node with
  | none => rfl
  | some loop =>
    obtain ⟨rfl, isLoop⟩ := (loop_iff node loop).mp is
    rw [Option.elim_some, Option.elim_some,
      repeated_calls_eq limits silent (loop_calls_small silent short listed isLoop),
      List.filter_eq_self]
    intro n member
    obtain ⟨_, noticed, rfl⟩ := List.mem_map.mp member
    obtain ⟨call, _, rfl⟩ := List.mem_map.mp noticed
    rfl

end Leaving

section Exactness

theorem filter_map_labels {α β γ : Type} {view : α → Option β} {keep : α → Bool} {shows : β → γ}
    {label : α → γ} {xs : List α} (kept : ∀ x ∈ xs, (view x).isSome = keep x)
    (labelled : ∀ x ∈ xs, ∀ y, view x = some y → shows y = label x) :
    (xs.filterMap view).map shows = (xs.filter keep).map label := by
  induction xs with
  | nil => rfl
  | cons x rest ih =>
    have later := ih (fun y member => kept y (List.mem_cons_of_mem x member))
      (fun y member => labelled y (List.mem_cons_of_mem x member))
    have here := kept x List.mem_cons_self
    cases viewed : view x with
    | none =>
      rw [viewed] at here
      rw [List.filterMap_cons_none viewed, List.filter_cons_of_neg (by simp [← here]), later]
    | some y =>
      rw [viewed] at here
      rw [List.filterMap_cons_some viewed, List.filter_cons_of_pos here.symm, List.map_cons,
        List.map_cons, later, labelled x List.mem_cons_self y viewed]

def onLine (span : Span) : Bool := span.placed.isSome

def labels (limits : Settings.Performance) (calls : List (Span × Expr)) :
    List ((Nat × Nat) × String) :=
  ((repeated limits calls).filter fun call => onLine call.1).map fun call =>
    (call.1.spot, repeatMessage (likes call.2 calls))

/-- What is reported of calls repeated in a loop: for each kind of calls that has enough of them one
report, which stands at the first of them and tells their number, in the order of the first ones.
The number is that of the calls in the head, in the body and in the `else`. -/
structure Tells (limits : Settings.Performance) (silent : Span → Rule → Bool) (parts : LoopParts)
    (reports : List Finding) : Prop where
  exact : reports.map (fun f => (f.spot, f.message)) = labels limits (parts.calls silent)
  counted : ∀ f ∈ reports, ∃ call ∈ parts.calls silent, f.spot = call.1.spot ∧
    limits.minDuplicateCalls ≤ likes call.2 (callsIn silent (exprTrees parts.head)) +
      likes call.2 (callsIn silent (stmtTrees parts.body)) +
      likes call.2 (callsIn silent (stmtTrees parts.orelse))

theorem notices_shown {l : Listing} {file : String} {ns : List Notice} {findings : List Finding}
    (published : l.publishAll file (ns.map .ok) = .ok findings) :
    findings = ns.filterMap (shown l file) := by
  rw [← List.filterMap_eq_map] at published
  exact @publish_all_shown l file Notice some ns findings published

def loopReports (limits : Settings.Performance) (l : Listing) (file : String) (loop : Stmt) :
    List Finding :=
  (repeatNotices limits (heardCalls (hushed l) (loopNodes (.stmt loop)))).filterMap (shown l file)

theorem shown_alike {l : Listing} {file : String} {n : Notice} {f : Finding}
    (made : shown l file n = some f) : f.sign = n.sign ∧ f.suggestion = some n.suggestion := by
  rw [shown] at made
  split at made
  · rename_i found published
    rw [made] at published
    obtain ⟨line, _, _, same⟩ := (l.publish_some_iff file n f).mp published
    exact ⟨publish_sign published, congrArg Finding.Draft.suggestion same⟩
  · cases made

variable {names : CharNames} {cs : List Char} {m : Module} (read : parse names cs = some m)

include read

/-- A notice at a node of a module that was read becomes a report if it has a line and no comment
silences its rule there. -/
theorem node_notice_shown_iff (l : Listing) (file : String) {node : Node} {span : Span}
    (inside : node ∈ m.tree.preorder) (stands : node.span? = some span) (rule : Rule)
    (message suggestion : String) :
    (shown l file (rule.notice span message suggestion)).isSome = true ↔
      onLine span = true ∧ hushed l span rule = false := by
  obtain ⟨found, published⟩ : ∃ found,
      l.publish file (rule.notice span message suggestion) = .ok found := by
    obtain ⟨line, column, endLine, rfl⟩ := parse_known read node inside span stands
    exact l.publish_total file _ (Int.natCast_nonneg column) rfl fun _ => rfl
  rw [shown, published]
  have dropped := l.publish_none_iff file (rule.notice span message suggestion)
  rw [published] at dropped
  simp only [Rule.notice, and_true] at dropped
  rw [onLine, hushed, Listing.silencesAt]
  cases placed : span.placed with
  | none =>
    rw [placed] at dropped
    cases dropped.mpr (Or.inl rfl)
    simp
  | some line =>
    rw [placed] at dropped
    cases silent : l.silences line (some rule.code) <;> cases found <;> simp_all

/-- A call that a loop counts becomes a report where it has a line. -/
theorem repeat_shown_iff (l : Listing) (file : String) {s : Stmt}
    (listed : .stmt s ∈ m.tree.preorder) (isLoop : s.isLoop = true) {call : Span × Expr}
    (member : call ∈ heardCalls (hushed l) (loopNodes (.stmt s))) (count : Nat) :
    (shown l file (repeatNotice call.1 count)).isSome = onLine call.1 := by
  obtain ⟨among, heard⟩ := List.mem_filter.mp member
  obtain ⟨node, inside, spelled⟩ := List.mem_filterMap.mp among
  have stands : node.span? = some call.1 := by
    unfold callSpan? at spelled
    split at spelled
    · cases spelled
      rfl
    · cases spelled
  obtain ⟨loop, at_⟩ := (mem_preorder_iff m.tree _).mp listed
  obtain ⟨place, found, _⟩ := (mem_loop_nodes_iff at_ isLoop node).mp inside
  rw [Bool.eq_iff_iff, repeatNotice, node_notice_shown_iff read l file
    ((mem_preorder_iff m.tree node).mpr ⟨place, found⟩) stands]
  exact and_iff_left (by simpa using heard)

theorem loop_tells (limits : Settings.Performance) {l : Listing} {file : String} {s : Stmt}
    {parts : LoopParts} (listed : .stmt s ∈ m.tree.preorder) (isLoop : s.isLoop = true)
    (made : loopParts? s = some parts) :
    Tells limits (hushed l) parts (loopReports limits l file s) := by
  rw [loopReports, loop_calls _ made, repeatNotices, List.filterMap_map]
  constructor
  · apply filter_map_labels
    · intro call member
      have counted := (firsts_sublist _).subset (List.mem_of_mem_filter member)
      rw [← loop_calls _ made] at counted
      exact repeat_shown_iff read l file listed isLoop counted _
    · intro call _ f told
      have sign := (shown_alike told).1
      exact congrArg₂ Prod.mk (congrArg Sign.spot sign) (congrArg Sign.message sign)
  · intro f member
    obtain ⟨call, among, told⟩ := List.mem_filterMap.mp member
    obtain ⟨first, enough⟩ := List.mem_filter.mp among
    refine ⟨call, (firsts_sublist _).subset first, congrArg Sign.spot (shown_alike told).1, ?_⟩
    rw [LoopParts.calls, likes_append, likes_append] at enough
    simpa using of_decide_eq_true enough

/--
What is reported of calls repeated in the loops of a module that was read. Where a loop reaches a
call that holds an integer too long to be written out, and the rule is not silenced there, the
examination fails. Else the reports of the rule are those of the loops, one loop after the other,
and each loop tells of the calls in its head, in its body and in its `else`, outside functions and
lambdas. So where the calls like a reported one are all in the body, enough of them are.
-/
theorem repeated_calls_reported (settings : Settings) (sheet : Sheet) (outside : Bool) :
    (HoldsOverlong (hushed sheet.listing) m.tree →
      examine settings sheet outside m .performance = .error .hugeInteger) ∧
    (¬ HoldsOverlong (hushed sheet.listing) m.tree →
      ∃ (verdict : Verdict) (loops : List Stmt) (report : Stmt → List Finding),
        examine settings sheet outside m .performance = .ok verdict ∧
        (loops.map Node.stmt).Perm (m.tree.preorder.filter Node.isLoop) ∧
        verdict.findings.filter (·.rule == "P007") = loops.flatMap report ∧
        ∀ loop ∈ loops, ∃ parts, loopParts? loop = some parts ∧
          Tells settings.performance (hushed sheet.listing) parts (report loop)) := by
  refine ⟨overlong_fails read settings sheet outside, ?_⟩
  intro short
  obtain ⟨findings, published⟩ :=
    walk_findings read settings.performance sheet.listing sheet.file short
  have ofRule := sheet.listing.publish_all_filter sheet.file (isOf .repeatedCall)
    (·.rule == "P007")
    (fun n f made => congrArg (· == "P007") (congrArg Sign.rule (publish_sign made))) published
  rw [call_notices _ _ short] at ofRule
  refine ⟨⟨findings, []⟩, loopsLeft m,
    loopReports settings.performance sheet.listing sheet.file, ?_, loops_left_perm m, ?_, ?_⟩
  · rw [examine_walk, published]
    rfl
  · rw [show List.filter _ _ = _ from notices_shown ofRule, List.filterMap_flatMap]
    rfl
  · intro loop listed
    obtain ⟨inside, isLoop⟩ := (mem_loops_left_iff loop).mp listed
    obtain ⟨parts, made⟩ := (loop_parts_iff loop).mp isLoop
    exact ⟨parts, made, loop_tells read settings.performance inside isLoop made⟩

end Exactness

section Instances

def expected (limits : Settings.Performance) (m : Module) : List ((Nat × Nat) × String) :=
  (m.tree.preorder.filterMap loop?).flatMap fun loop =>
    (loopParts? loop).elim [] fun parts => labels limits (parts.calls (hushed (.ofList [])))

def calledInLoop : List Char :=
  "for a in b:\n    f(a)\n    g(f(a))\n    c = f(a), lambda: f(a)\n".toList

theorem repeated_calls_reported_lambda :
    ∃ m verdict f, parse noNames calledInLoop = some m ∧
      examine {} ⟨"a.py", .ofList []⟩ false m .performance = .ok verdict ∧
      verdict.findings.filter (·.rule == "P007") = [f] ∧ f.spot = (2, 4) ∧
      f.message = "Repeated identical call in loop (3 times); consider caching the result" := by
  have spelled : (parse noNames calledInLoop).any (fun m =>
      expected {} m == [((2, 4), repeatMessage 3)] &&
        (walk {} (hushed (.ofList [])) [] (m.tree.visits [])).all (!isError ·)) = true := by
    decide +kernel
  obtain ⟨m, parsed, holds⟩ := (Option.any_eq_true _ _).mp spelled
  obtain ⟨told, quiet⟩ := by simpa only [Bool.and_eq_true, beq_iff_eq] using holds
  obtain ⟨verdict, loops, report, returned, same, reported, each⟩ :=
    (repeated_calls_reported parsed {} ⟨"a.py", .ofList []⟩ false).2 (short_of_quiet quiet)
  have shown : (loops.flatMap report).map (fun f => (f.spot, f.message)) =
      loops.flatMap fun loop => (loopParts? loop).elim [] fun parts =>
        labels {} (parts.calls (hushed (.ofList []))) := by
    rw [List.map_flatMap]
    refine List.flatMap_congr fun loop member => ?_
    obtain ⟨parts, made, tells⟩ := each loop member
    rw [made]
    exact tells.exact
  have loopsPerm : loops.Perm (m.tree.preorder.filterMap loop?) := by
    rw [← loops_among] at same
    exact (List.map_perm_map_iff fun _ _ same => Node.stmt.inj same).mp same
  have single := loopsPerm.flatMap_right fun loop => (loopParts? loop).elim [] fun parts =>
    labels {} (parts.calls (hushed (.ofList [])))
  rw [← shown, ← reported] at single
  change List.Perm _ (expected {} m) at single
  rw [told, List.perm_singleton, List.map_eq_singleton_iff] at single
  obtain ⟨f, alone, labelled⟩ := single
  exact ⟨m, verdict, f, parsed, returned, alone, congrArg Prod.fst labelled,
    (congrArg Prod.snd labelled).trans (by decide +kernel)⟩

def calledAtHead : List Char := "for a in f(b):\n    f(b)\n    f(b)\n".toList

def madeUpByHead (few : Nat) (m : Module) : Bool :=
  match m.body, examine {} ⟨"a.py", .ofList []⟩ false m .performance with
  | [loop], .ok ⟨[f], _⟩ => (loopParts? loop).any fun parts =>
    f.rule == "P007" && (callsIn (hushed (.ofList [])) (exprTrees parts.head)).any fun call =>
      f.spot == call.1.spot &&
        decide (likes call.2 (callsIn (hushed (.ofList [])) (stmtTrees parts.body)) < few)
  | _, _ => false

/-- A call is reported of which the body of the loop has too few: the head makes up the number. -/
theorem repeated_calls_of_head :
    ∃ m verdict loop parts call f, parse noNames calledAtHead = some m ∧ m.body = [loop] ∧
      loopParts? loop = some parts ∧
      examine {} ⟨"a.py", .ofList []⟩ false m .performance = .ok verdict ∧
      verdict.findings = [f] ∧ f.rule = "P007" ∧
      call ∈ callsIn (hushed (.ofList [])) (exprTrees parts.head) ∧ f.spot = call.1.spot ∧
      (likes call.2 (callsIn (hushed (.ofList [])) (stmtTrees parts.body)) : Int) <
        ({} : Settings).performance.minDuplicateCalls := by
  have spelled : (parse noNames calledAtHead).any (madeUpByHead 3) = true := by decide +kernel
  obtain ⟨m, parsed, holds⟩ := (Option.any_eq_true _ _).mp spelled
  unfold madeUpByHead at holds
  split at holds
  · rename_i loop f warnings body examined
    obtain ⟨parts, made, holds⟩ := (Option.any_eq_true _ _).mp holds
    obtain ⟨rule, among⟩ := (Bool.and_eq_true _ _).mp holds
    obtain ⟨call, member, both⟩ := List.any_eq_true.mp among
    obtain ⟨spot, few⟩ := (Bool.and_eq_true _ _).mp both
    refine ⟨m, _, loop, parts, call, f, parsed, body, made, examined, rfl, by simpa using rule,
      member, by simpa using spot, ?_⟩
    exact Int.ofNat_lt.mpr (of_decide_eq_true few)
  · cases holds

end Instances

end RefactorAdvice.Rules.Performance
