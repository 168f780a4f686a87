import RefactorAdvice.Proofs.Publishing

/-!
Bodies whose end is not reached. A path runs the statements of a list in order. It is left by one of
the four leaving statements; a test goes either way; a `try` without `finally` runs its body and
then its `else`, or goes from any point of its body into any handler; a `match` takes any case, and
if none of them fits whatever comes, perhaps none. What other statements do is left open: they have
whatever paths they are given.

An `else` is advised against where the body before it seems to be left on every way. The advice is
right about tests and `try`, and wrong about a `match` that may take none of its cases: a path
that reaches the end of such a body has gone past a match in just that way, and where every match
at the end has a case for whatever comes there is no such path. The `else` can then be taken
away.
-/

namespace RefactorAdvice

def Code.MatchCase.fitsAll (c : Code.MatchCase Code.Stmt) : Bool :=
  match c.guard, c.pattern with
  | none, .bind _ none _ => true
  | _, _ => false

namespace Rules.ControlFlow

open Code

section Paths

/-- How a path ends: at the end of its statements, by a leaving statement, or broken off by an
exception at some point. -/
inductive Exit where
  | reached
  | left (ending : Ending)
  | broken
deriving DecidableEq

inductive Event where
  | ran (s : Stmt)
  | tested (test : Expr) (held : Bool)
  | took (c : MatchCase Stmt)
  | tookNone (cases : List (MatchCase Stmt))
  | caught (handler : Handler Stmt)

def isKnown : Stmt → Bool
  | .ret .. | .raise .. | .brk _ | .cont _ | .ifElse .. | .matchOn .. => true
  | .tryBlock _ false _ _ _ [] => true
  | _ => false

abbrev Ways := Stmt → List Event → Exit → Prop

mutual

inductive Takes (others : Ways) : Stmt → List Event → Exit → Prop
  | ret (span : Span) (value : Option Expr) :
      Takes others (.ret span value) [.ran (.ret span value)] (.left .ret)
  | raise (span : Span) (exc cause : Option Expr) :
      Takes others (.raise span exc cause) [.ran (.raise span exc cause)] (.left .raise)
  | brk (span : Span) : Takes others (.brk span) [.ran (.brk span)] (.left .brk)
  | cont (span : Span) : Takes others (.cont span) [.ran (.cont span)] (.left .cont)
  | holds (span : Span) (test : Expr) (body orelse : List Stmt) {trace : List Event} {exit : Exit} :
      Runs others body trace exit →
      Takes others (.ifElse span test body orelse) (.tested test true :: trace) exit
  | fails (span : Span) (test : Expr) (body orelse : List Stmt) {trace : List Event} {exit : Exit} :
      Runs others orelse trace exit →
      Takes others (.ifElse span test body orelse) (.tested test false :: trace) exit
  | finished (span : Span) (body : List Stmt) (handlers : List (Handler Stmt)) (orelse : List Stmt)
      {trace more : List Event} {exit : Exit} :
      Runs others body trace .reached → Runs others orelse more exit →
      Takes others (.tryBlock span false body handlers orelse []) (trace ++ more) exit
  | passed (span : Span) (body : List Stmt) (handlers : List (Handler Stmt)) (orelse : List Stmt)
      {trace : List Event} {exit : Exit} :
      Runs others body trace exit → exit ≠ .reached →
      Takes others (.tryBlock span false body handlers orelse []) trace exit
  | caught (span : Span) (body : List Stmt) (handlers : List (Handler Stmt)) (orelse : List Stmt)
      (handler : Handler Stmt) {trace more : List Event} {cause exit : Exit} :
      Runs others body trace cause → cause = .broken ∨ cause = .left .raise → handler ∈ handlers →
      Runs others handler.body more exit →
      Takes others (.tryBlock span false body handlers orelse [])
        (trace ++ .caught handler :: more) exit
  | took (span : Span) (subject : Expr) (cases : List (MatchCase Stmt)) (c : MatchCase Stmt)
      {trace : List Event} {exit : Exit} :
      c ∈ cases → Runs others c.body trace exit →
      Takes others (.matchOn span subject cases) (.took c :: trace) exit
  | tookNone (span : Span) (subject : Expr) (cases : List (MatchCase Stmt)) :
      (∀ c ∈ cases, c.fitsAll = false) →
      Takes others (.matchOn span subject cases) [.tookNone cases] .reached
  | other (s : Stmt) {trace : List Event} {exit : Exit} :
      isKnown s = false → others s trace exit → Takes others s trace exit

inductive Runs (others : Ways) : List Stmt → List Event → Exit → Prop
  | done : Runs others [] [] .reached
  | broken (body : List Stmt) : Runs others body [] .broken
  | next (s : Stmt) (rest : List Stmt) {trace more : List Event} {exit : Exit} :
      Takes others s trace .reached → Runs others rest more exit →
      Runs others (s :: rest) (trace ++ more) exit
  | left (s : Stmt) (rest : List Stmt) {trace : List Event} {exit : Exit} :
      Takes others s trace exit → exit ≠ .reached → Runs others (s :: rest) trace exit

end

end Paths

section Matches

mutual
def endMatches : Stmt → List (List (MatchCase Stmt))
  | .ifElse _ _ body orelse => lastMatches body ++ lastMatches orelse
  | .tryBlock _ false body handlers orelse [] =>
    lastMatches body ++ handlerMatches handlers ++ lastMatches orelse
  | .matchOn _ _ cases => cases :: caseMatches cases
  | _ => []

def lastMatches : List Stmt → List (List (MatchCase Stmt))
  | [] => []
  | [s] => endMatches s
  | _ :: rest => lastMatches rest

def handlerMatches : List (Handler Stmt) → List (List (MatchCase Stmt))
  | [] => []
  | ⟨_, _, _, body⟩ :: rest => lastMatches body ++ handlerMatches rest

def caseMatches : List (MatchCase Stmt) → List (List (MatchCase Stmt))
  | [] => []
  | ⟨_, _, body⟩ :: rest => lastMatches body ++ caseMatches rest
end

/-- A path whose last event is that one of the given matches took none of its cases. -/
def SlipsBy (ends : List (List (MatchCase Stmt))) (trace : List Event) : Prop :=
  ∃ front cases, trace = front ++ [.tookNone cases] ∧ cases ∈ ends ∧ ∀ c ∈ cases, c.fitsAll = false

theorem slips_behind {ends : List (List (MatchCase Stmt))} {trace : List Event}
    (before : List Event) (slips : SlipsBy ends trace) : SlipsBy ends (before ++ trace) := by
  obtain ⟨front, cases, rfl, listed, none⟩ := slips
  exact ⟨before ++ front, cases, (List.append_assoc ..).symm, listed, none⟩

theorem slips_among {fewer more : List (List (MatchCase Stmt))} {trace : List Event}
    (among : fewer ⊆ more) (slips : SlipsBy fewer trace) : SlipsBy more trace := by
  obtain ⟨front, cases, spelled, listed, none⟩ := slips
  exact ⟨front, cases, spelled, among listed, none⟩

theorem handlers_leave_each {handlers : List (Handler Stmt)} (leave : handlersLeave handlers = true)
    {handler : Handler Stmt} (listed : handler ∈ handlers) :
    lastLeaves handler.body = true ∧ lastMatches handler.body ⊆ handlerMatches handlers := by
  induction handlers with
  | nil => cases listed
  | cons first rest ih =>
    rw [handlersLeave, Bool.and_eq_true] at leave
    rw [handlerMatches]
    rcases List.mem_cons.mp listed with rfl | later
    · exact ⟨leave.1, List.subset_append_left _ _⟩
    · obtain ⟨leaves, among⟩ := ih leave.2 later
      exact ⟨leaves, List.subset_append_of_subset_right _ among⟩

theorem cases_leave_each {cases_ : List (MatchCase Stmt)} (leave : casesLeave cases_ = true)
    {c : MatchCase Stmt} (listed : c ∈ cases_) :
    lastLeaves c.body = true ∧ lastMatches c.body ⊆ caseMatches cases_ := by
  induction cases_ with
  | nil => cases listed
  | cons first rest ih =>
    rw [casesLeave, Bool.and_eq_true] at leave
    rw [caseMatches]
    rcases List.mem_cons.mp listed with rfl | later
    · exact ⟨leave.1, List.subset_append_left _ _⟩
    · obtain ⟨leaves, among⟩ := ih leave.2 later
      exact ⟨leaves, List.subset_append_of_subset_right _ among⟩

end Matches

section Ends

variable {others : Ways}

theorem unknown_stays {s : Stmt} (unknown : isKnown s = false) : leaves s = false := by
  cases s with
  | ret | raise | brk | cont | ifElse | matchOn => cases unknown
  | tryBlock span isStar body handlers orelse finalbody =>
    cases isStar with
    | true => simp [leaves]
    | false =>
      cases finalbody with
      | nil => cases unknown
      | cons first rest => simp [leaves]
  | _ => simp [leaves]

theorem runs_nil {trace : List Event} (run : Runs others [] trace .reached) : trace = [] := by
  cases run
  rfl

-- By recursion on the path: each way that the path can go is one that the check has looked at,
-- but for the one past all cases of a match.
mutual

theorem takes_slips : ∀ {s : Stmt} {trace : List Event} {exit : Exit}, Takes others s trace exit →
    exit = .reached → leaves s = true → SlipsBy (endMatches s) trace
  | _, _, _, .ret .., reached, _ => by cases reached
  | _, _, _, .raise .., reached, _ => by cases reached
  | _, _, _, .brk .., reached, _ => by cases reached
  | _, _, _, .cont .., reached, _ => by cases reached
  | _, _, _, .holds span test body orelse run, reached, leave => by
    rw [leaves, Bool.and_eq_true] at leave
    rw [endMatches]
    exact slips_behind [_]
      (slips_among (List.subset_append_left _ _) (runs_slips run reached leave.1))
  | _, _, _, .fails span test body orelse run, reached, leave => by
    rw [leaves, Bool.and_eq_true] at leave
    rw [endMatches]
    exact slips_behind [_]
      (slips_among (List.subset_append_right _ _) (runs_slips run reached leave.2))
  | _, _, _, .finished span body handlers orelse run after, reached, leave => by
    rw [leaves, Bool.and_eq_true, Bool.and_eq_true] at leave
    rw [endMatches]
    have inBody := runs_slips run rfl leave.1.1
    have inElse := runs_slips after reached
    cases orelse with
    | nil =>
      subst reached
      rw [runs_nil after, List.append_nil]
      exact slips_among (fun _ listed => by simp [listed]) inBody
    | cons first rest =>
      exact slips_behind _
        (slips_among (List.subset_append_right _ _) (inElse (by simpa using leave.2)))
  | _, _, _, .passed span body handlers orelse run away, reached, _ => absurd reached away
  | _, _, _, .caught span body handlers orelse handler run cause listed after, reached, leave => by
    rw [leaves, Bool.and_eq_true, Bool.and_eq_true] at leave
    rw [endMatches]
    obtain ⟨left, among⟩ := handlers_leave_each leave.1.2 listed
    have inHandler := runs_slips after reached left
    refine slips_behind _ (slips_behind [_] (slips_among ?_ inHandler))
    exact fun _ member => by simp [among member]
  | _, _, _, .took span subject cases_ c listed run, reached, leave => by
    rw [leaves, Bool.and_eq_true] at leave
    rw [endMatches]
    obtain ⟨left, among⟩ := cases_leave_each leave.2 listed
    exact slips_behind [_]
      (slips_among (List.subset_cons_of_subset _ among) (runs_slips run reached left))
  | _, _, _, .tookNone span subject cases_ unfit, _, _ => by
    rw [endMatches]
    exact ⟨[], cases_, rfl, List.mem_cons_self, unfit⟩
  | _, _, _, .other s unknown _, _, leave => by
    rw [unknown_stays unknown] at leave
    cases leave

theorem runs_slips : ∀ {body : List Stmt} {trace : List Event} {exit : Exit},
    Runs others body trace exit → exit = .reached → lastLeaves body = true →
    SlipsBy (lastMatches body) trace
  | _, _, _, .done, _, leave => by cases leave
  | _, _, _, .broken _, reached, _ => by cases reached
  | _, _, _, .next s rest first later, reached, leave => by
    have here := takes_slips first rfl
    have there := runs_slips later reached
    cases rest with
    | nil =>
      subst reached
      rw [runs_nil later, List.append_nil]
      exact here leave
    | cons second rest => exact slips_behind _ (there leave)
  | _, _, _, .left s rest first away, reached, _ => absurd reached away

end

-- What is left of the ways past the matches once each has a case for whatever comes.
theorem runs_unreached {body : List Stmt} (leave : lastLeaves body = true)
    (covered : ∀ cases ∈ lastMatches body, ∃ c ∈ cases, c.fitsAll = true) (trace : List Event) :
    ¬ Runs others body trace .reached := by
  intro run
  obtain ⟨_, cases, _, listed, unfit⟩ := runs_slips run rfl leave
  obtain ⟨c, member, fits⟩ := covered cases listed
  rw [unfit c member] at fits
  cases fits

end Ends

section Unindenting

variable {others : Ways}

theorem runs_append_iff (front back : List Stmt) (trace : List Event) (exit : Exit) :
    Runs others (front ++ back) trace exit ↔
      (∃ before after, Runs others front before .reached ∧ Runs others back after exit ∧
        trace = before ++ after) ∨ (Runs others front trace exit ∧ exit ≠ .reached) := by
  induction front generalizing trace with
  | nil =>
    constructor
    · intro run
      exact Or.inl ⟨[], trace, .done, run, rfl⟩
    · rintro (⟨before, after, run, later, rfl⟩ | ⟨run, away⟩)
      · rwa [runs_nil run]
      · cases run with
        | done => exact absurd rfl away
        | broken => exact .broken _
  | cons s rest ih =>
    constructor
    · intro run
      cases run with
      | broken => exact Or.inr ⟨.broken _, by simp⟩
      | next _ _ first later =>
        rcases (ih _).mp later with ⟨before, after, run, tail, rfl⟩ | ⟨run, away⟩
        · exact Or.inl ⟨_, after, .next s rest first run, tail, (List.append_assoc ..).symm⟩
        · exact Or.inr ⟨.next s rest first run, away⟩
      | left _ _ first away => exact Or.inr ⟨.left s rest first away, away⟩
    · rintro (⟨before, after, run, later, rfl⟩ | ⟨run, away⟩)
      · cases run with
        | next _ _ first run =>
          rw [List.append_assoc]
          exact .next s _ first ((ih _).mpr (Or.inl ⟨_, after, run, later, rfl⟩))
        | left _ _ _ away => exact absurd rfl away
      · cases run with
        | broken => exact .broken _
        | next _ _ first run => exact .next s _ first ((ih _).mpr (Or.inr ⟨run, away⟩))
        | left _ _ first away => exact .left s _ first away

theorem takes_if_iff (span : Span) (test : Expr) (body orelse : List Stmt) (trace : List Event)
    (exit : Exit) :
    Takes others (.ifElse span test body orelse) trace exit ↔
      (∃ more, Runs others body more exit ∧ trace = .tested test true :: more) ∨
        ∃ more, Runs others orelse more exit ∧ trace = .tested test false :: more := by
  constructor
  · intro taken
    cases taken with
    | holds _ _ _ _ run => exact Or.inl ⟨_, run, rfl⟩
    | fails _ _ _ _ run => exact Or.inr ⟨_, run, rfl⟩
    | other _ unknown => cases unknown
  · rintro (⟨more, run, rfl⟩ | ⟨more, run, rfl⟩)
    · exact .holds span test body orelse run
    · exact .fails span test body orelse run

theorem runs_past (span : Span) (test : Expr) (body : List Stmt) {rest : List Stmt}
    {trace : List Event} {exit : Exit} (run : Runs others rest trace exit) :
    Runs others (.ifElse span test body [] :: rest) (.tested test false :: trace) exit :=
  .next _ rest (.fails span test body [] .done) run

-- A test that held leaves the list either way, and one that failed goes on with the same
-- statements, from inside the `else` or from behind the test.
theorem runs_unindented (span : Span) (test : Expr) (body orelse : List Stmt)
    (unreached : ∀ trace, ¬ Runs others body trace .reached) (rest : List Stmt)
    (trace : List Event) (exit : Exit) :
    Runs others (.ifElse span test body orelse :: rest) trace exit ↔
      Runs others (.ifElse span test body [] :: (orelse ++ rest)) trace exit := by
  constructor
  · intro run
    cases run with
    | broken => exact .broken _
    | next _ _ first later =>
      rcases (takes_if_iff ..).mp first with ⟨more, run, _⟩ | ⟨more, run, rfl⟩
      · exact absurd run (unreached more)
      · exact runs_past span test body
          ((runs_append_iff ..).mpr (Or.inl ⟨more, _, run, later, rfl⟩))
    | left _ _ first away =>
      rcases (takes_if_iff ..).mp first with ⟨more, run, rfl⟩ | ⟨more, run, rfl⟩
      · exact .left _ _ (.holds span test body [] run) away
      · exact runs_past span test body ((runs_append_iff ..).mpr (Or.inr ⟨run, away⟩))
  · intro run
    cases run with
    | broken => exact .broken _
    | next _ _ first later =>
      rcases (takes_if_iff ..).mp first with ⟨more, run, _⟩ | ⟨more, run, rfl⟩
      · exact absurd run (unreached more)
      · rw [runs_nil run]
        rcases (runs_append_iff ..).mp later with ⟨before, after, own, tail, rfl⟩ | ⟨own, away⟩
        · have whole := Runs.next _ rest (.fails span test body orelse own) tail
          exact whole
        · exact .left _ _ (.fails span test body orelse own) away
    | left _ _ first away =>
      rcases (takes_if_iff ..).mp first with ⟨more, run, rfl⟩ | ⟨more, run, rfl⟩
      · exact .left _ _ (.holds span test body orelse run) away
      · cases run with
        | done => exact absurd rfl away
        | broken => exact .left _ _ (.fails span test body orelse (.broken orelse)) away

theorem runs_behind (front : List Stmt) {one another : List Stmt}
    (same : ∀ trace exit, Runs others one trace exit ↔ Runs others another trace exit)
    (trace : List Event) (exit : Exit) :
    Runs others (front ++ one) trace exit ↔ Runs others (front ++ another) trace exit := by
  simp only [runs_append_iff, same]

end Unindenting

section Reports

theorem check_leaves (span : Span) (test : Expr) (body orelse : List Stmt) (n : Notice)
    (noticed : check (.stmt (.ifElse span test body orelse)) = some n) :
    lastLeaves body = true := by
  rw [check] at noticed
  split at noticed
  · rename_i both
    exact (Bool.and_eq_true_iff.mp both).2
  · cases noticed

theorem notices_tests (m : Module) (n : Notice) (noticed : .ok n ∈ notices m) :
    ∃ span test body orelse, .stmt (.ifElse span test body orelse) ∈ m.tree.preorder ∧
      check (.stmt (.ifElse span test body orelse)) = some n := by
  obtain ⟨node, listed, told⟩ := List.mem_filterMap.mp noticed
  obtain ⟨found, checked, same⟩ := Option.map_eq_some_iff.mp told
  cases same
  unfold check at checked
  split at checked
  · exact ⟨_, _, _, _, listed, checked⟩
  · cases checked

/--
Every report is of a test with an `else`. A path through the body before that `else` reaches its end
only past a match at the end of the body that takes none of its cases. Where each of these matches
has a case for whatever comes, no path reaches the end, and the paths stay the same, wherever the
test stands, when the `else` is taken away and its statements follow the test.
-/
theorem reported_else_unreached (others : Ways) :
    (∀ settings sheet outside m verdict,
      examine settings sheet outside m .controlFlow = .ok verdict → ∀ f ∈ verdict.findings,
        ∃ span test body orelse n, .stmt (.ifElse span test body orelse) ∈ m.tree.preorder ∧
          check (.stmt (.ifElse span test body orelse)) = some n ∧
          sheet.listing.publish sheet.file n = .ok (some f)) ∧
      ∀ span test body orelse n, check (.stmt (.ifElse span test body orelse)) = some n →
        (∀ trace, Runs others body trace .reached → SlipsBy (lastMatches body) trace) ∧
        ((∀ cases ∈ lastMatches body, ∃ c ∈ cases, c.fitsAll = true) →
          (∀ trace, ¬ Runs others body trace .reached) ∧
          ∀ front rest trace exit,
            Runs others (front ++ .ifElse span test body orelse :: rest) trace exit ↔
              Runs others (front ++ .ifElse span test body [] :: (orelse ++ rest)) trace exit) := by
  refine ⟨fun settings sheet outside m verdict returned f member => ?_, ?_⟩
  · rw [examine_eq _ _ _ _ .controlFlow (by decide)] at returned
    obtain ⟨findings, published, same⟩ := (bind_ok_iff _ _ _).mp returned
    cases same
    obtain ⟨n, noticed, made⟩ :=
      sheet.listing.publish_all_source sheet.file _ findings published f member
    obtain ⟨span, test, body, orelse, listed, checked⟩ := notices_tests m n noticed
    exact ⟨span, test, body, orelse, n, listed, checked, made⟩
  · intro span test body orelse n noticed
    have leave := check_leaves span test body orelse n noticed
    refine ⟨fun trace run => runs_slips run rfl leave, fun covered => ?_⟩
    have unreached : ∀ trace, ¬ Runs others body trace .reached := runs_unreached leave covered
    exact ⟨unreached, fun front rest => runs_behind front
      (runs_unindented span test body orelse unreached rest)⟩

section Samples

def plainly : Ways := fun s trace exit => trace = [.ran s] ∧ exit = .reached

def here : Span := .known 1 0 1

def named (id : String) : Expr := .name here id .load

def called (id : String) : Stmt := .expr here (.call here (named id) [] [])

def returning : MatchCase Stmt :=
  ⟨.value here (.constant here (.int 1)), none, [.ret here none]⟩

def continuing : MatchCase Stmt := ⟨.bind here none none, none, [.cont here]⟩

def guarded : List Stmt :=
  [.tryBlock here false [called "f", .matchOn here (named "b") [returning, continuing]]
    [⟨here, none, none, [.raise here none none]⟩] [] []]

theorem reported_else_unreached_guarded :
    (check (.stmt (.ifElse here (named "a") guarded [called "c"]))).map Notice.rule = some "R002" ∧
      (∀ trace, ¬ Runs plainly guarded trace .reached) ∧
      ∀ rest trace exit,
        Runs plainly (.ifElse here (named "a") guarded [called "c"] :: rest) trace exit ↔
          Runs plainly (.ifElse here (named "a") guarded [] :: called "c" :: rest) trace exit := by
  obtain ⟨n, noticed⟩ :
      ∃ n, check (.stmt (.ifElse here (named "a") guarded [called "c"])) = some n :=
    ⟨_, rfl⟩
  have covered : ∀ cases ∈ lastMatches guarded, ∃ c ∈ cases, c.fitsAll = true := by
    simp [guarded, lastMatches, endMatches, handlerMatches, caseMatches, returning, continuing,
      called, MatchCase.fitsAll]
  obtain ⟨unreached, same⟩ := ((reported_else_unreached plainly).2 _ _ _ _ n noticed).2 covered
  refine ⟨?_, unreached, fun rest => same [] rest⟩
  rw [noticed]
  cases noticed
  rfl

theorem runs_called (id : String) {trace : List Event}
    (run : Runs plainly [called id] trace .reached) : trace = [.ran (called id)] := by
  cases run with
  | next _ _ first rest =>
    cases first with
    | other _ _ ran => rw [ran.1, runs_nil rest, List.append_nil]
  | left _ _ _ away => exact absurd rfl away

/-- A report on a body whose end is reached: without its `else` a path would go on to other
statements. -/
theorem reported_else_reached :
    (check (.stmt (.ifElse here (named "a") [.matchOn here (named "b") [returning]]
        [called "c"]))).map Notice.rule = some "R002" ∧
      ∃ trace, Runs plainly [.matchOn here (named "b") [returning]] trace .reached ∧
        Runs plainly [.ifElse here (named "a") [.matchOn here (named "b") [returning]] [called "c"]]
          (.tested (named "a") true :: trace) .reached ∧
        ¬ Runs plainly
          [.ifElse here (named "a") [.matchOn here (named "b") [returning]] [], called "c"]
          (.tested (named "a") true :: trace) .reached := by
  have unfit : ∀ c ∈ [returning], c.fitsAll = false := by
    simp [returning, MatchCase.fitsAll]
  have slipping : Runs plainly [.matchOn here (named "b") [returning]] [.tookNone [returning]]
      .reached := .next _ [] (.tookNone here (named "b") [returning] unfit) .done
  refine ⟨rfl, [.tookNone [returning]], slipping, ?_, ?_⟩
  · exact .next _ [] (.holds here (named "a") _ [called "c"] slipping) .done
  · intro run
    obtain ⟨before, after, _, last, spelled⟩ | ⟨_, away⟩ :=
      (runs_append_iff [.ifElse here (named "a") [.matchOn here (named "b") [returning]] []]
        [called "c"] _ _).mp run
    · have ends := congrArg List.getLast? spelled
      rw [runs_called "c" last] at ends
      simp at ends
    · exact away rfl

end Samples

end Reports

end Rules.ControlFlow

end RefactorAdvice
