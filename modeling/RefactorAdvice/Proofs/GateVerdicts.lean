import Mathlib.Data.List.TakeWhile
import RefactorAdvice.Gate.Run

/-!
What a run of the gate comes to. A step says its piece, starts its one program and is judged by what
that leaves behind; no step looks at what the others came to. So every program is started once and
in order, unless the report of the linter cannot be written, and the verdict is the list of the
steps that were not passed.

All but one of the required steps are judged by the exit code. The search for blanks at line ends is
judged by what it says, so a program that fails there without a word is taken for a good one.
-/

namespace RefactorAdvice

namespace Work

variable {α β : Type} {w after : Workshop}

section Sequences

theorem outcome_bind {x : Work α} {next : α → Work β} {value : α}
    (first : x.outcome w = (.ok value, after)) :
    (x >>= next).outcome w = (next value).outcome after := by
  unfold outcome at first ⊢
  rw [ExceptT.run_bind, StateT.run_bind, first]
  rfl

theorem outcome_bind_error {x : Work α} {next : α → Work β} {failure : Failure}
    (first : x.outcome w = (.error failure, after)) :
    (x >>= next).outcome w = (.error failure, after) := by
  unfold outcome at first ⊢
  rw [ExceptT.run_bind, StateT.run_bind, first]
  rfl

end Sequences

def printed (lines : List String) : String := String.join (lines.map (· ++ "\n"))

theorem printed_append (first second : List String) :
    printed (first ++ second) = printed first ++ printed second := by
  rw [printed, List.map_append, String.join_append]
  rfl

theorem outcome_say_all (lines : List String) (w : Workshop) :
    (sayAll lines).outcome w = (.ok (), { w with out := w.out ++ printed lines }) := by
  induction lines generalizing w with
  | nil =>
    have nothing : w.out ++ printed [] = w.out := String.append_empty
    rw [nothing]
    rfl
  | cons line rest ih =>
    have said : (say line).outcome w = (.ok (), { w with out := w.out ++ line ++ "\n" }) := rfl
    have all : (sayAll (line :: rest)).outcome w =
        (sayAll rest).outcome { w with out := w.out ++ line ++ "\n" } := outcome_bind said
    rw [all, ih]
    simp only [printed, List.map_cons, String.join_cons, String.append_assoc]

def answer (results : List ToolResult) : ToolResult := results.headD {}

theorem outcome_start (w : Workshop) {results : List ToolResult}
    (given : w.answers = results.map .ok) (command : List String) :
    (start command).outcome w = (.ok (answer results),
      { w with started := w.started ++ [command], answers := results.tail.map .ok }) := by
  cases results with
  | nil =>
    obtain ⟨store, answers, started, out, err⟩ := w
    cases given
    rfl
  | cons result rest =>
    obtain ⟨store, answers, started, out, err⟩ := w
    cases given
    rfl

section Writing

variable {path : Path} {text : String}

theorem outcome_write (w : Workshop) {store : Store}
    (written : w.store.write path text = .ok store) :
    (write path text).outcome w = (.ok (), { w with store := store }) := by
  have asked : (get : Work Workshop).outcome w = (.ok w, w) := rfl
  refine (outcome_bind asked).trans ?_
  rw [written]
  rfl

theorem outcome_write_error (w : Workshop) {fault : FileFault}
    (refused : w.store.write path text = .error fault) :
    (write path text).outcome w =
      (.error (.raised .system (fault.message (w.store.fullPath path.parts))), w) := by
  have asked : (get : Work Workshop).outcome w = (.ok w, w) := rfl
  refine (outcome_bind asked).trans ?_
  rw [refused]
  rfl

end Writing

end Work

namespace Gate

open Work

section Steps

variable {p : Places} {s : Step}

def account (p : Places) (made : Step × ToolResult) : List String :=
  opening p made.1 ++ verdict p made.1 made.2

def afterStep (p : Places) (w : Workshop) (results : List ToolResult) (s : Step) : Workshop :=
  { w with
    started := w.started ++ [s.command]
    answers := results.tail.map .ok
    out := w.out ++ printed (account p (s, answer results)) }

def closeStep (p : Places) (s : Step) (result : ToolResult) : Work Bool := do
  if s.judge = .reported then write reportPath result.captured
  sayAll (verdict p s result)
  return s.passes result

def startedStep (p : Places) (w : Workshop) (results : List ToolResult) (s : Step) : Workshop :=
  { w with
    started := w.started ++ [s.command]
    answers := results.tail.map .ok
    out := w.out ++ printed (opening p s) }

theorem run_step_started (w : Workshop) (results : List ToolResult)
    (given : w.answers = results.map .ok) :
    (runStep p s).outcome w =
      (closeStep p s (answer results)).outcome (startedStep p w results s) := by
  have begun := outcome_start { w with out := w.out ++ printed (opening p s) } given s.command
  refine (outcome_bind (outcome_say_all _ w)).trans ?_
  exact (outcome_bind begun).trans rfl

theorem run_step_plain (w : Workshop) (results : List ToolResult)
    (given : w.answers = results.map .ok) (plain : s.judge ≠ .reported) :
    (runStep p s).outcome w = (.ok (s.passes (answer results)), afterStep p w results s) := by
  rw [run_step_started w results given, closeStep, if_neg plain]
  refine (outcome_bind (outcome_say_all _ _)).trans ?_
  simp only [startedStep, afterStep, account, printed_append, String.append_assoc]
  rfl

theorem run_step_reported (w : Workshop) (results : List ToolResult)
    (given : w.answers = results.map .ok) (kept : s.judge = .reported) {store : Store}
    (written : w.store.write reportPath (answer results).captured = .ok store) :
    (runStep p s).outcome w =
      (.ok (s.passes (answer results)), { afterStep p w results s with store := store }) := by
  rw [run_step_started w results given, closeStep, if_pos kept]
  have wrote := outcome_write (startedStep p w results s) written
  refine (outcome_bind wrote).trans ?_
  refine (outcome_bind (outcome_say_all _ _)).trans ?_
  simp only [startedStep, afterStep, account, printed_append, String.append_assoc]
  rfl

theorem run_step_barred (w : Workshop) (results : List ToolResult)
    (given : w.answers = results.map .ok) (kept : s.judge = .reported) {fault : FileFault}
    (refused : w.store.write reportPath (answer results).captured = .error fault) :
    (runStep p s).outcome w =
      (.error (.raised .system (fault.message (w.store.fullPath reportPath.parts))),
        startedStep p w results s) := by
  rw [run_step_started w results given, closeStep, if_pos kept]
  exact outcome_bind_error (outcome_write_error (startedStep p w results s) refused)

end Steps

section Runs

variable {p : Places} {w : Workshop} {results : List ToolResult}

def answered : List Step → List ToolResult → List (Step × ToolResult)
  | [], _ => []
  | s :: rest, results => (s, answer results) :: answered rest results.tail

def afterSteps (p : Places) (w : Workshop) (results : List ToolResult) (steps : List Step) :
    Workshop :=
  { w with
    started := w.started ++ steps.map (·.command)
    answers := (results.drop steps.length).map .ok
    out := w.out ++ printed ((answered steps results).flatMap (account p)) }

def unpassed (made : List (Step × ToolResult)) : List String :=
  (made.filter fun m => !m.1.passes m.2).map (·.1.name)

theorem answered_append (first second : List Step) (results : List ToolResult) :
    answered (first ++ second) results =
      answered first results ++ answered second (results.drop first.length) := by
  induction first generalizing results with
  | nil => rfl
  | cons s rest ih =>
    rw [List.cons_append, answered, answered, ih, List.cons_append, List.length_cons,
      ← List.drop_tail]

theorem answered_steps (steps : List Step) (results : List ToolResult) :
    (answered steps results).map (·.1) = steps := by
  induction steps generalizing results with
  | nil => rfl
  | cons s rest ih => rw [answered, List.map_cons, ih]

theorem after_steps_append (first second : List Step) :
    afterSteps p (afterSteps p w results first) (results.drop first.length) second =
      afterSteps p w results (first ++ second) := by
  simp only [afterSteps, answered_append, List.flatMap_append, printed_append, List.map_append,
    List.drop_drop, List.length_append, List.append_assoc, String.append_assoc]

theorem unpassed_cons (s : Step) (r : ToolResult) (rest : List (Step × ToolResult)) :
    unpassed ((s, r) :: rest) = if s.passes r then unpassed rest else s.name :: unpassed rest := by
  cases passed : s.passes r <;> simp [unpassed, passed]

theorem unpassed_append (first second : List (Step × ToolResult)) :
    unpassed (first ++ second) = unpassed first ++ unpassed second := by
  simp [unpassed]

/-- A step that is made does not keep the others from being made. -/
theorem run_steps_cons {s : Step} {rest : List Step} {passed : Bool}
    {ending : Except Failure (List String)} {between after : Workshop}
    (first : (runStep p s).outcome w = (.ok passed, between))
    (later : (runSteps p rest).outcome between = (ending, after)) :
    (runSteps p (s :: rest)).outcome w =
      (ending.map fun failed => if passed then failed else s.name :: failed, after) := by
  refine (outcome_bind first).trans ?_
  cases ending with
  | error failure => exact outcome_bind_error later
  | ok failed => exact (outcome_bind later).trans rfl

theorem after_steps_nil (given : w.answers = results.map .ok) : afterSteps p w results [] = w := by
  obtain ⟨store, answers, started, out, err⟩ := w
  cases given
  simp [afterSteps, answered, printed]

theorem after_steps_cons (s : Step) (rest : List Step) :
    afterSteps p (afterStep p w results s) results.tail rest =
      afterSteps p w results (s :: rest) := by
  simp only [afterSteps, afterStep, answered, List.flatMap_cons, printed_append, List.map_cons,
    List.length_cons, List.append_assoc, String.append_assoc, List.drop_tail,
    List.singleton_append]

-- No step but the one that keeps a report touches the files, so nothing can go wrong before it.
theorem run_steps_behind (front : List Step) {rest : List Step}
    {ending : Except Failure (List String)} {after : Workshop}
    (given : w.answers = results.map .ok) (plain : ∀ s ∈ front, s.judge ≠ .reported)
    (later : (runSteps p rest).outcome (afterSteps p w results front) = (ending, after)) :
    (runSteps p (front ++ rest)).outcome w =
      (ending.map (unpassed (answered front results) ++ ·), after) := by
  induction front generalizing w results with
  | nil =>
    rw [after_steps_nil given] at later
    cases ending <;> exact later
  | cons s others ih =>
    obtain ⟨here, more⟩ := List.forall_mem_cons.mp plain
    rw [← after_steps_cons] at later
    rw [List.cons_append, run_steps_cons (run_step_plain w results given here) (ih rfl more later),
      answered, unpassed_cons]
    cases ending with
    | error failure => rfl
    | ok failed => split <;> simp [Except.map, *]

theorem run_steps_plain (w : Workshop) (results : List ToolResult) (steps : List Step)
    (given : w.answers = results.map .ok) (plain : ∀ s ∈ steps, s.judge ≠ .reported) :
    (runSteps p steps).outcome w =
      (.ok (unpassed (answered steps results)), afterSteps p w results steps) := by
  have ended : (runSteps p []).outcome (afterSteps p w results steps) =
      (.ok [], afterSteps p w results steps) := rfl
  have whole := run_steps_behind steps given plain ended
  rw [List.append_nil] at whole
  exact whole.trans (by simp [Except.map])

/-- Steps of which one keeps a report that can be written. -/
theorem run_steps_reported {front closing : List Step} {s : Step}
    (given : w.answers = results.map .ok) (before : ∀ s ∈ front, s.judge ≠ .reported)
    (kept : s.judge = .reported) (behind : ∀ s ∈ closing, s.judge ≠ .reported)
    {store : Store}
    (written : w.store.write reportPath (answer (results.drop front.length)).captured = .ok store) :
    (runSteps p (front ++ s :: closing)).outcome w =
      (.ok (unpassed (answered (front ++ s :: closing) results)),
        { afterSteps p w results (front ++ s :: closing) with store := store }) := by
  have here := run_step_reported (p := p) (afterSteps p w results front) (results.drop front.length)
    rfl kept written
  have later := run_steps_plain (p := p)
    { afterStep p (afterSteps p w results front) (results.drop front.length) s with store := store }
    (results.drop front.length).tail closing rfl behind
  rw [run_steps_behind front given before (run_steps_cons here later), answered_append,
    unpassed_append, answered, unpassed_cons, ← after_steps_append, ← after_steps_cons]
  rfl

/-- A report that cannot be written ends a run, and the steps behind it are not made. -/
theorem run_steps_barred {front closing : List Step} {s : Step}
    (given : w.answers = results.map .ok) (before : ∀ s ∈ front, s.judge ≠ .reported)
    (kept : s.judge = .reported) {fault : FileFault}
    (refused : w.store.write reportPath (answer (results.drop front.length)).captured =
      .error fault) :
    (runSteps p (front ++ s :: closing)).outcome w =
      (.error (.raised .system (fault.message (w.store.fullPath reportPath.parts))),
        startedStep p (afterSteps p w results front) (results.drop front.length) s) := by
  have here := run_step_barred (p := p) (afterSteps p w results front) (results.drop front.length)
    rfl kept refused
  have stopped : (runSteps p (s :: closing)).outcome (afterSteps p w results front) = _ :=
    outcome_bind_error here
  exact run_steps_behind front given before stopped

end Runs

section Judgement

variable {p : Places}

def Silent (r : ToolResult) : Prop := ∀ c ∈ r.captured.toList, Text.isBlank c = true

instance (r : ToolResult) : Decidable (Silent r) :=
  List.decidableBAll (fun c => Text.isBlank c = true) r.captured.toList

theorem stripped_empty_iff (text : String) :
    (Text.stripped text).isEmpty = true ↔ ∀ c ∈ text.toList, Text.isBlank c = true := by
  rw [String.isEmpty_iff, Text.stripped, String.ofList_eq_empty_iff, Text.strip, Text.stripRight,
    List.reverse_eq_nil_iff, List.dropWhile_eq_nil_iff, Text.stripLeft]
  have cut := List.takeWhile_append_dropWhile (p := Text.isBlank) (l := text.toList)
  constructor
  · intro blank c member
    rw [← cut, List.mem_append] at member
    rcases member with front | back
    · exact List.mem_takeWhile_imp front
    · exact blank c (List.mem_reverse.mpr back)
  · intro blank c member
    exact blank c (cut ▸ List.mem_append_right _ (List.mem_reverse.mp member))

def auditName : String := "pip-audit dependency check"

/-- A step that has to come off and did not: the search for blanks at line ends said something, or
another program than the audit ended with a code that is not zero. -/
def Missed (p : Places) (m : Step × ToolResult) : Prop :=
  m.1.name ≠ auditName ∧ if m.1 = whitespace p then ¬ Silent m.2 else m.2.code ≠ 0

instance (m : Step × ToolResult) : Decidable (Missed p m) :=
  inferInstanceAs (Decidable (_ ∧ _))

/-- What the gate asks of its steps: one of them may fail, and one is judged by what it says. -/
theorem pipeline_judges {s : Step} (listed : s ∈ pipeline p) :
    (s.optional = true ↔ s.name = auditName) ∧ (s.judge = .silence ↔ s = whitespace p) := by
  simp only [pipeline, styleSteps, closingSteps, List.cons_append, List.nil_append, List.mem_cons,
    List.not_mem_nil, or_false] at listed
  rcases listed with rfl | rfl | rfl | rfl | rfl | rfl | rfl | rfl | rfl | rfl
  all_goals
    constructor
    · simp [installation, whitespace, lint, auditName]
    · simp [installation, whitespace, lint]

theorem passes_iff {m : Step × ToolResult} (listed : m.1 ∈ pipeline p) :
    m.1.passes m.2 = true ↔ ¬ Missed p m := by
  obtain ⟨s, r⟩ := m
  obtain ⟨optional, silence⟩ := pipeline_judges listed
  dsimp only at optional silence ⊢
  have success : s.succeeds r = true ↔ if s = whitespace p then Silent r else r.code = 0 := by
    rw [Step.succeeds]
    cases judged : s.judge with
    | silence => rw [if_pos (silence.mp judged), stripped_empty_iff, Silent]
    | code | reported =>
      rw [if_neg fun same => by simp [silence.mpr same] at judged, beq_iff_eq]
  rw [Step.passes, Bool.or_eq_true, success, optional, Missed]
  split <;> simp [or_comm, imp_iff_or_not]

theorem unpassed_eq {made : List (Step × ToolResult)} (listed : ∀ m ∈ made, m.1 ∈ pipeline p) :
    unpassed made = (made.filter fun m => decide (Missed p m)).map (·.1.name) := by
  rw [unpassed]
  congr 1
  apply List.filter_congr
  intro m member
  have passed := passes_iff (listed m member)
  by_cases missed : Missed p m <;> simp_all

end Judgement

section Verdicts

variable {p : Places} {w : Workshop} {results : List ToolResult}

/-- The report of the linter cannot be written: a folder is in its place, or a link that leads to a
folder or to no place where a file could be. -/
def Barred (store : Store) : Prop :=
  store.entryAt reportPath.parts = some .folder ∨
    ∃ target fault, store.entryAt reportPath.parts = some (.link target) ∧
      store.destination reportPath = .error fault

theorem report_names : reportPath = ⟨"", ["pylint-report.txt"]⟩ := rfl

theorem entry_at_top (store : Store) : store.entryAt [] = some .folder := rfl

theorem find_report (store : Store)
    (unlinked : ∀ target, store.entryAt reportPath.parts ≠ some (.link target)) :
    store.find reportPath = match store.entryAt reportPath.parts with
      | some entry => .ok (reportPath.parts, entry)
      | none => .error .missing := by
  have clean : "pylint-report.txt".contains '\x00' = false := by simp
  have short : "pylint-report.txt".utf8ByteSize ≤ Store.longestName := by decide
  rw [report_names] at unlinked ⊢
  simp only [Store.find, Path.text, Store.stepLimit, List.length_cons, List.length_nil]
  cases held : store.entryAt ["pylint-report.txt"] with
  | none =>
    simp [clean, Store.locate, held, Nat.not_lt.mpr short, entry_at_top]
  | some entry =>
    cases entry with
    | link target => exact absurd held (unlinked target)
    | file content =>
      simp [clean, Store.locate, held, Nat.not_lt.mpr short, entry_at_top]
    | folder =>
      simp [clean, Store.locate, held, Nat.not_lt.mpr short, entry_at_top]

theorem destination_absent (store : Store) (absent : store.entryAt reportPath.parts = none) :
    store.destination reportPath = .ok reportPath.parts := by
  have missing := find_report store fun target => by simp [absent]
  rw [absent] at missing
  rw [report_names] at absent missing ⊢
  simp [Store.destination, missing, Store.stepLimit, Store.vacancy, absent, entry_at_top]

theorem barred_iff (store : Store) :
    Barred store ↔ ∃ fault, store.destination reportPath = .error fault := by
  cases held : store.entryAt reportPath.parts with
  | none => simp [Barred, held, destination_absent store held]
  | some entry =>
    cases entry with
    | link target => simp [Barred, held]
    | file content =>
      have found := find_report store fun target => by simp [held]
      simp [Barred, held, Store.destination, found]
    | folder =>
      have found := find_report store fun target => by simp [held]
      simp [Barred, held, Store.destination, found]

theorem write_report_barred {store : Store} (barred : Barred store) :
    ∃ fault, ∀ text, store.write reportPath text = .error fault := by
  obtain ⟨fault, refused⟩ := (barred_iff store).mp barred
  exact ⟨fault, fun text => by rw [Store.write, refused]; rfl⟩

theorem write_report_defined {store : Store} (free : ¬ Barred store) (text : String) :
    ∃ changed, store.write reportPath text = .ok changed := by
  rw [barred_iff] at free
  cases placed : store.destination reportPath with
  | ok names => exact ⟨_, by rw [Store.write, placed]; rfl⟩
  | error fault => exact absurd ⟨fault, placed⟩ free

def summary (failed : List String) : List String :=
  if failed.isEmpty then ["", bar, "VERIFICATION PASSED", bar]
  else ["", bar, "VERIFICATION FAILED"] ++ failed.map ("  - " ++ ·) ++ [bar]

theorem outcome_conclude (failed : List String) (w : Workshop) :
    (conclude failed).outcome w =
      (.ok (if failed.isEmpty then 0 else 1),
        { w with out := w.out ++ printed (summary failed) }) := by
  unfold conclude summary
  split
  · exact (outcome_bind (outcome_say_all _ w)).trans rfl
  · exact (outcome_bind (outcome_say_all _ w)).trans rfl

def front (p : Places) : List Step := installation p :: whitespace p :: styleSteps p

theorem pipeline_eq (p : Places) : pipeline p = front p ++ lint p :: closingSteps p := rfl

theorem front_plain (p : Places) : ∀ s ∈ front p, s.judge ≠ .reported := by
  simp [front, installation, whitespace, styleSteps]

theorem closing_plain (p : Places) : ∀ s ∈ closingSteps p, s.judge ≠ .reported := by
  simp [closingSteps]

theorem run_checkout (checkout : w.store.isFile Settings.projectFile = .ok true) :
    run.outcome w = (do
      let failed ← runSteps (places w.store) (pipeline (places w.store))
      return Ending.verdict (← conclude failed) : Work Ending).outcome w := by
  have asked : (get : Work Workshop).outcome w = (.ok w, w) := rfl
  refine (outcome_bind asked).trans ?_
  dsimp only
  rw [checkout]

/-- What a whole run of the gate leaves behind: every program started once and in order, the steps
told of and at the end those listed that were missed, and the code. -/
structure Concluded (p : Places) (results : List ToolResult) (w after : Workshop) (code : Nat) :
    Prop where
  started : after.started = w.started ++ (pipeline p).map (·.command)
  told : after.out = w.out ++ printed ((answered (pipeline p) results).flatMap (account p) ++
    summary (((answered (pipeline p) results).filter fun m => decide (Missed p m)).map (·.1.name)))
  good : code = 0 ↔ ∀ m ∈ answered (pipeline p) results, ¬ Missed p m
  bad : code = 1 ↔ ∃ m ∈ answered (pipeline p) results, Missed p m

theorem answered_listed {m : Step × ToolResult} (member : m ∈ answered (pipeline p) results) :
    m.1 ∈ pipeline p := by
  have inside := List.mem_map_of_mem (f := Prod.fst) member
  rwa [answered_steps] at inside

theorem unpassed_nil_iff :
    unpassed (answered (pipeline p) results) = [] ↔
      ∀ m ∈ answered (pipeline p) results, ¬ Missed p m := by
  simp [unpassed_eq fun m => answered_listed, List.filter_eq_nil_iff]

theorem run_pipeline (p : Places) (given : w.answers = results.map .ok) {store : Store}
    (written : w.store.write reportPath (answer (results.drop (front p).length)).captured =
      .ok store) :
    (runSteps p (pipeline p)).outcome w =
      (.ok (unpassed (answered (pipeline p) results)),
        { afterSteps p w results (pipeline p) with store := store }) := by
  rw [pipeline_eq]
  exact run_steps_reported given (front_plain p) rfl (closing_plain p) written

theorem run_pipeline_barred (p : Places) (given : w.answers = results.map .ok)
    (barred : Barred w.store) :
    ∃ failure, (runSteps p (pipeline p)).outcome w =
      (.error failure,
        startedStep p (afterSteps p w results (front p)) (results.drop (front p).length)
          (lint p)) := by
  obtain ⟨fault, refused⟩ := write_report_barred barred
  rw [pipeline_eq]
  exact ⟨_, run_steps_barred given (front_plain p) rfl (refused _)⟩

theorem gate_concludes (checkout : w.store.isFile Settings.projectFile = .ok true)
    (given : w.answers = results.map .ok) (free : ¬ Barred w.store) :
    ∃ code after, run.outcome w = (.ok (.verdict code), after) ∧
      Concluded (places w.store) results w after code := by
  obtain ⟨store, written⟩ := write_report_defined free
    (answer (results.drop (front (places w.store)).length)).captured
  have whole := (run_checkout checkout).trans (outcome_bind (run_pipeline _ given written))
  rw [outcome_bind (outcome_conclude _ _)] at whole
  have nonzero : ∀ failed : List String, (if failed.isEmpty then 0 else 1) = 1 ↔ ¬ failed = [] := by
    intro failed
    cases failed <;> simp
  refine ⟨_, _, whole, rfl, ?_, ?_, ?_⟩
  · rw [printed_append, ← String.append_assoc, ← unpassed_eq fun m => answered_listed]
    rfl
  · rw [← unpassed_nil_iff, ← Classical.not_not (a := unpassed _ = []), ← nonzero]
    split <;> simp
  · rw [nonzero, unpassed_nil_iff]
    simp

theorem gate_breaks_off (checkout : w.store.isFile Settings.projectFile = .ok true)
    (given : w.answers = results.map .ok) (barred : Barred w.store) :
    ∃ failure after, run.outcome w = (.error failure, after) ∧
      after.started =
        w.started ++ (front (places w.store) ++ [lint (places w.store)]).map (·.command) := by
  obtain ⟨failure, made⟩ := run_pipeline_barred (places w.store) given barred
  refine ⟨failure, _, (run_checkout checkout).trans (outcome_bind_error made), ?_⟩
  rw [List.map_append, ← List.append_assoc]
  rfl

/--
In a checkout every step is made and its program started once, in order, whatever the others came
to; the steps that were missed are listed at the end in their order, and the code is zero if there
are none. So where it is zero a program other than the audit can have failed in one way only: it is
the search for blanks at line ends, and it said nothing. Where the report of the linter cannot be
written, the run breaks off at the linter.
-/
theorem verdict_of_programs (w : Workshop) (results : List ToolResult)
    (checkout : w.store.isFile Settings.projectFile = .ok true)
    (given : w.answers = results.map .ok) :
    (¬ Barred w.store → ∃ code after, run.outcome w = (.ok (.verdict code), after) ∧
      Concluded (places w.store) results w after code ∧
      (code = 0 → ∀ m ∈ answered (pipeline (places w.store)) results, m.1.name ≠ auditName →
        m.2.code ≠ 0 → m.1 = whitespace (places w.store) ∧ Silent m.2)) ∧
    (Barred w.store → ∃ failure after, run.outcome w = (.error failure, after) ∧
      after.started =
        w.started ++ (front (places w.store) ++ [lint (places w.store)]).map (·.command)) := by
  refine ⟨fun free => ?_, gate_breaks_off checkout given⟩
  obtain ⟨code, after, ended, concluded⟩ := gate_concludes checkout given free
  refine ⟨code, after, ended, concluded, fun zero m member required failed => ?_⟩
  have passed := concluded.good.mp zero m member
  rw [Missed, not_and] at passed
  have judged := passed required
  split at judged
  · exact ⟨‹_›, Classical.not_not.mp judged⟩
  · exact absurd failed judged

def bareCheckout : Store := { entries := [(["pyproject.toml"], .file ⟨#[]⟩)] }

theorem bare_checkout_found : bareCheckout.isFile Settings.projectFile = .ok true := by
  have project : Settings.projectFile = ⟨"", ["pyproject.toml"]⟩ := rfl
  have clean : "pyproject.toml".contains '\x00' = false := by simp
  have steps : bareCheckout.stepLimit ⟨"", ["pyproject.toml"]⟩ = 42 + 1 + 1 := rfl
  have short : "pyproject.toml".utf8ByteSize ≤ Store.longestName := by decide
  have held : bareCheckout.entryAt ["pyproject.toml"] = some (.file ⟨#[]⟩) := rfl
  simp [Store.isFile, Store.holds, Store.find, project, Path.text, clean, steps, Store.locate,
    held, Nat.not_lt.mpr short, show bareCheckout.entryAt [] = some .folder from rfl]

theorem bare_checkout_free : ¬ Barred bareCheckout := by
  have absent : bareCheckout.entryAt reportPath.parts = none := rfl
  simp [Barred, absent]

def bareWorkshop (results : List ToolResult) : Workshop :=
  { store := bareCheckout, answers := results.map .ok }

def wordlessFailure : ToolResult := { code := 1 }

theorem wordless_silent : Silent wordlessFailure := by decide

/-- All goes well up to the type check, which fails. -/
theorem verdict_of_programs_untyped :
    bareCheckout.isFile Settings.projectFile = .ok true ∧ ¬ Barred bareCheckout ∧
      ∃ after, run.outcome (bareWorkshop [{}, {}, {}, {}, wordlessFailure]) =
          (.ok (.verdict 1), after) ∧
        after.started = (pipeline (places bareCheckout)).map (·.command) := by
  refine ⟨bare_checkout_found, bare_checkout_free, ?_⟩
  obtain ⟨code, after, ended, concluded, _⟩ := (verdict_of_programs
    (bareWorkshop [{}, {}, {}, {}, wordlessFailure]) [{}, {}, {}, {}, wordlessFailure]
    bare_checkout_found rfl).1 bare_checkout_free
  have missed : ∃ m ∈ answered (pipeline (places bareCheckout)) [{}, {}, {}, {}, wordlessFailure],
      Missed (places bareCheckout) m := by
    simp [pipeline, styleSteps, answered, answer, Missed, installation, whitespace, auditName,
      wordlessFailure]
  have one : code = 1 := concluded.bad.mpr missed
  subst one
  exact ⟨after, ended, concluded.started.trans (List.nil_append _)⟩

/-- The search for blanks at line ends fails without a word, and the code is zero. -/
theorem wordless_failure_passed_over :
    ∃ after, run.outcome (bareWorkshop [{}, wordlessFailure]) = (.ok (.verdict 0), after) ∧
      (whitespace (places bareCheckout), wordlessFailure) ∈
        answered (pipeline (places bareCheckout)) [{}, wordlessFailure] ∧
      (whitespace (places bareCheckout)).optional = false ∧ wordlessFailure.code ≠ 0 := by
  obtain ⟨code, after, ended, concluded⟩ := @gate_concludes (bareWorkshop [{}, wordlessFailure])
    [{}, wordlessFailure] bare_checkout_found rfl bare_checkout_free
  have passed : ∀ m ∈ answered (pipeline (places bareCheckout)) [{}, wordlessFailure],
      ¬ Missed (places bareCheckout) m := by
    simp [pipeline, styleSteps, closingSteps, answered, answer, Missed, installation, lint,
      whitespace, auditName, wordless_silent]
  have zero : code = 0 := concluded.good.mpr passed
  subst zero
  exact ⟨after, ended, List.mem_cons_of_mem _ List.mem_cons_self, rfl, by decide⟩

end Verdicts

end Gate

end RefactorAdvice
