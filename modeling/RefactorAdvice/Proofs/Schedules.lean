import Mathlib.Data.List.Forall2
import Mathlib.Logic.Relation
import RefactorAdvice.Proofs.Containment
import RefactorAdvice.Proofs.PathText

/-!
Files analysed side by side. Whichever task is still out may be the next to be handed over, so
the tasks can come back in any order; each path is reported once all the same, with what its
task gave or with the failure it ended in, and the order of the report is that of the paths.
Paths that are written alike have one outcome, so equal places in that order hold equal entries
and nothing is left for the order of return to decide.
-/

namespace RefactorAdvice

def Failure.gist (failure : Failure) : String :=
  if failure.isForeseenInFile then failure.message else "unexpected error"

namespace Plan

section Outcomes

theorem task_path (plan : Plan) (path : Path) (analysis : Analysis)
    (done : (plan.task path).1 = .ok analysis) : analysis.path = path.text := by
  unfold task at done
  cases broken : plan.broken.find? (·.1 == path.text) with
  | some entry =>
    rw [broken] at done
    cases done
  | none =>
    rw [broken] at done
    cases done
    exact read_path plan path

def handed (plan : Plan) (path : Path) : Analysis × Log := settled path (plan.task path)

inductive Accounts (plan : Plan) (path : Path) : Analysis → Prop where
  | done (analysis : Analysis) (given : (plan.task path).1 = .ok analysis) :
      Accounts plan path analysis
  | failed (failure : Failure) (given : (plan.task path).1 = .error failure) :
      Accounts plan path
        { path := path.text, parseError := some ("Analysis failed: " ++ failure.gist) }

theorem handed_done (plan : Plan) (path : Path) (analysis : Analysis)
    (given : (plan.task path).1 = .ok analysis) : (plan.handed path).1 = analysis := by
  unfold handed
  generalize plan.task path = returned at given
  obtain ⟨outcome, log⟩ := returned
  cases given
  rfl

theorem salvage_analysis (path : Path) (failure : Failure) :
    (salvage path failure).1 =
      { path := path.text, parseError := some ("Analysis failed: " ++ failure.gist) } := by
  unfold salvage Failure.gist
  dsimp only
  split <;> rfl

theorem handed_failed (plan : Plan) (path : Path) (failure : Failure)
    (given : (plan.task path).1 = .error failure) :
    (plan.handed path).1 =
      { path := path.text, parseError := some ("Analysis failed: " ++ failure.gist) } := by
  unfold handed
  generalize plan.task path = returned at given
  obtain ⟨outcome, log⟩ := returned
  cases given
  exact salvage_analysis path failure

theorem handed_accounts (plan : Plan) (path : Path) :
    plan.Accounts path (plan.handed path).1 := by
  cases given : (plan.task path).1 with
  | ok analysis =>
    rw [plan.handed_done path analysis given]
    exact .done analysis given
  | error failure =>
    rw [plan.handed_failed path failure given]
    exact .failed failure given

theorem handed_path (plan : Plan) (path : Path) : (plan.handed path).1.path = path.text := by
  cases given : (plan.task path).1 with
  | ok analysis => rw [plan.handed_done path analysis given, plan.task_path path analysis given]
  | error failure => rw [plan.handed_failed path failure given]

end Outcomes

section Returning

/-- The tasks that are out, and what has been handed over, the latest last. -/
structure Pool where
  out : List Path
  finished : List (Analysis × Log)

inductive Step (plan : Plan) : Pool → Pool → Prop where
  | finish (sooner later : List Path) (path : Path) (finished : List (Analysis × Log)) :
      Step plan ⟨sooner ++ path :: later, finished⟩
        ⟨sooner ++ later, finished ++ [plan.handed path]⟩

/-- A way for all tasks of some paths to be handed over. -/
def Completes (plan : Plan) (paths : List Path) (finished : List (Analysis × Log)) : Prop :=
  Relation.ReflTransGen plan.Step ⟨paths, []⟩ ⟨[], finished⟩

def Balanced (plan : Plan) (paths : List Path) (pool : Pool) : Prop :=
  ∃ order : List Path, pool.finished = order.map plan.handed ∧ (order ++ pool.out).Perm paths

theorem step_balanced (plan : Plan) (paths : List Path) (pool next : Pool)
    (step : plan.Step pool next) (balanced : plan.Balanced paths pool) :
    plan.Balanced paths next := by
  obtain ⟨order, gathered, kept⟩ := balanced
  cases step with
  | finish sooner later path finished =>
    refine ⟨order ++ [path], ?_, ?_⟩
    · simp only [List.map_append, List.map_cons, List.map_nil, ← gathered]
    · have moved : (order ++ path :: (sooner ++ later)).Perm (order ++ (sooner ++ path :: later)) :=
        List.perm_middle.symm.append_left order
      rw [List.append_assoc]
      exact moved.trans kept

theorem run_balanced (plan : Plan) (paths : List Path) (pool next : Pool)
    (run : Relation.ReflTransGen plan.Step pool next) (balanced : plan.Balanced paths pool) :
    plan.Balanced paths next := by
  induction run with
  | refl => exact balanced
  | tail _ step ih => exact plan.step_balanced paths _ _ step ih

-- The induction is on the wanted order: its first path is out somewhere, and goes next.
theorem order_completes (plan : Plan) (order paths : List Path)
    (finished : List (Analysis × Log)) (same : order.Perm paths) :
    Relation.ReflTransGen plan.Step ⟨paths, finished⟩
      ⟨[], finished ++ order.map plan.handed⟩ := by
  induction order generalizing paths finished with
  | nil =>
    rw [List.nil_perm.mp same, List.map_nil, List.append_nil]
  | cons path rest ih =>
    obtain ⟨sooner, later, rfl⟩ := List.append_of_mem (same.subset List.mem_cons_self)
    have others : rest.Perm (sooner ++ later) := (same.trans List.perm_middle).cons_inv
    have gone := ih (sooner ++ later) (finished ++ [plan.handed path]) others
    rw [List.append_assoc] at gone
    exact .head (.finish sooner later path finished) gone

/-- The tasks can be handed over in every order, and in no other way. -/
theorem completes_iff (plan : Plan) (paths : List Path) (finished : List (Analysis × Log)) :
    plan.Completes paths finished ↔
      ∃ order : List Path, order.Perm paths ∧ finished = order.map plan.handed := by
  constructor
  · intro run
    have begun : plan.Balanced paths ⟨paths, []⟩ := ⟨[], rfl, .refl _⟩
    obtain ⟨order, gathered, kept⟩ := plan.run_balanced paths _ _ run begun
    rw [List.append_nil] at kept
    exact ⟨order, kept, gathered⟩
  · rintro ⟨order, same, rfl⟩
    exact plan.order_completes order paths [] same

end Returning

section Arranging

def textLe (p q : Path) : Bool := decide (p.text ≤ q.text)

theorem by_text_sorted (paths : List Path) :
    (paths.mergeSort textLe).Pairwise fun p q => p.text ≤ q.text := by
  have chained : ∀ p q r, textLe p q → textLe q r → textLe p r := fun p q r first second =>
    decide_eq_true (String.le_trans (of_decide_eq_true first) (of_decide_eq_true second))
  have total : ∀ p q, textLe p q || textLe q p := fun p q => by
    simpa only [textLe, Bool.or_eq_true, decide_eq_true_eq] using String.le_total p.text q.text
  exact (List.pairwise_mergeSort chained total paths).imp of_decide_eq_true

-- Sorted paths of one text are one path, so there is a single way to sort them.
theorem by_text_unique (order paths : List Path) (same : order.Perm paths)
    (proper : ∀ path ∈ paths, path.Proper) :
    order.mergeSort textLe = paths.mergeSort textLe := by
  have entries : (order.mergeSort textLe).Perm (paths.mergeSort textLe) :=
    (List.mergeSort_perm order _).trans (same.trans (List.mergeSort_perm paths _).symm)
  refine List.Perm.eq_of_pairwise ?_ (by_text_sorted order) (by_text_sorted paths) entries
  intro p q memberP memberQ below above
  have properP := proper p ((List.mergeSort_perm paths _).subset (entries.subset memberP))
  have properQ := proper q ((List.mergeSort_perm paths _).subset memberQ)
  exact Path.text_injective p q properP properQ (String.le_antisymm below above)

theorem arranged_handed (plan : Plan) (order : List Path) :
    arranged (order.map plan.handed) =
      (order.mergeSort textLe).map fun path => (plan.handed path).1 := by
  unfold arranged
  rw [List.map_map]
  refine (List.map_mergeSort fun p _ q _ => ?_).symm
  simp only [textLe, Function.comp_apply, handed_path]

end Arranging

section Guarantees

theorem side_by_side_result (plan : Plan) (paths : List Path) (log : Log) :
    ((plan.sideBySide paths).run.run log).1 = .ok (arranged (paths.map plan.handed)) := rfl

theorem bind_goes_on {α β : Type} (x : Logging α) (next : α → Logging β) (log : Log) (value : α)
    (done : (x.run.run log).1 = .ok value) :
    (x >>= next).run.run log = (next value).run.run (x.run.run log).2 := by
  have whole : x.run.run log = (.ok value, (x.run.run log).2) := Prod.ext done rfl
  rw [ExceptT.run_bind, StateT.run_bind, whole]
  rfl

-- A task that gives an analysis adds to the log and lets the run go on.
theorem in_turn_result (plan : Plan) (paths : List Path)
    (calm : ∀ path ∈ paths, ∃ analysis, (plan.task path).1 = .ok analysis) (log : Log) :
    ((plan.inTurn paths).run.run log).1 = .ok (paths.map fun path => (plan.handed path).1) := by
  induction paths generalizing log with
  | nil => rfl
  | cons path rest ih =>
    obtain ⟨analysis, given⟩ := calm path List.mem_cons_self
    have later := ih fun other member => calm other (List.mem_cons_of_mem path member)
    rw [List.map_cons, plan.handed_done path analysis given]
    unfold inTurn at later ⊢
    rw [List.mapM_cons, bind_goes_on _ _ log analysis, bind_goes_on _ _ _ _ (later _)]
    · rfl
    · generalize plan.task path = returned at given ⊢
      obtain ⟨outcome, added⟩ := returned
      cases given
      rfl

/--
Several paths read from texts, analysed by several workers: a result is given, it is the one
that every order of return leads to, it accounts for each path once, and it is sorted by path.
If no task fails it is what one worker gives, sorted by path and otherwise in the same order.
-/
theorem side_by_side_settled (plan : Plan) (texts : List String) (workers : Int)
    (several : 2 ≤ workers) (many : 2 ≤ texts.length) (log : Log) :
    let paths := texts.map Path.ofText
    ∃ survey : List Analysis,
      ((plan.analyses paths workers).run.run log).1 = .ok survey ∧
      (∃ finished, plan.Completes paths finished) ∧
      (∀ finished, plan.Completes paths finished → arranged finished = survey) ∧
      (∃ order : List Path, order.Perm paths ∧ List.Forall₂ plan.Accounts order survey) ∧
      survey.Pairwise (fun a b => a.path ≤ b.path) ∧
      ((∀ path ∈ paths, ∃ analysis, (plan.task path).1 = .ok analysis) →
        ∃ inTurn, ((plan.analyses paths 1).run.run log).1 = .ok inTurn ∧
          survey = inTurn.mergeSort fun a b => decide (a.path ≤ b.path)) := by
  intro paths
  have proper : ∀ path ∈ paths, path.Proper := by
    intro path member
    obtain ⟨text, _, rfl⟩ := List.mem_map.mp member
    exact Path.of_text_proper text
  have pooled : plan.analyses paths workers = plan.sideBySide paths := by
    have shared : ¬ (workers ≤ 1) := by omega
    have plural : ¬ (paths.length = 1) := by
      rw [List.length_map]
      omega
    simp [analyses, shared, plural]
  refine ⟨arranged (paths.map plan.handed), ?_, ?_, ?_, ?_, ?_, ?_⟩
  · rw [pooled]
    exact plan.side_by_side_result paths log
  · exact ⟨_, plan.order_completes paths paths [] (.refl paths)⟩
  · intro finished run
    obtain ⟨order, same, rfl⟩ := (plan.completes_iff paths finished).mp run
    rw [arranged_handed, arranged_handed, by_text_unique order paths same proper]
  · refine ⟨paths.mergeSort textLe, List.mergeSort_perm paths _, ?_⟩
    rw [arranged_handed, List.forall₂_map_right_iff, List.forall₂_same]
    exact fun path _ => plan.handed_accounts path
  · rw [arranged_handed, List.pairwise_map]
    simp only [handed_path]
    exact by_text_sorted paths
  · intro calm
    refine ⟨paths.map fun path => (plan.handed path).1, ?_, ?_⟩
    · exact plan.in_turn_result paths calm log
    · simp only [arranged, List.map_map, Function.comp_def]

def failing : Plan :=
  { names := Code.noNames, store := {}, settings := {}, examiners := .ok []
    broken := [("c.py", .raised .runtime "lost"), ("b.py", .raised .value "bad")] }

theorem side_by_side_settled_failing :
    (2 : Int) ≤ 3 ∧ 2 ≤ ["c.py", "b.py", "c.py"].length ∧
      ∃ survey, ((failing.analyses (["c.py", "b.py", "c.py"].map Path.ofText) 3).run.run []).1 =
          .ok survey ∧
        survey.map (fun a => (a.path, a.parseError)) =
          [("b.py", some "Analysis failed: bad"),
            ("c.py", some "Analysis failed: unexpected error"),
            ("c.py", some "Analysis failed: unexpected error")] ∧
        ∀ finished, failing.Completes (["c.py", "b.py", "c.py"].map Path.ofText) finished →
          arranged finished = survey := by
  obtain ⟨survey, given, _, fixed, _⟩ :=
    side_by_side_settled failing ["c.py", "b.py", "c.py"] 3 (by decide) (by decide) []
  refine ⟨by decide, by decide, survey, given, ?_, fixed⟩
  -- One order of return is sorted already, and all lead to the same survey.
  have inOrder := (failing.completes_iff _ _).mpr
    ⟨["b.py", "c.py", "c.py"].map Path.ofText,
      (List.Perm.swap "c.py" "b.py" ["c.py"]).map Path.ofText, rfl⟩
  rw [← fixed _ inOrder, arranged_handed, List.mergeSort_of_pairwise (by decide)]
  decide

end Guarantees

end Plan

end RefactorAdvice
