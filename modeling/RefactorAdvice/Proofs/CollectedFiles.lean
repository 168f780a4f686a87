import RefactorAdvice.Proofs.Exclusion
import RefactorAdvice.Proofs.LoggedRuns
import RefactorAdvice.Proofs.Schedules
import RefactorAdvice.Proofs.SettingNotations

/-!
The files a run comes to. A given path offers itself, if it is a module, or the modules below it,
and every file that is offered is either collected or counted, by the verdict of the patterns on it.
A run over one folder counts and sifts in two passes where a run over paths does both in one, and
the two come to the same.

What can break off the collecting is a path of which the store cannot tell what is there, or a file
for which a pattern that names nothing is reached. Settings with such patterns can be read from a
table. A plain name leaves out what ends in it; it says nothing about what is below a folder of that
name, for which two patterns with wildcards are needed.
-/

namespace RefactorAdvice.Plan

open LoggingExcept

section Sorting

theorem collected_append (a b : Collected) :
    a ++ b = ⟨a.paths ++ b.paths, a.excluded + b.excluded⟩ := rfl

-- A file without a verdict breaks off the pass that counts where it breaks off the single pass,
-- so the pass that sifts is never the first to fail.
theorem sorted_all_passes (plan : Plan) (files : List Path) :
    plan.sortedAll files = do
      let excluded ← plan.countExcluded files
      let kept ← plan.included files
      return ⟨kept, excluded⟩ := by
  induction files with
  | nil => rfl
  | cons file rest ih =>
    rw [sortedAll, sorted, countExcluded, included, ih]
    cases plan.isExcluded file with
    | error failure => rfl
    | ok excluded =>
      cases plan.countExcluded rest with
      | error failure => cases excluded <;> rfl
      | ok count =>
        cases plan.included rest with
        | error failure => cases excluded <;> rfl
        | ok kept =>
          cases excluded with
          | true =>
            change Except.ok (({ excluded := 1 } : Collected) ++ ⟨kept, count⟩) =
              .ok ⟨kept, count + 1⟩
            rw [collected_append, Nat.add_comm]
            rfl
          | false =>
            change Except.ok (({ paths := [file] } : Collected) ++ ⟨kept, count⟩) =
              .ok ⟨file :: kept, count⟩
            rw [collected_append, Nat.zero_add]
            rfl

def leavesOut (plan : Plan) (file : Path) : Bool := (plan.isExcluded file).toOption.getD false

theorem leaves_out_given (plan : Plan) (file : Path) (verdict : Bool)
    (given : plan.isExcluded file = .ok verdict) : plan.leavesOut file = verdict := by
  rw [leavesOut, given]
  rfl

theorem count_excluded_settled (plan : Plan) (files : List Path)
    (settled : ∀ file ∈ files, ∃ verdict, plan.isExcluded file = .ok verdict) :
    plan.countExcluded files = .ok (files.countP plan.leavesOut) := by
  induction files with
  | nil => rfl
  | cons file rest ih =>
    obtain ⟨verdict, given⟩ := settled file List.mem_cons_self
    have out := plan.leaves_out_given file verdict given
    rw [countExcluded, given, ih fun other member => settled other (List.mem_cons_of_mem _ member),
      List.countP_cons, out]
    cases verdict <;> rfl

theorem included_settled (plan : Plan) (files : List Path)
    (settled : ∀ file ∈ files, ∃ verdict, plan.isExcluded file = .ok verdict) :
    plan.included files = .ok (files.filter (!plan.leavesOut ·)) := by
  induction files with
  | nil => rfl
  | cons file rest ih =>
    obtain ⟨verdict, given⟩ := settled file List.mem_cons_self
    have out := plan.leaves_out_given file verdict given
    rw [included, given, ih fun other member => settled other (List.mem_cons_of_mem _ member),
      List.filter_cons, out]
    cases verdict <;> rfl

theorem sorted_all_settled (plan : Plan) (files : List Path)
    (settled : ∀ file ∈ files, ∃ verdict, plan.isExcluded file = .ok verdict) :
    plan.sortedAll files =
      .ok ⟨files.filter (!plan.leavesOut ·), files.countP plan.leavesOut⟩ := by
  rw [sorted_all_passes, plan.count_excluded_settled files settled,
    plan.included_settled files settled]
  rfl

end Sorting

section Answers

theorem gives_ask {α : Type} (answer : Except Failure α) :
    Gives (collect.liftAsk answer) answer := by
  cases answer with
  | error failure => exact fun _ => rfl
  | ok value => exact fun _ => rfl

theorem gives_answer {α : Type} (path : Path) (answer : Except FileFault α) (value : α)
    (given : answer = .ok value) : Gives (collect.liftAsk (ask path answer)) (.ok value) := by
  subst given
  exact gives_ask _

def Answered (plan : Plan) (path : Path) : Prop :=
  ∀ fault, plan.store.find path = .error fault → fault.isAbsence = true

/-- The files that a given path offers: itself if it is a module, or the modules below it. -/
def offered (plan : Plan) (path : Path) : List Path :=
  match plan.store.find path with
  | .ok (_, .file _) => if path.suffix == ".py" then [path] else []
  | .ok (_, .folder) => plan.modulesBelow path
  | _ => []

theorem sorted_all_single (plan : Plan) (path : Path) :
    plan.sortedAll [path] = plan.sorted path := by
  rw [sortedAll, sorted]
  cases plan.isExcluded path with
  | error failure => rfl
  | ok excluded => cases excluded <;> rfl

theorem collect_answered (plan : Plan) (path : Path) (answered : plan.Answered path) :
    Gives (plan.collect path) (plan.sortedAll (plan.offered path)) := by
  unfold offered
  cases found : plan.store.find path with
  | error fault =>
    have absent := answered fault found
    refine gives_bind _ _ false _ (gives_answer path _ false ?_) ?_
    · simp [Store.isFile, Store.holds, found, absent]
    · refine gives_bind _ _ false _ (gives_answer path _ false ?_) fun _ => rfl
      simp [Store.isFolder, Store.holds, found, absent]
  | ok place =>
    obtain ⟨names, entry⟩ := place
    cases entry with
    | file content =>
      refine gives_bind _ _ true _ (gives_answer path _ true ?_) ?_
      · simp [Store.isFile, Store.holds, found]
      · by_cases module : path.suffix = ".py"
        · simp only [module, bne_self_eq_false, beq_self_eq_true, ↓reduceIte, Bool.false_eq_true,
            sorted_all_single]
          exact gives_ask _
        · have other : (path.suffix == ".py") = false := by simpa using module
          simp only [bne, other, Bool.not_false, ↓reduceIte, Bool.false_eq_true]
          exact fun _ => rfl
    | link target =>
      refine gives_bind _ _ false _ (gives_answer path _ false ?_) ?_
      · simp [Store.isFile, Store.holds, found]
      · refine gives_bind _ _ false _ (gives_answer path _ false ?_) fun _ => rfl
        simp [Store.isFolder, Store.holds, found]
    | folder =>
      refine gives_bind _ _ false _ (gives_answer path _ false ?_) ?_
      · simp [Store.isFile, Store.holds, found]
      · refine gives_bind _ _ true _ (gives_answer path _ true ?_) (gives_ask _)
        simp [Store.isFolder, Store.holds, found]

theorem collect_unanswered (plan : Plan) (path : Path) (fault : FileFault)
    (found : plan.store.find path = .error fault) (present : fault.isAbsence = false) :
    Gives (plan.collect path) (.error (.raised .system (fault.message path.text))) := by
  refine gives_bind_error _ _ _ ?_
  have unknown : plan.store.isFile path = .error fault := by
    simp [Store.isFile, Store.holds, found, present]
  rw [unknown]
  exact gives_ask _

theorem sorted_all_append (plan : Plan) (first second : List Path) :
    plan.sortedAll (first ++ second) = do
      let found ← plan.sortedAll first
      let others ← plan.sortedAll second
      return found ++ others := by
  induction first with
  | nil =>
    rw [List.nil_append]
    cases plan.sortedAll second with
    | error failure => rfl
    | ok found => simp [sortedAll, bind, Except.bind, pure, Except.pure, collected_append]
  | cons file rest ih =>
    rw [List.cons_append, sortedAll, sortedAll, ih]
    simp only [bind_assoc, pure_bind, collected_append, List.append_assoc, Nat.add_assoc]

theorem collect_all_answered (plan : Plan) (paths : List Path)
    (answered : ∀ path ∈ paths, plan.Answered path) :
    Gives (plan.collectAll paths) (plan.sortedAll (paths.flatMap plan.offered)) := by
  induction paths with
  | nil => exact fun _ => rfl
  | cons path rest ih =>
    have here := plan.collect_answered path (answered path List.mem_cons_self)
    have later := ih fun other member => answered other (List.mem_cons_of_mem path member)
    rw [List.flatMap_cons, sorted_all_append]
    cases first : plan.sortedAll (plan.offered path) with
    | error failure =>
      rw [first] at here
      exact gives_bind_error _ _ failure here
    | ok found =>
      rw [first] at here
      refine gives_bind _ _ found _ here ?_
      cases second : plan.sortedAll (rest.flatMap plan.offered) with
      | error failure =>
        rw [second] at later
        exact gives_bind_error _ _ failure later
      | ok others =>
        rw [second] at later
        exact gives_bind _ _ others _ later fun _ => rfl

-- The paths before it are asked first, so it is their files that may fail before it does.
theorem collect_all_unanswered (plan : Plan) (before after : List Path) (path : Path)
    (fault : FileFault) (answered : ∀ other ∈ before, plan.Answered other)
    (settled : ∃ found, plan.sortedAll (before.flatMap plan.offered) = .ok found)
    (found : plan.store.find path = .error fault) (present : fault.isAbsence = false) :
    Gives (plan.collectAll (before ++ path :: after))
      (.error (.raised .system (fault.message path.text))) := by
  induction before with
  | nil => exact gives_bind_error _ _ _ (plan.collect_unanswered path fault found present)
  | cons first rest ih =>
    have here := plan.collect_answered first (answered first List.mem_cons_self)
    obtain ⟨all, settled⟩ := settled
    rw [List.flatMap_cons, sorted_all_append] at settled
    obtain ⟨own, mine, settled⟩ := (bind_ok_iff _ _ _).mp settled
    obtain ⟨others, theirs, _⟩ := (bind_ok_iff _ _ _).mp settled
    rw [mine] at here
    refine gives_bind _ _ own _ here (gives_bind_error _ _ _ (ih ?_ ⟨others, theirs⟩))
    exact fun other member => answered other (List.mem_cons_of_mem first member)

end Answers

section Runs

theorem in_turn_gives (plan : Plan) (paths : List Path) :
    ∃ ending, Gives (plan.inTurn paths) ending := by
  induction paths with
  | nil => exact ⟨.ok [], fun _ => rfl⟩
  | cons path rest ih =>
    obtain ⟨ending, later⟩ := ih
    unfold inTurn at later ⊢
    rw [List.mapM_cons]
    generalize plan.task path = returned
    obtain ⟨outcome, added⟩ := returned
    cases outcome with
    | error failure => exact ⟨.error failure, gives_bind_error _ _ failure fun _ => rfl⟩
    | ok analysis =>
      cases ending with
      | error failure =>
        exact ⟨.error failure, gives_bind _ _ analysis _ (fun _ => rfl)
          (gives_bind_error _ _ failure later)⟩
      | ok files =>
        exact ⟨.ok (analysis :: files), gives_bind _ _ analysis _ (fun _ => rfl)
          (gives_bind _ _ files _ later fun _ => rfl)⟩

theorem analyses_gives (plan : Plan) (paths : List Path) (workers : Int) :
    ∃ ending, Gives (plan.analyses paths workers) ending ∧
      (plan.broken = [] → ∃ files, ending = .ok files) := by
  unfold analyses
  split
  · obtain ⟨ending, given⟩ := plan.in_turn_gives paths
    refine ⟨ending, given, fun sound => ?_⟩
    have calm : ∀ path ∈ paths, ∃ analysis, (plan.task path).1 = .ok analysis := by
      intro path _
      rw [task, sound]
      exact ⟨_, rfl⟩
    exact ⟨_, (given []).symm.trans (plan.in_turn_result paths calm [])⟩
  · exact ⟨_, plan.side_by_side_result paths, fun _ => ⟨_, rfl⟩⟩

def surveyed (found : Collected) (files : Except Failure (List Analysis)) : Except Failure Survey :=
  if found.paths.isEmpty then .ok { excluded := found.excluded }
  else files.map fun files => { files, excluded := found.excluded }

theorem run_gives (plan : Plan) (paths : List Path) (workers : Int) (found : Collected)
    (files : Except Failure (List Analysis)) (collected : Gives (plan.collectAll paths) (.ok found))
    (analysed : Gives (plan.analyses found.paths workers) files) :
    Gives (plan.run paths workers) (surveyed found files) := by
  refine gives_bind _ _ found _ collected ?_
  unfold surveyed
  split
  · exact fun _ => rfl
  · cases files with
    | error failure => exact gives_bind_error _ _ failure analysed
    | ok files => exact gives_bind _ _ files _ analysed fun _ => rfl

theorem run_folder_present (plan : Plan) (folder : Path) (names : List String) (workers : Int)
    (there : plan.store.find folder = .ok (names, .folder)) (ending : Except Failure Survey)
    (rest : Gives (do
      let excluded ← collect.liftAsk (plan.countExcluded (plan.modulesBelow folder))
      let kept ← collect.liftAsk (plan.included (plan.modulesBelow folder))
      if kept.isEmpty then
        let name := folder.text
        warn s!"No Python files found in {name}"
        return { excluded }
      let files ← plan.analyses kept workers
      return { files, excluded }) ending) :
    Gives (plan.runFolder folder workers) ending := by
  refine gives_bind _ _ true _ (gives_answer folder _ true ?_) ?_
  · simp [Store.exists?, Store.holds, there]
  · refine gives_bind _ _ false _ (gives_answer folder _ false ?_) rest
    simp [Store.isFile, Store.holds, there]

theorem run_folder_gives (plan : Plan) (folder : Path) (names : List String) (workers : Int)
    (there : plan.store.find folder = .ok (names, .folder)) (found : Collected)
    (files : Except Failure (List Analysis))
    (sorted : plan.sortedAll (plan.modulesBelow folder) = .ok found)
    (analysed : Gives (plan.analyses found.paths workers) files) :
    Gives (plan.runFolder folder workers) (surveyed found files) := by
  refine plan.run_folder_present folder names workers there _ ?_
  rw [sorted_all_passes] at sorted
  obtain ⟨excluded, counted, sorted⟩ := (bind_ok_iff _ _ _).mp sorted
  obtain ⟨kept, sifted, same⟩ := (bind_ok_iff _ _ _).mp sorted
  cases same
  rw [counted, sifted]
  refine gives_bind _ _ excluded _ (gives_ask _) (gives_bind _ _ kept _ (gives_ask _) ?_)
  unfold surveyed
  dsimp only
  split
  · exact fun _ => rfl
  · cases files with
    | error failure => exact gives_bind_error _ _ failure analysed
    | ok files => exact gives_bind _ _ files _ analysed fun _ => rfl

theorem run_folder_gives_error (plan : Plan) (folder : Path) (names : List String) (workers : Int)
    (there : plan.store.find folder = .ok (names, .folder)) (failure : Failure)
    (sorted : plan.sortedAll (plan.modulesBelow folder) = .error failure) :
    Gives (plan.runFolder folder workers) (.error failure) := by
  refine plan.run_folder_present folder names workers there _ ?_
  rw [sorted_all_passes] at sorted
  cases counted : plan.countExcluded (plan.modulesBelow folder) with
  | error first =>
    rw [counted] at sorted
    cases sorted
    exact gives_bind_error _ _ _ (gives_ask _)
  | ok excluded =>
    rw [counted] at sorted
    refine gives_bind _ _ excluded _ (gives_ask _) ?_
    cases sifted : plan.included (plan.modulesBelow folder) with
    | error first =>
      rw [sifted] at sorted
      cases sorted
      exact gives_bind_error _ _ _ (gives_ask _)
    | ok kept =>
      rw [sifted] at sorted
      cases sorted

-- Both runs see the same files below the folder, in one pass or in two.
theorem runs_agree (plan : Plan) (folder : Path) (names : List String) (workers : Int)
    (there : plan.store.find folder = .ok (names, .folder)) :
    ∃ ending, Gives (plan.runFolder folder workers) ending ∧
      Gives (plan.run [folder] workers) ending ∧
      (plan.broken = [] →
        (∀ file ∈ plan.modulesBelow folder, ∃ verdict, plan.isExcluded file = .ok verdict) →
        ∃ survey, ending = .ok survey) := by
  have answered : ∀ path ∈ [folder], plan.Answered path := by
    intro path member fault missing
    rw [List.mem_singleton.mp member, there] at missing
    cases missing
  have same : [folder].flatMap plan.offered = plan.modulesBelow folder := by
    simp [offered, there]
  have collected := plan.collect_all_answered [folder] answered
  rw [same] at collected
  cases sorted : plan.sortedAll (plan.modulesBelow folder) with
  | error failure =>
    rw [sorted] at collected
    refine ⟨.error failure, plan.run_folder_gives_error folder names workers there failure sorted,
      gives_bind_error _ _ failure collected, fun _ settled => ?_⟩
    rw [plan.sorted_all_settled _ settled] at sorted
    cases sorted
  | ok found =>
    rw [sorted] at collected
    obtain ⟨files, analysed, sound⟩ := plan.analyses_gives found.paths workers
    refine ⟨surveyed found files,
      plan.run_folder_gives folder names workers there found files sorted analysed,
      plan.run_gives [folder] workers found files collected analysed, fun calm _ => ?_⟩
    obtain ⟨listed, rfl⟩ := sound calm
    unfold surveyed
    split <;> exact ⟨_, rfl⟩

end Runs

section Accounts

/-- The two runs over a folder come to the same, and collecting accounts for what is offered, in the
order of offering and as often as it is offered. A path the store cannot answer for ends it. -/
theorem folder_runs_agree (plan : Plan) (excluded : Path → Bool)
    (orderly : ∀ file, plan.isExcluded file = .ok (excluded file)) :
    (∀ folder names workers, plan.store.find folder = .ok (names, .folder) →
      ∃ ending, Gives (plan.runFolder folder workers) ending ∧
        Gives (plan.run [folder] workers) ending ∧
        (plan.broken = [] → ∃ survey, ending = .ok survey)) ∧
      (∀ paths, (∀ path ∈ paths, plan.Answered path) →
        Gives (plan.collectAll paths)
          (.ok ⟨(paths.flatMap plan.offered).filter (!excluded ·),
            (paths.flatMap plan.offered).countP excluded⟩)) ∧
      ∀ before path after fault, (∀ other ∈ before, plan.Answered other) →
        plan.store.find path = .error fault → fault.isAbsence = false →
        Gives (plan.collectAll (before ++ path :: after))
          (.error (.raised .system (fault.message path.text))) := by
  have settled : ∀ files : List Path, ∀ file ∈ files,
      ∃ verdict, plan.isExcluded file = .ok verdict := fun _ file _ => ⟨excluded file, orderly file⟩
  have out : plan.leavesOut = excluded := funext fun file =>
    plan.leaves_out_given file _ (orderly file)
  refine ⟨fun folder names workers there => ?_, fun paths answered => ?_, ?_⟩
  · obtain ⟨ending, byFolder, byPaths, sound⟩ := plan.runs_agree folder names workers there
    exact ⟨ending, byFolder, byPaths, fun calm => sound calm (settled _)⟩
  · have collected := plan.collect_all_answered paths answered
    rwa [plan.sorted_all_settled _ (settled _), out] at collected
  · intro before path after fault answered found present
    exact plan.collect_all_unanswered before after path fault answered
      ⟨_, plan.sorted_all_settled _ (settled _)⟩ found present

def skipping : Plan where
  names := Code.noNames
  store := { entries := [(["pkg"], .folder), (["pkg", "a.py"], .file ⟨#[]⟩),
    (["pkg", "skip.py"], .file ⟨#[]⟩)] }
  settings := { excludePatterns := ["skip.py"] }
  examiners := .ok []

theorem skipping_orderly (file : Path) :
    skipping.isExcluded file = .ok (["skip.py"].any (Glob.hits · file)) := by
  have named : ∀ pattern ∈ ["skip.py"], ¬ Glob.Nameless pattern := by
    simp only [List.forall_mem_cons, Glob.nameless_iff]
    decide
  rw [isExcluded, skipping, Glob.excludes_any_named _ file named]
  rfl

theorem skipping_finds (names : List String) (entry : Entry)
    (clean : (Path.text ⟨"", names⟩).contains '\x00' = false)
    (there : skipping.store.locate true (skipping.store.stepLimit ⟨"", names⟩) Store.linkLimit []
      names = .ok (names, entry)) : skipping.store.find ⟨"", names⟩ = .ok (names, entry) := by
  rw [Store.find, clean]
  exact there

theorem folder_runs_agree_skipping :
    (∃ ending, Gives (skipping.runFolder ⟨"", ["pkg"]⟩ 4) ending ∧
      Gives (skipping.run [⟨"", ["pkg"]⟩] 4) ending ∧ ∃ survey, ending = .ok survey) ∧
      Gives (skipping.collectAll
          [⟨"", ["pkg", "a.py"]⟩, ⟨"", ["pkg", "skip.py"]⟩, ⟨"", ["pkg", "a.py"]⟩])
        (.ok ⟨[⟨"", ["pkg", "a.py"]⟩, ⟨"", ["pkg", "a.py"]⟩], 1⟩) := by
  have folder : skipping.store.find ⟨"", ["pkg"]⟩ = .ok (["pkg"], .folder) :=
    skipping_finds _ _ (by simp [Path.text]) rfl
  have kept : skipping.store.find ⟨"", ["pkg", "a.py"]⟩ = .ok (["pkg", "a.py"], .file ⟨#[]⟩) :=
    skipping_finds _ _ (by simp [Path.text]) rfl
  have left : skipping.store.find ⟨"", ["pkg", "skip.py"]⟩ =
      .ok (["pkg", "skip.py"], .file ⟨#[]⟩) := skipping_finds _ _ (by simp [Path.text]) rfl
  obtain ⟨runs, accounts, _⟩ := folder_runs_agree skipping _ skipping_orderly
  obtain ⟨ending, byFolder, byPaths, sound⟩ := runs _ _ 4 folder
  refine ⟨⟨ending, byFolder, byPaths, sound rfl⟩, ?_⟩
  let given : List Path :=
    [⟨"", ["pkg", "a.py"]⟩, ⟨"", ["pkg", "skip.py"]⟩, ⟨"", ["pkg", "a.py"]⟩]
  have offers : given.flatMap skipping.offered = given := by
    simp only [given, List.flatMap_cons, List.flatMap_nil, offered, kept, left]
    decide
  have collected := accounts given (by simp [given, Answered, kept, left])
  rw [offers] at collected
  have sifted : given.filter (fun file => !(["skip.py"].any (Glob.hits · file))) =
      [⟨"", ["pkg", "a.py"]⟩, ⟨"", ["pkg", "a.py"]⟩] := by decide
  have counted : given.countP (fun file => ["skip.py"].any (Glob.hits · file)) = 1 := by decide
  rwa [sifted, counted] at collected

end Accounts

section Breaks

theorem is_excluded_settled_iff (plan : Plan) (file : Path) :
    (∃ verdict, plan.isExcluded file = .ok verdict) ↔
      ¬ Glob.Stumbles file plan.settings.excludePatterns := by
  rw [← Glob.excludes_any_settled_iff, isExcluded]
  cases Glob.excludesAny plan.settings.excludePatterns file with
  | error fault =>
    constructor
    · rintro ⟨verdict, given⟩
      cases given
    · rintro ⟨verdict, given⟩
      cases given
  | ok verdict => exact ⟨fun _ => ⟨verdict, rfl⟩, fun _ => ⟨verdict, rfl⟩⟩

theorem is_excluded_failure (plan : Plan) (file : Path) (failure : Failure)
    (failed : plan.isExcluded file = .error failure) :
    failure = .raised .value "empty pattern" := by
  rw [isExcluded] at failed
  cases given : Glob.excludesAny plan.settings.excludePatterns file with
  | error fault =>
    rw [given] at failed
    cases fault
    cases failed
    rfl
  | ok verdict =>
    rw [given] at failed
    cases failed

theorem sorted_all_ok_iff (plan : Plan) (files : List Path) :
    (∃ found, plan.sortedAll files = .ok found) ↔
      ∀ file ∈ files, ∃ verdict, plan.isExcluded file = .ok verdict := by
  constructor
  · rintro ⟨found, sorted⟩
    induction files generalizing found with
    | nil => simp
    | cons file rest ih =>
      obtain ⟨first, here, later⟩ := (bind_ok_iff _ _ _).mp sorted
      obtain ⟨others, there, _⟩ := (bind_ok_iff _ _ _).mp later
      obtain ⟨verdict, given, _⟩ := (bind_ok_iff _ _ _).mp here
      rw [List.forall_mem_cons]
      exact ⟨⟨verdict, given⟩, ih others there⟩
  · intro settled
    exact ⟨_, plan.sorted_all_settled files settled⟩

theorem sorted_all_failure (plan : Plan) (files : List Path) (failure : Failure)
    (failed : plan.sortedAll files = .error failure) :
    failure = .raised .value "empty pattern" := by
  induction files with
  | nil => cases failed
  | cons file rest ih =>
    rw [sortedAll, sorted] at failed
    cases given : plan.isExcluded file with
    | error first =>
      rw [given] at failed
      cases failed
      exact plan.is_excluded_failure file failure given
    | ok verdict =>
      cases later : plan.sortedAll rest with
      | error second =>
        rw [given, later] at failed
        have same : second = failure := by cases verdict <;> exact Except.error.inj failed
        exact ih (same ▸ later)
      | ok others =>
        rw [given, later] at failed
        cases verdict <;> cases failed

theorem sorted_all_stumbling (plan : Plan) (files : List Path)
    (stumbling : ∃ file ∈ files, Glob.Stumbles file plan.settings.excludePatterns) :
    plan.sortedAll files = .error (.raised .value "empty pattern") := by
  obtain ⟨file, member, stumbles⟩ := stumbling
  cases sorted : plan.sortedAll files with
  | error failure => rw [plan.sorted_all_failure files failure sorted]
  | ok found =>
    have settled := (plan.sorted_all_ok_iff files).mp ⟨found, sorted⟩ file member
    exact absurd stumbles ((plan.is_excluded_settled_iff file).mp settled)

theorem comma_parts_told (text part : String) (member : part ∈ Settings.commaParts text) :
    part ≠ "" := by
  obtain ⟨piece, _, kept⟩ := List.mem_filterMap.mp member
  dsimp only at kept
  split at kept
  · cases kept
  · rename_i solid
    cases kept
    simpa using solid

theorem of_lookup_patterns_told (look : Settings.Lookup) (s : Settings)
    (read : Settings.ofLookup look = .ok s) : "" ∉ s.excludePatterns := by
  have patterns := (Settings.of_lookup_spells look s read).patterns
  obtain ⟨found, _, patterns⟩ := (bind_ok_iff _ _ _).mp patterns
  cases found with
  | none =>
    have usual : [] = s.excludePatterns := Except.ok.inj patterns
    simp [← usual]
  | some text =>
    have listed : Settings.commaParts text = s.excludePatterns := Except.ok.inj patterns
    exact fun member => comma_parts_told text "" (listed ▸ member) rfl

theorem of_table_any_patterns (s : Settings) (valid : s.fault? = none) :
    (Settings.ofTable (Settings.underTool s.table)).outcome = (.ok s, []) := by
  rw [Settings.of_table_told s.table s (Settings.written_tells s), Settings.checked, valid]

/-- A file has a verdict unless a pattern that names nothing is reached for it, and one without a
verdict breaks off the collecting. A table can hold any patterns, those that name nothing too; a
list between commas just no empty ones. -/
theorem exclusion_settled_iff (plan : Plan) :
    (∀ file, (∃ verdict, plan.isExcluded file = .ok verdict) ↔
      ¬ Glob.Stumbles file plan.settings.excludePatterns) ∧
      (∀ paths, (∀ path ∈ paths, plan.Answered path) →
        ((∀ file ∈ paths.flatMap plan.offered,
            ¬ Glob.Stumbles file plan.settings.excludePatterns) →
          ∃ found, Gives (plan.collectAll paths) (.ok found)) ∧
        ((∃ file ∈ paths.flatMap plan.offered,
            Glob.Stumbles file plan.settings.excludePatterns) →
          Gives (plan.collectAll paths) (.error (.raised .value "empty pattern")))) ∧
      (plan.settings.fault? = none →
        (Settings.ofTable (Settings.underTool plan.settings.table)).outcome =
          (.ok plan.settings, [])) ∧
      ∀ look, Settings.ofLookup look = .ok plan.settings → "" ∉ plan.settings.excludePatterns := by
  refine ⟨plan.is_excluded_settled_iff,
    fun paths answered => ⟨fun steady => ?_, fun stumbling => ?_⟩,
    of_table_any_patterns plan.settings, fun look read => of_lookup_patterns_told look _ read⟩
  · have collected := plan.collect_all_answered paths answered
    have settled : ∀ file ∈ paths.flatMap plan.offered,
        ∃ verdict, plan.isExcluded file = .ok verdict :=
      fun file member => (plan.is_excluded_settled_iff file).mpr (steady file member)
    rw [plan.sorted_all_settled _ settled] at collected
    exact ⟨_, collected⟩
  · have collected := plan.collect_all_answered paths answered
    rwa [plan.sorted_all_stumbling _ stumbling] at collected

def dotted : Plan := { skipping with settings := { excludePatterns := ["skip.py", "."] } }

theorem exclusion_settled_iff_dotted :
    (Settings.ofTable (Settings.underTool dotted.settings.table)).outcome =
        (.ok dotted.settings, []) ∧
      (∃ verdict, dotted.isExcluded ⟨"", ["pkg", "skip.py"]⟩ = .ok verdict) ∧
      Gives (dotted.collectAll [⟨"", ["pkg", "skip.py"]⟩, ⟨"", ["pkg", "a.py"]⟩])
        (.error (.raised .value "empty pattern")) := by
  have kept : dotted.store.find ⟨"", ["pkg", "a.py"]⟩ = .ok (["pkg", "a.py"], .file ⟨#[]⟩) :=
    skipping_finds _ _ (by simp [Path.text]) rfl
  have left : dotted.store.find ⟨"", ["pkg", "skip.py"]⟩ = .ok (["pkg", "skip.py"], .file ⟨#[]⟩) :=
    skipping_finds _ _ (by simp [Path.text]) rfl
  have nameless : Glob.Nameless "." := (Glob.nameless_iff ".").mpr (by decide)
  have named : ¬ Glob.Nameless "skip.py" := mt (Glob.nameless_iff "skip.py").mp (by decide)
  obtain ⟨settled, collecting, loaded, _⟩ := exclusion_settled_iff dotted
  refine ⟨loaded Settings.usual_valid, (settled _).mpr ?_,
    (collecting _ ?_).2 ⟨⟨"", ["pkg", "a.py"]⟩, ?_, ?_⟩⟩
  · intro stumbles
    cases stumbles with
    | here _ _ vacant => exact named vacant
    | later _ _ passed _ => exact absurd passed (by decide)
  · simp [Answered, kept, left]
  · simp only [List.flatMap_cons, List.flatMap_nil, offered, kept, left]
    decide
  · exact .later _ _ (by decide) (.here _ _ nameless)

/-- Settings that are read from a table, with which no file has a verdict. -/
theorem blank_pattern_unsettled :
    (Settings.ofTable (Settings.underTool (Settings.table { excludePatterns := [""] }))).outcome =
        (.ok { excludePatterns := [""] }, []) ∧
      (Plan.usual Code.noNames {} { excludePatterns := [""] }).isExcluded ⟨"", ["a.py"]⟩ =
        .error (.raised .value "empty pattern") :=
  ⟨of_table_any_patterns _ Settings.usual_valid, by
    rw [isExcluded, usual, Glob.excludesAny,
      Glob.excludes_nameless "" _ ((Glob.nameless_iff "").mpr (by decide))]
    rfl⟩

end Breaks

section Names

theorem is_excluded_named (plan : Plan) (file : Path)
    (named : ∀ pattern ∈ plan.settings.excludePatterns, ¬ Glob.Nameless pattern) :
    plan.isExcluded file = .ok (plan.settings.excludePatterns.any (Glob.hits · file)) := by
  rw [isExcluded, Glob.excludes_any_named _ file named]
  rfl

theorem is_excluded_plain (plan : Plan) (file : Path) (proper : file.Proper)
    (plain : ∀ pattern ∈ plan.settings.excludePatterns, Glob.Plain pattern) :
    plan.isExcluded file = .ok (decide (file.name ∈ plan.settings.excludePatterns)) := by
  rw [plan.is_excluded_named file
    fun pattern member => Glob.plain_named pattern (plain pattern member)]
  congr 1
  rw [Bool.eq_iff_iff, List.any_eq_true, decide_eq_true_iff]
  constructor
  · rintro ⟨pattern, member, hit⟩
    rwa [(Glob.hits_name_iff pattern (plain pattern member) file proper).mp hit]
  · intro member
    exact ⟨file.name, member, (Glob.hits_name_iff _ (plain _ member) file proper).mpr rfl⟩

/-- A plain name decides about the paths that end in it and about no others, wherever it stands
among the patterns. What leads through a folder of the name is left out by the two patterns with
wildcards, and with just these two nothing else is. -/
theorem plain_name_leaves_out (plan : Plan) (name text : String) (plain : Glob.Plain name) :
    let path := Path.ofText text
    let patterns := plan.settings.excludePatterns
    (∀ front back, patterns = front ++ name :: back → path.name ≠ name →
      Glob.excludesAny patterns path = Glob.excludesAny (front ++ back) path) ∧
      ((∀ pattern ∈ patterns, Glob.Plain pattern) →
        plan.isExcluded path = .ok (decide (path.name ∈ patterns))) ∧
      ((∀ pattern ∈ patterns, ¬ Glob.Nameless pattern) → Glob.inFolder name ∈ patterns →
        Glob.belowFolder name ∈ patterns → name ∈ path.parts.dropLast →
        plan.isExcluded path = .ok true) ∧
      (patterns = [Glob.inFolder name, Glob.belowFolder name] →
        plan.isExcluded path = .ok (decide (name ∈ path.parts.dropLast))) := by
  intro path patterns
  have proper : path.Proper := Path.of_text_proper text
  have folders := Glob.hits_folder_iff name plain path proper
  refine ⟨fun front back cut other => ?_, plan.is_excluded_plain path proper, ?_, ?_⟩
  · rw [cut]
    exact Glob.excludes_any_inert name plain path proper other front back
  · intro named within below leads
    rw [plan.is_excluded_named path named]
    congr 1
    rw [List.any_eq_true]
    rcases folders.mpr leads with hit | hit
    · exact ⟨_, within, hit⟩
    · exact ⟨_, below, hit⟩
  · intro both
    have named : ∀ pattern ∈ patterns, ¬ Glob.Nameless pattern := by
      rw [both, List.forall_mem_cons, List.forall_mem_cons]
      exact ⟨Glob.in_folder_named name plain, Glob.below_folder_named name plain, by simp⟩
    rw [plan.is_excluded_named path named]
    congr 1
    rw [Bool.eq_iff_iff, decide_eq_true_iff, ← folders]
    change patterns.any _ = true ↔ _
    simp [both]

theorem build_plain : Glob.Plain "build" :=
  ⟨by simp [Glob.isPlainChar], by simp, by simp, by decide⟩

theorem plain_name_leaves_out_build :
    Glob.excludesAny ["*.md", "build", "."] (.ofText "build/a.py") =
        Glob.excludesAny ["*.md", "."] (.ofText "build/a.py") ∧
      (Plan.usual Code.noNames {} { excludePatterns := ["build"] }).isExcluded
        (.ofText "src/build") = .ok true ∧
      (Plan.usual Code.noNames {} { excludePatterns := ["build/*", "*/build/*"] }).isExcluded
        (.ofText "/src/build/lib/a.py") = .ok true := by
  obtain ⟨inert, _⟩ := plain_name_leaves_out
    (Plan.usual Code.noNames {} { excludePatterns := ["*.md", "build", "."] }) "build" "build/a.py"
    build_plain
  obtain ⟨_, alone, _⟩ := plain_name_leaves_out
    (Plan.usual Code.noNames {} { excludePatterns := ["build"] }) "build" "src/build" build_plain
  obtain ⟨_, _, _, folder⟩ := plain_name_leaves_out
    (Plan.usual Code.noNames {} { excludePatterns := ["build/*", "*/build/*"] }) "build"
    "/src/build/lib/a.py" build_plain
  refine ⟨inert ["*.md"] ["."] rfl (by decide), ?_, ?_⟩
  · rw [alone (by simpa [usual] using build_plain)]
    decide
  · rw [folder (by decide)]
    decide

/-- A folder's name among the patterns does not leave out what is in the folder. -/
theorem folder_name_leaves_in :
    Glob.Plain "build" ∧ "build" ∈ (Path.ofText "build/a.py").parts.dropLast ∧
      (Plan.usual Code.noNames {} { excludePatterns := ["build"] }).isExcluded
        (.ofText "build/a.py") = .ok false :=
  ⟨build_plain, by decide, by
    rw [is_excluded_plain _ _ (Path.of_text_proper _) (by simpa [usual] using build_plain)]
    decide⟩

end Names

end RefactorAdvice.Plan
