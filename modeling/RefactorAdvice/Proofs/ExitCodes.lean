import RefactorAdvice.Cli.Run
import RefactorAdvice.Proofs.LoggedRuns
import RefactorAdvice.Proofs.ValidSettings

/-!
What the exit code of a run says. The codes are documented by what has happened: zero for the
version or for a run that found nothing, two for a run that could not be made, one for a run that
found something. Every run that ends, ends with the one code that is documented for it; the way
of the report does not matter for it, and to ask for graver findings only never raises it. One
failure is not foreseen: a path that can be told neither to be there nor to be missing breaks the
run off, and then there is no code.
-/

namespace RefactorAdvice.Cli

open LoggingExcept

section Meaning

def Host.loaded (host : Host) (request : Request) : Except Settings.Refusal Settings :=
  (host.settings request.config).outcome.1

def Host.surveyed (host : Host) (request : Request) (settings : Settings) :
    Except Failure Survey :=
  (host.survey settings request.paths (max 1 request.jobs)).outcome.1

inductive Unmade (host : Host) (request : Request) : Prop where
  | pathless (bare : request.paths = [])
  | refused (refusal : Settings.Refusal) (loading : host.loaded request = .error refusal)
  | absent (path : Path) (given : path ∈ request.paths) (missing : host.isThere path = .ok false)
  | failed (settings : Settings) (failure : Failure)
      (loading : host.loaded request = .ok settings)
      (surveying : host.surveyed request settings = .error failure)
  | empty (settings : Settings) (survey : Survey)
      (loading : host.loaded request = .ok settings)
      (surveying : host.surveyed request settings = .ok survey) (nothing : survey.files = [])

/-- A survey that speaks against its files: a finding is grave enough, or a file could not be
analysed and that counts. -/
def Request.Blames (request : Request) (survey : Survey) : Prop :=
  (∃ a ∈ survey.files, ∃ f ∈ a.findings, request.least ≤ f.severity) ∨
    (request.failOnParseErrors = true ∧ ∃ a ∈ survey.files, ∃ reason, a.parseError = some reason)

inductive Means (host : Host) (request : Request) : Nat → Prop where
  | version (asked : request.version = true) : Means host request 0
  | unmade (wanted : request.version = false) (why : Unmade host request) : Means host request 2
  | blamed (settings : Settings) (survey : Survey) (wanted : request.version = false)
      (made : ¬ Unmade host request) (loading : host.loaded request = .ok settings)
      (surveying : host.surveyed request settings = .ok survey)
      (found : request.Blames survey) : Means host request 1
  | clean (settings : Settings) (survey : Survey) (wanted : request.version = false)
      (made : ¬ Unmade host request) (loading : host.loaded request = .ok settings)
      (surveying : host.surveyed request settings = .ok survey)
      (nothing : ¬ request.Blames survey) : Means host request 0

structure Alike (request other : Request) : Prop where
  version : other.version = request.version
  paths : other.paths = request.paths
  config : other.config = request.config
  jobs : other.jobs = request.jobs

theorem alike_refl (request : Request) : Alike request request := ⟨rfl, rfl, rfl, rfl⟩

theorem alike_symm (request other : Request) (alike : Alike request other) :
    Alike other request :=
  ⟨alike.version.symm, alike.paths.symm, alike.config.symm, alike.jobs.symm⟩

theorem loaded_alike (host : Host) (request other : Request) (alike : Alike request other) :
    host.loaded other = host.loaded request := by
  rw [Host.loaded, Host.loaded, alike.config]

theorem surveyed_alike (host : Host) (request other : Request) (alike : Alike request other)
    (settings : Settings) : host.surveyed other settings = host.surveyed request settings := by
  rw [Host.surveyed, Host.surveyed, alike.paths, alike.jobs]

theorem unmade_alike (host : Host) (request other : Request) (alike : Alike request other)
    (why : Unmade host other) : Unmade host request := by
  cases why with
  | pathless bare => exact .pathless (alike.paths ▸ bare)
  | refused refusal loading => exact .refused refusal (loaded_alike host _ _ alike ▸ loading)
  | absent path given missing => exact .absent path (alike.paths ▸ given) missing
  | failed settings failure loading surveying =>
    exact .failed settings failure (loaded_alike host _ _ alike ▸ loading)
      (surveyed_alike host _ _ alike settings ▸ surveying)
  | empty settings survey loading surveying nothing =>
    exact .empty settings survey (loaded_alike host _ _ alike ▸ loading)
      (surveyed_alike host _ _ alike settings ▸ surveying) nothing

-- Whether a run can be made does not depend on how it is judged, so the code can only fall from
-- one to zero.
theorem means_milder (host : Host) (request other : Request) (alike : Alike request other)
    (milder : ∀ survey, other.Blames survey → request.Blames survey) (code lower : Nat)
    (means : Means host request code) (meansToo : Means host other lower) :
    lower ≤ code ∧ (lower = 2 ↔ code = 2) := by
  have unmade := unmade_alike host request other alike
  have unmadeToo := unmade_alike host other request (alike_symm _ _ alike)
  cases means with
  | version asked =>
    cases meansToo with
    | unmade wanted | blamed _ _ wanted => simp [alike.version, asked] at wanted
    | version | clean => simp
  | unmade wanted why =>
    cases meansToo with
    | version asked => simp [← alike.version, asked] at wanted
    | unmade => simp
    | blamed _ _ _ made | clean _ _ _ made => exact absurd (unmadeToo why) made
  | blamed settings survey wanted made =>
    cases meansToo with
    | unmade _ why => exact absurd (unmade why) made
    | version | blamed | clean => simp
  | clean settings survey wanted made loading surveying nothing =>
    cases meansToo with
    | unmade _ why => exact absurd (unmade why) made
    | blamed _ _ _ _ loading' surveying' found =>
      rw [loaded_alike host _ _ alike] at loading'
      cases loading.symm.trans loading'
      rw [surveyed_alike host _ _ alike] at surveying'
      cases surveying.symm.trans surveying'
      exact absurd (milder survey found) nothing
    | version | clean => simp

end Meaning

section Endings

def EndsWith (host : Host) (request : Request) (code : Nat) : Prop :=
  ∃ finish, (run host request).outcome.1 = .ok finish ∧ finish.code = code

/-- The kinds of failure that are documented: of settings a value, be it ill-encoded, or the
system; of a survey the system or the run itself, be it too deep. -/
structure Foreseen (host : Host) (request : Request) : Prop where
  loading : ∀ refusal, host.loaded request = .error refusal →
    refusal.kind ∈ [.value, .encoding, .system]
  surveying : ∀ settings failure, host.loaded request = .ok settings →
    host.surveyed request settings = .error failure →
      failure.kind ∈ [.system, .runtime, .recursion]

/-- Paths of which one can be told neither to be there nor to be missing, and none before it is
missing. -/
inductive Undecided (host : Host) : List Path → Prop where
  | here (path : Path) (rest : List Path) (fault : FileFault)
      (untold : host.isThere path = .error fault) : Undecided host (path :: rest)
  | later (path : Path) (rest : List Path) (there : host.isThere path = .ok true)
      (undecided : Undecided host rest) : Undecided host (path :: rest)

structure BreaksOff (host : Host) (request : Request) : Prop where
  wanted : request.version = false
  loading : ∃ settings, host.loaded request = .ok settings
  undecided : Undecided host request.paths

end Endings

section Stages

theorem explained_gives (isExplained : FailureKind → Bool) (what : String) (verbose : Bool)
    (failure : Failure) (known : isExplained failure.kind = true) :
    Gives (explained isExplained what verbose failure) (.ok ()) := by
  unfold explained
  rw [if_pos known]
  exact fun _ => rfl

theorem settings_of_loaded (host : Host) (request : Request) (settings : Settings)
    (loading : host.loaded request = .ok settings) :
    Gives (settingsOf host request) (.ok (some settings)) := by
  unfold Host.loaded at loading
  unfold settingsOf
  generalize (host.settings request.config).outcome = loaded at loading
  obtain ⟨outcome, added⟩ := loaded
  cases loading
  exact fun _ => rfl

theorem settings_of_refused (host : Host) (request : Request) (refusal : Settings.Refusal)
    (loading : host.loaded request = .error refusal)
    (known : refusal.kind ∈ [.value, .encoding, .system]) :
    Gives (settingsOf host request) (.ok none) := by
  have explained : isSettingsKind refusal.failure.kind = true := by
    change isSettingsKind refusal.kind = true
    revert known
    cases refusal.kind <;> decide
  unfold Host.loaded at loading
  unfold settingsOf
  generalize (host.settings request.config).outcome = loaded at loading
  obtain ⟨outcome, added⟩ := loaded
  cases loading
  refine gives_bind _ _ () _ (fun _ => rfl) ?_
  exact gives_bind _ _ () _ (explained_gives _ _ _ _ explained) fun _ => rfl

theorem workers_for_gives (jobs : Int) : Gives (workersFor jobs) (.ok (max 1 jobs)) := by
  intro log
  unfold workersFor
  split <;> rfl

theorem survey_of_surveyed (host : Host) (request : Request) (settings : Settings)
    (survey : Survey) (surveying : host.surveyed request settings = .ok survey) :
    Gives (surveyOf host request settings) (.ok (some survey)) := by
  unfold Host.surveyed at surveying
  unfold surveyOf
  refine gives_bind _ _ _ _ (workers_for_gives request.jobs) ?_
  generalize (host.survey settings request.paths (max 1 request.jobs)).outcome = made at surveying
  obtain ⟨outcome, added⟩ := made
  cases surveying
  exact fun _ => rfl

theorem survey_of_failed (host : Host) (request : Request) (settings : Settings)
    (failure : Failure) (surveying : host.surveyed request settings = .error failure)
    (known : failure.kind ∈ [.system, .runtime, .recursion]) :
    Gives (surveyOf host request settings) (.ok none) := by
  have explained : isAnalysisKind failure.kind = true := by
    revert known
    cases failure.kind <;> decide
  unfold Host.surveyed at surveying
  unfold surveyOf
  refine gives_bind _ _ _ _ (workers_for_gives request.jobs) ?_
  generalize (host.survey settings request.paths (max 1 request.jobs)).outcome = made at surveying
  obtain ⟨outcome, added⟩ := made
  cases surveying
  refine gives_bind _ _ () _ (fun _ => rfl) ?_
  refine gives_bind _ _ () _ (fun _ => rfl) ?_
  exact gives_bind _ _ () _ (explained_gives _ _ _ _ explained) fun _ => rfl

-- The paths are asked for in turn, up to the first that is not there.
theorem all_there_told (host : Host) (paths : List Path) (told : ¬ Undecided host paths) :
    Gives (allThere host paths) (.ok true) ∨
      (Gives (allThere host paths) (.ok false) ∧
        ∃ path ∈ paths, host.isThere path = .ok false) := by
  induction paths with
  | nil => exact Or.inl fun _ => rfl
  | cons path rest ih =>
    unfold allThere
    cases answer : host.isThere path with
    | error fault => exact absurd (.here path rest fault answer) told
    | ok there =>
      cases there with
      | false => exact Or.inr ⟨fun _ => rfl, path, List.mem_cons_self, answer⟩
      | true =>
        rcases ih fun undecided => told (.later path rest answer undecided) with
          all | ⟨stopped, missing, inside, absent⟩
        · exact Or.inl all
        · exact Or.inr ⟨stopped, missing, List.mem_cons_of_mem path inside, absent⟩

theorem all_there_true (host : Host) (paths : List Path)
    (all : Gives (allThere host paths) (.ok true)) (path : Path) (given : path ∈ paths) :
    host.isThere path = .ok true := by
  induction paths with
  | nil => cases given
  | cons first rest ih =>
    unfold allThere at all
    cases answer : host.isThere first with
    | error fault =>
      rw [answer] at all
      cases all []
    | ok there =>
      rw [answer] at all
      cases there with
      | false => cases all []
      | true =>
        rcases List.mem_cons.mp given with rfl | later
        · exact answer
        · exact ih all later

theorem all_there_undecided (host : Host) (paths : List Path)
    (undecided : Undecided host paths) :
    ∃ failure, failure.kind = .system ∧ Gives (allThere host paths) (.error failure) := by
  induction undecided with
  | here path rest fault untold =>
    unfold allThere
    rw [untold]
    exact ⟨_, rfl, fun _ => rfl⟩
  | later path rest there _ ih =>
    unfold allThere
    rw [there]
    exact ih

end Stages

section Codes

theorem at_least_found (survey : Survey) (least : Severity) :
    ((survey.atLeast least).files.any fun a => !a.findings.isEmpty) = true ↔
      ∃ a ∈ survey.files, ∃ f ∈ a.findings, least ≤ f.severity := by
  simp [Survey.atLeast, Analysis.atLeast]

-- Findings may be left out, but a file that could not be analysed stays.
theorem at_least_unread (survey : Survey) (least : Severity) :
    ((survey.atLeast least).files.any fun a => a.parseError.isSome) = true ↔
      ∃ a ∈ survey.files, ∃ reason, a.parseError = some reason := by
  simp [Survey.atLeast, Analysis.atLeast, Option.isSome_iff_exists]

theorem exit_code_blames (request : Request) (survey : Survey) :
    (request.Blames survey ∧
        (survey.atLeast request.least).exitCode request.failOnParseErrors = 1) ∨
      (¬ request.Blames survey ∧
        (survey.atLeast request.least).exitCode request.failOnParseErrors = 0) := by
  have found := at_least_found survey request.least
  have unread := at_least_unread survey request.least
  unfold Survey.exitCode Request.Blames
  rw [← found, ← unread]
  split
  · rename_i grave
    exact Or.inl ⟨Or.inl grave, rfl⟩
  · rename_i calm
    rw [← Bool.and_eq_true]
    split
    · rename_i counted
      exact Or.inl ⟨Or.inr counted, rfl⟩
    · rename_i uncounted
      exact Or.inr ⟨not_or.mpr ⟨calm, uncounted⟩, rfl⟩

end Codes

section Runs
variable (host : Host) (request : Request)

theorem ends_with_of_gives (finish : Finish) (given : Gives (run host request) (.ok finish)) :
    EndsWith host request finish.code := ⟨finish, gives_outcome _ _ given, rfl⟩

theorem run_version (asked : request.version = true) : EndsWith host request 0 := by
  refine ends_with_of_gives host request ⟨0, "PyRefactor version " ++ Version.own ++ "\n"⟩ ?_
  simp only [run, asked, ↓reduceIte]
  exact fun _ => rfl

theorem run_pathless (wanted : request.version = false) (bare : request.paths = []) :
    EndsWith host request 2 := by
  refine ends_with_of_gives host request ⟨unmade, ""⟩ ?_
  simp only [run, wanted, bare, List.isEmpty_nil, Bool.false_eq_true, ↓reduceIte]
  exact fun _ => rfl

variable (wanted : request.version = false) (pathful : request.paths.isEmpty = false)
include wanted pathful

theorem run_unset (unset : Gives (settingsOf host request) (.ok none)) :
    EndsWith host request 2 := by
  refine ends_with_of_gives host request ⟨unmade, ""⟩ ?_
  simp only [run, wanted, pathful, Bool.false_eq_true, ↓reduceIte]
  exact gives_bind _ _ _ _ unset fun _ => rfl

variable (settings : Settings) (loaded : Gives (settingsOf host request) (.ok (some settings)))
include loaded

theorem run_absent (absent : Gives (allThere host request.paths) (.ok false)) :
    EndsWith host request 2 := by
  refine ends_with_of_gives host request ⟨unmade, ""⟩ ?_
  simp only [run, wanted, pathful, Bool.false_eq_true, ↓reduceIte]
  refine gives_bind _ _ _ _ loaded ?_
  exact gives_bind _ _ _ _ absent fun _ => rfl

theorem run_untold (failure : Failure)
    (untold : Gives (allThere host request.paths) (.error failure)) :
    (run host request).outcome.1 = .error failure := by
  refine gives_outcome _ _ ?_
  simp only [run, wanted, pathful, Bool.false_eq_true, ↓reduceIte]
  refine gives_bind _ _ _ _ loaded ?_
  exact gives_bind_error _ _ failure untold

variable (there : Gives (allThere host request.paths) (.ok true))
include there

theorem run_unsurveyed (unsurveyed : Gives (surveyOf host request settings) (.ok none)) :
    EndsWith host request 2 := by
  refine ends_with_of_gives host request ⟨unmade, ""⟩ ?_
  simp only [run, wanted, pathful, Bool.false_eq_true, ↓reduceIte]
  refine gives_bind _ _ _ _ loaded ?_
  refine gives_bind _ _ _ _ there ?_
  exact gives_bind _ _ _ _ unsurveyed fun _ => rfl

variable (survey : Survey) (surveyed : Gives (surveyOf host request settings) (.ok (some survey)))
include surveyed

theorem run_empty (nothing : survey.files.isEmpty = true) : EndsWith host request 2 := by
  refine ends_with_of_gives host request ⟨unmade, ""⟩ ?_
  simp only [run, wanted, pathful, Bool.false_eq_true, ↓reduceIte]
  refine gives_bind _ _ _ _ loaded ?_
  refine gives_bind _ _ _ _ there ?_
  refine gives_bind _ _ _ _ surveyed ?_
  simp only [nothing, ↓reduceIte]
  exact fun _ => rfl

theorem run_reported (held : survey.files.isEmpty = false) :
    EndsWith host request
      ((survey.atLeast request.least).exitCode request.failOnParseErrors) := by
  refine ends_with_of_gives host request ⟨_, report request (survey.atLeast request.least)⟩ ?_
  simp only [run, wanted, pathful, Bool.false_eq_true, ↓reduceIte]
  refine gives_bind _ _ _ _ loaded ?_
  refine gives_bind _ _ _ _ there ?_
  refine gives_bind _ _ _ _ surveyed ?_
  simp only [held, Bool.false_eq_true, ↓reduceIte]
  exact fun _ => rfl

end Runs

section Guarantees

theorem made_by_stages (host : Host) (request : Request) (settings : Settings) (survey : Survey)
    (pathful : request.paths ≠ []) (loading : host.loaded request = .ok settings)
    (there : ∀ path ∈ request.paths, host.isThere path = .ok true)
    (surveying : host.surveyed request settings = .ok survey) (held : survey.files ≠ []) :
    ¬ Unmade host request := by
  intro why
  cases why with
  | pathless bare => exact pathful bare
  | refused refusal refused => cases loading.symm.trans refused
  | absent path given missing => cases (there path given).symm.trans missing
  | failed other failure loading' failed =>
    cases loading.symm.trans loading'
    cases surveying.symm.trans failed
  | empty other survey' loading' surveying' nothing =>
    cases loading.symm.trans loading'
    cases surveying.symm.trans surveying'
    exact held nothing

theorem surveyed_means (host : Host) (request : Request) (settings : Settings) (survey : Survey)
    (wanted : request.version = false) (pathful : request.paths ≠ [])
    (loading : host.loaded request = .ok settings)
    (there : Gives (allThere host request.paths) (.ok true))
    (surveying : host.surveyed request settings = .ok survey) :
    ∃ code, EndsWith host request code ∧ Means host request code := by
  have given : request.paths.isEmpty = false := by simpa using pathful
  have loaded := settings_of_loaded host request settings loading
  have surveyed := survey_of_surveyed host request settings survey surveying
  by_cases nothing : survey.files = []
  · have ended := run_empty host request wanted given settings loaded there survey surveyed
      (List.isEmpty_iff.mpr nothing)
    exact ⟨2, ended, .unmade wanted (.empty settings survey loading surveying nothing)⟩
  · have ended := run_reported host request wanted given settings loaded there survey surveyed
      (by simpa using nothing)
    have made := made_by_stages host request settings survey pathful loading
      (all_there_true host request.paths there) surveying nothing
    rcases exit_code_blames request survey with ⟨found, code⟩ | ⟨calm, code⟩
    · rw [code] at ended
      exact ⟨1, ended, .blamed settings survey wanted made loading surveying found⟩
    · rw [code] at ended
      exact ⟨0, ended, .clean settings survey wanted made loading surveying calm⟩

theorem run_means (host : Host) (request : Request) (foreseen : Foreseen host request)
    (whole : ¬ BreaksOff host request) :
    ∃ code, EndsWith host request code ∧ Means host request code := by
  cases wanted : request.version with
  | true => exact ⟨0, run_version host request wanted, .version wanted⟩
  | false =>
    by_cases bare : request.paths = []
    · exact ⟨2, run_pathless host request wanted bare, .unmade wanted (.pathless bare)⟩
    have given : request.paths.isEmpty = false := by simpa using bare
    cases loading : host.loaded request with
    | error refusal =>
      have unset := settings_of_refused host request refusal loading
        (foreseen.loading refusal loading)
      exact ⟨2, run_unset host request wanted given unset,
        .unmade wanted (.refused refusal loading)⟩
    | ok settings =>
      have loaded := settings_of_loaded host request settings loading
      have told : ¬ Undecided host request.paths :=
        fun undecided => whole ⟨wanted, ⟨settings, loading⟩, undecided⟩
      rcases all_there_told host request.paths told with there | ⟨stopped, path, inside, missing⟩
      · cases surveying : host.surveyed request settings with
        | error failure =>
          have unsurveyed := survey_of_failed host request settings failure surveying
            (foreseen.surveying settings failure loading surveying)
          exact ⟨2, run_unsurveyed host request wanted given settings loaded there unsurveyed,
            .unmade wanted (.failed settings failure loading surveying)⟩
        | ok survey =>
          exact surveyed_means host request settings survey wanted bare loading there surveying
      · exact ⟨2, run_absent host request wanted given settings loaded stopped,
          .unmade wanted (.absent path inside missing)⟩

theorem undecided_given (host : Host) (paths : List Path) (undecided : Undecided host paths) :
    paths.isEmpty = false := by
  cases undecided <;> rfl

theorem run_breaks_off (host : Host) (request : Request) (broken : BreaksOff host request) :
    ∃ failure, (run host request).outcome.1 = .error failure ∧ failure.kind = .system := by
  obtain ⟨wanted, ⟨settings, loading⟩, undecided⟩ := broken
  obtain ⟨failure, system, untold⟩ := all_there_undecided host request.paths undecided
  have given := undecided_given host request.paths undecided
  have loaded := settings_of_loaded host request settings loading
  exact ⟨failure, run_untold host request wanted given settings loaded failure untold, system⟩

theorem foreseen_alike (host : Host) (request other : Request) (alike : Alike request other)
    (foreseen : Foreseen host request) : Foreseen host other := by
  constructor
  · intro refusal loading
    exact foreseen.loading refusal (loaded_alike host _ _ alike ▸ loading)
  · intro settings failure loading surveying
    exact foreseen.surveying settings failure (loaded_alike host _ _ alike ▸ loading)
      (surveyed_alike host _ _ alike settings ▸ surveying)

theorem breaks_off_alike (host : Host) (request other : Request) (alike : Alike request other)
    (broken : BreaksOff host other) : BreaksOff host request :=
  ⟨alike.version ▸ broken.wanted, loaded_alike host _ _ alike ▸ broken.loading,
    alike.paths ▸ broken.undecided⟩

theorem run_milder (host : Host) (request other : Request) (alike : Alike request other)
    (foreseen : Foreseen host request) (whole : ¬ BreaksOff host request)
    (milder : ∀ survey, other.Blames survey → request.Blames survey) (code : Nat)
    (means : Means host request code) :
    ∃ lower, EndsWith host other lower ∧ Means host other lower ∧ lower ≤ code ∧
      (lower = 2 ↔ code = 2) := by
  obtain ⟨lower, ended, meansToo⟩ := run_means host other
    (foreseen_alike host request other alike foreseen)
    fun broken => whole (breaks_off_alike host request other alike broken)
  exact ⟨lower, ended, meansToo,
    means_milder host request other alike milder code lower means meansToo⟩

theorem blames_graver (request : Request) (least : Severity) (graver : request.least ≤ least)
    (survey : Survey) (blamed : { request with least }.Blames survey) :
    request.Blames survey := by
  rcases blamed with ⟨a, inside, f, found, grave⟩ | unread
  · exact Or.inl ⟨a, inside, f, found, Nat.le_trans graver grave⟩
  · exact Or.inr unread

/--
With failures of the documented kinds only, a run is broken off exactly if it cannot tell whether
a path is there. Every other run ends with the one code that says what has happened. Another
format or grouping of the report leaves the code as it is; if only graver findings are asked for
it does not rise, and it is two for the one request exactly if it is for the other.
-/
theorem exit_code_means (host : Host) (request : Request) (foreseen : Foreseen host request) :
    (BreaksOff host request ∧
      ∃ failure, (run host request).outcome.1 = .error failure ∧ failure.kind = .system) ∨
    (¬ BreaksOff host request ∧
      ∃ code, EndsWith host request code ∧ Means host request code ∧
        (∀ other, Means host request other → other = code) ∧
        (∀ format grouping, EndsWith host { request with format, grouping } code) ∧
        ∀ least, request.least ≤ least →
          ∃ lower ≤ code, (lower = 2 ↔ code = 2) ∧ EndsWith host { request with least } lower) := by
  by_cases broken : BreaksOff host request
  · exact Or.inl ⟨broken, run_breaks_off host request broken⟩
  · obtain ⟨code, ended, means⟩ := run_means host request foreseen broken
    refine Or.inr ⟨broken, code, ended, means, ?_, ?_, ?_⟩
    · intro other meansToo
      have same := alike_refl request
      have below := means_milder host _ _ same (fun _ => id) code other means meansToo
      have above := means_milder host _ _ same (fun _ => id) other code meansToo means
      exact Nat.le_antisymm below.1 above.1
    · intro format grouping
      have alike : Alike request { request with format, grouping } := ⟨rfl, rfl, rfl, rfl⟩
      obtain ⟨other, endedToo, meansToo, below, _⟩ :=
        run_milder host request _ alike foreseen broken (fun _ => id) code means
      have above := means_milder host _ request (alike_symm _ _ alike) (fun _ => id) other code
        meansToo means
      rwa [Nat.le_antisymm below above.1] at endedToo
    · intro least graver
      have alike : Alike request { request with least } := ⟨rfl, rfl, rfl, rfl⟩
      obtain ⟨lower, endedToo, _, below, two⟩ := run_milder host request _ alike foreseen broken
        (blames_graver request least graver) code means
      exact ⟨lower, below, two, endedToo⟩

section Spotted

def slight : Finding :=
  { file := "a.py", line := 1, column := 0, severity := .low, rule := "R014", message := ""
    suggestion := none, snippet := none, endLine := none, line_pos := by decide
    line_le_end := by simp }

def spotted : Host :=
  { settings := fun _ => pure {}
    isThere := fun _ => .ok true
    survey := fun _ _ _ => pure
      { files := [{ path := "a.py", findings := [slight] },
          { path := "b.py", parseError := some "Syntax error: invalid syntax" }] } }

theorem exit_code_means_spotted :
    let request : Request := { paths := [⟨"", ["a.py"]⟩, ⟨"", ["b.py"]⟩], least := .low }
    Foreseen spotted request ∧ Means spotted request 1 ∧
      (∀ format grouping, EndsWith spotted { request with format, grouping } 1) ∧
      ∃ lower ≤ 1, lower ≠ 2 ∧ EndsWith spotted { request with least := .high } lower := by
  intro request
  have foreseen : Foreseen spotted request := by
    constructor
    · intro refusal loading
      cases loading
    · intro settings failure _ surveying
      cases surveying
  have decided : ∀ paths, ¬ Undecided spotted paths := by
    intro paths undecided
    induction undecided with
    | here path rest fault untold => cases untold
    | later path rest there _ ih => exact ih
  have made : ¬ Unmade spotted request :=
    made_by_stages spotted request {} _ (by simp [request]) rfl (fun _ _ => rfl) rfl (by simp)
  have found : Means spotted request 1 :=
    .blamed {} _ rfl made rfl rfl (Or.inl ⟨_, List.mem_cons_self, slight, List.mem_cons_self,
      by decide⟩)
  rcases exit_code_means spotted request foreseen with
    ⟨broken, _⟩ | ⟨_, code, _, _, single, reported, graver⟩
  · exact absurd broken.undecided (decided _)
  · cases single 1 found
    obtain ⟨lower, below, two, ended⟩ := graver .high (by decide)
    exact ⟨foreseen, found, reported, lower, below, fun same => absurd (two.mp same) (by decide),
      ended⟩

end Spotted

end Guarantees

section Overlong

def overlong : String := String.ofList (List.replicate 256 'y')

theorem overlong_clean : '\x00' ∉ overlong.toList := by
  have clean : ∀ n, '\x00' ∉ (String.ofList (List.replicate n 'y')).toList := by
    intro n inside
    rw [String.toList_ofList] at inside
    cases List.eq_of_mem_replicate inside
  exact clean 256

theorem overlong_long : Store.longestName < overlong.utf8ByteSize := by decide +kernel

theorem lone_text (name : String) : Path.text ⟨"", [name]⟩ = name := by simp [Path.text]

theorem find_overlong (store : Store) : store.find ⟨"", [overlong]⟩ = .error .longName := by
  have whole : overlong.contains '\x00' = false := by simpa using overlong_clean
  have long := overlong_long
  generalize overlong = name at whole long
  have void : name ≠ "" := by rintro rfl; revert long; decide
  have dot : name ≠ "." := by rintro rfl; revert long; decide
  have dots : name ≠ ".." := by rintro rfl; revert long; decide
  obtain ⟨fuel, steps⟩ : ∃ fuel, store.stepLimit ⟨"", [name]⟩ = fuel + 1 := ⟨_, rfl⟩
  simp [Store.find, lone_text, whole, steps, Store.locate, Store.entryAt, void, dot, dots, long]

theorem find_vacant (name : String) (clean : '\x00' ∉ name.toList)
    (named : name ≠ "" ∧ name ≠ "." ∧ name ≠ "..")
    (short : name.utf8ByteSize ≤ Store.longestName) :
    Store.find {} ⟨"", [name]⟩ = .error .missing := by
  have whole : name.contains '\x00' = false := by simpa using clean
  obtain ⟨fuel, steps⟩ : ∃ fuel, Store.stepLimit {} ⟨"", [name]⟩ = fuel + 1 := ⟨_, rfl⟩
  simp [Store.find, lone_text, whole, steps, Store.locate, Store.entryAt, named,
    Nat.not_lt.mpr short]

-- Where there are no files the settings are the usual ones.
theorem load_vacant : (Settings.load {} none).outcome.1 = .ok {} := by
  have project : Settings.projectFile = ⟨"", ["pyproject.toml"]⟩ := rfl
  have sections : Settings.sectionsFile = ⟨"", ["pyrefactor.ini"]⟩ := rfl
  have noProject := find_vacant "pyproject.toml" (by decide) (by decide) (by decide)
  have noSections := find_vacant "pyrefactor.ini" (by decide) (by decide) (by decide)
  have unread : Store.isFile {} Settings.projectFile = .ok false := by
    simp only [Store.isFile, Store.holds, project, noProject, FileFault.isAbsence, ↓reduceIte]
  have absent : Store.exists? {} Settings.sectionsFile = .ok false := by
    simp only [Store.exists?, Store.holds, sections, noSections, FileFault.isAbsence, ↓reduceIte]
  simp only [Settings.load, Settings.discover, Settings.discoverOpening, unread,
    Settings.ofSectionsFile, absent, Settings.checked, Settings.usual_valid]
  rfl

/-- A path of that name leads nowhere, whatever files there are, and yet no code says so. -/
theorem overlong_path_unanswered :
    (∀ store : Store, store.find ⟨"", [overlong]⟩ = .error .longName) ∧
      ∀ code, ¬ EndsWith (.ofStore Code.noNames {}) { paths := [⟨"", [overlong]⟩] } code := by
  refine ⟨find_overlong, ?_⟩
  have undecided : BreaksOff (.ofStore Code.noNames {}) { paths := [⟨"", [overlong]⟩] } := by
    refine ⟨rfl, ⟨{}, load_vacant⟩, .here _ [] .longName ?_⟩
    simp only [Host.ofStore, Host.ofPlans, Store.exists?, Store.holds, find_overlong,
      FileFault.isAbsence, Bool.false_eq_true, ↓reduceIte]
  rintro code ⟨finish, ended, _⟩
  obtain ⟨failure, broken, _⟩ := run_breaks_off _ _ undecided
  cases broken.symm.trans ended

end Overlong

end RefactorAdvice.Cli
