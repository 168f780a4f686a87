import RefactorAdvice.Analysis.Run
import RefactorAdvice.Cli.Usage
import RefactorAdvice.Report.Json
import RefactorAdvice.Report.Sink
import RefactorAdvice.Session
import RefactorAdvice.Settings.Load
import RefactorAdvice.Settings.Written
import RefactorAdvice.Version.Basic

/-!
The command: from words to an exit code. Code 0 means that nothing was found, 1 that something
was, 2 that the run could not be made. The code is settled stage by stage: version, paths,
settings, existence of the paths, analysis, and last the findings that are grave enough.
-/

namespace RefactorAdvice.Cli

/-- Where a run gets its settings, its files and their analyses from. -/
structure Host where
  settings : Option Path → Settings.Loading Settings
  isThere : Path → Except FileFault Bool
  survey : Settings → List Path → Int → Logging Survey

def Host.ofPlans (store : Store) (plan : Settings → Plan) : Host :=
  { settings := Settings.load store
    isThere := store.exists?
    survey := fun settings paths workers => (plan settings).run paths workers }

def Host.ofStore (names : Code.CharNames) (store : Store) : Host :=
  .ofPlans store (Plan.usual names store)

structure Finish where
  code : Nat
  out : String := ""

def unmade : Nat := 2

/-- Failures of a kind end the run with a message; those of other kinds break it off. -/
def explained (isExplained : FailureKind → Bool) (what : String) (verbose : Bool)
    (failure : Failure) : Logging Unit :=
  if isExplained failure.kind then
    logRecord { level := .error, message := what ++ ": " ++ failure.message, traced := verbose }
  else throw failure

def isSettingsKind : FailureKind → Bool
  | .value | .encoding | .system => true
  | _ => false

def isAnalysisKind : FailureKind → Bool
  | .system | .runtime | .recursion => true
  | _ => false

def note (message : String) : Logging Unit := logRecord { level := .info, message }

def complain (message : String) : Logging Unit := logRecord { level := .error, message }

section Stages

def settingsOf (host : Host) (request : Request) : Logging (Option Settings) := do
  let (outcome, log) := (host.settings request.config).outcome
  modify (· ++ log)
  match outcome with
  | .ok settings =>
    note ("Loaded configuration: " ++ settings.spelled)
    return some settings
  | .error refusal =>
    explained isSettingsKind "Error loading configuration" request.verbose refusal.failure
    return none

def allThere (host : Host) : List Path → Logging Bool
  | [] => return true
  | path :: rest =>
    match host.isThere path with
    | .ok true => allThere host rest
    | .ok false => do
      complain ("Path does not exist: " ++ path.text)
      return false
    | .error fault => throw (.raised .system (fault.message path.text))

def workersFor (jobs : Int) : Logging Int := do
  if jobs < 1 then warn "--jobs must be at least 1; using 1 worker"
  return max 1 jobs

def surveyOf (host : Host) (request : Request) (settings : Settings) :
    Logging (Option Survey) := do
  let workers ← workersFor request.jobs
  let count := request.paths.length
  note s!"Analyzing {count} path(s)..."
  let (outcome, log) := (host.survey settings request.paths workers).outcome
  modify (· ++ log)
  match outcome with
  | .ok survey => return some survey
  | .error failure =>
    explained isAnalysisKind "Error during analysis" request.verbose failure
    return none

def whyEmpty (survey : Survey) : String :=
  let count := survey.excluded
  if 0 < count then s!"All {count} Python file(s) were excluded by configuration patterns"
  else "No Python files found to analyze"

def report (request : Request) (survey : Survey) : String :=
  match request.format with
  | .json => Report.json Version.own survey
  | .text => Report.text .colourless request.grouping survey

end Stages

def run (host : Host) (request : Request) : Logging Finish := do
  if request.version then return ⟨0, "PyRefactor version " ++ Version.own ++ "\n"⟩
  if request.paths.isEmpty then
    complain "No paths provided"
    return ⟨unmade, ""⟩
  let some settings ← settingsOf host request | return ⟨unmade, ""⟩
  if !(← allThere host request.paths) then return ⟨unmade, ""⟩
  let some survey ← surveyOf host request settings | return ⟨unmade, ""⟩
  if survey.files.isEmpty then
    complain (whyEmpty survey)
    return ⟨unmade, ""⟩
  let survey := survey.atLeast request.least
  return ⟨survey.exitCode request.failOnParseErrors, report request survey⟩

def session (program : String) (host : Host) (words : List String) : Session :=
  match read words with
  | .error .dropped => { ending := .error (.raised .value (Fault.message .dropped)) }
  | .error fault =>
    { ending := .ok unmade
      err := usage program ++ program ++ ": error: " ++ fault.message ++ "\n" }
  | .ok .help => { ending := .ok 0, out := help program }
  | .ok (.run request) =>
    let (outcome, log) := (run host request).outcome
    let err := log.shown (if request.verbose then .info else .warning)
    match outcome with
    | .ok finish => { ending := .ok finish.code, out := finish.out, err }
    | .error failure => { ending := .error failure, err }

end RefactorAdvice.Cli
