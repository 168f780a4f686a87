import RefactorAdvice.Json.Writer
import RefactorAdvice.Rounds.History
import RefactorAdvice.Rounds.SelfCheck
import RefactorAdvice.Rounds.Share
import RefactorAdvice.Text.WordChar

/-!
One round of measuring: coverage, shares of time, self-checks, a line of history, and whether
another round is worth it.
-/

namespace RefactorAdvice.Rounds

open Work

structure Clock where
  start : Binary64 := .ofInt 0
  stop : Binary64 := .ofInt 1
  now : Binary64 := .ofInt 1000

section Files

def coverageFile : String := "_pti_coverage.json"

def historyFile : String := ".pti_checkpoint.jsonl"

def benchmarkFile : String := "microbench.py"

def textOf? (store : Store) (name : String) : Option String :=
  match store.read (Path.ofText name) with
  | .error _ => none
  | .ok bytes =>
    match Text.decodeUtf8 bytes with
    | .ok text => some (String.ofList (Text.unifyBreaks text.toList))
    | .error _ => none

def opensBenchmark (line : List Char) : Bool :=
  let opening := "def bench_".toList
  if opening.isPrefixOf line then
    let rest := line.drop opening.length
    let name := rest.takeWhile Text.isWordChar
    let behind := (rest.drop name.length).dropWhile Text.isBlank
    !name.isEmpty && behind.head? == some '('
  else false

def benchmarkCount (store : Store) : Nat :=
  let text := (textOf? store benchmarkFile).getD ""
  (text.splitOn "\n").countP fun line => opensBenchmark line.toList

end Files

section Parts

def omitted : List String :=
  ["*/microbench.py", "*/_pti_*.py", "*/setup.py", "*/conftest.py", "*/test_*.py", "*/*_test.py",
   "*/tests/*", "*/test/*", "*/__tests__/*", "*/__fixtures__/*", "*/_version.py"]

def coverageCommand : List String :=
  ["python", placed "_pti_cov_runner.py", home, "microbench", placed coverageFile,
   Json.write .line (.list (omitted.map .text))]

def coverage? : Work (Option Coverage) := do
  let result ← start coverageCommand
  passOn result
  match result.code == 0, textOf? (← get).store coverageFile with
  | true, some text => return some (← lift (document text >>= Coverage.ofData))
  | _, _ =>
    let code := result.code
    say s!"coverage measurement failed (exit {code})"
    say (result.out.getD "")
    return none

def statusCommand : List String :=
  ["git", "-C", home, "status", "--porcelain", "--", ".", ":!microbench.py", ":!_pti_*",
   ":!.pti_*", ":!.coverage"]

def changedFiles (text : String) : List String :=
  ((Text.linesOf text).filter fun line => !(Text.stripped line).isEmpty).map fun line =>
    String.ofList (line.toList.drop 3)

def modified : Work (List String) :=
  tryCatch
    (do
      let result ← start statusCommand
      return changedFiles (result.out.getD ""))
    (fun _ => return [])

def selfCheckScript : String := "_pti_semcheck.py"

/-- The changed files and the checked benchmarks; without the checker neither is asked for. -/
def selfChecks : Work (List String × List (Observation × Verdict)) := do
  match (← get).store.exists? (Path.ofText selfCheckScript) with
  | .ok true =>
    let changed ← modified
    let seen ← consult "semcheck" selfCheckScript fun d => observations (tableAt "semcheck" d)
    return (changed, seen.map fun o => (o, o.verdict (!changed.isEmpty)))
  | _ => return ([], [])

def record (history : String) (entries : List String) (now : Binary64) (round : Round) :
    Work Unit := do
  match elapsed entries now with
  | .ok elapsed =>
    let line := Json.write .line (Round.data { round with elapsed })
    write (Path.ofText historyFile) (history ++ line ++ "\n")
  | .error _ => return

end Parts

def summary (round : Round) (shares : Shares) : String :=
  let measured := shares.measured
  let low := shares.low
  let checked := round.verdicts.length
  let failing := round.failing
  let number := round.number
  let benchmarks := round.benchmarks
  let parts := [s!"round {number}: {benchmarks} benches",
      round.coverage.percent.fixed 1 ++ "% covered"] ++
    (if shares.percents.isEmpty then [] else [s!"{low}/{measured} below repo_time 45%"]) ++
    (if checked = 0 then [] else [s!"{failing}/{checked} not self-checking"]) ++
    ["measured in " ++ round.duration.fixed 1 ++ "s"]
  "[" ++ ", ".intercalate parts ++ "]"

/-- One round. The exit code is given only where the round breaks off. -/
def run (clock : Clock) : Work (Option Nat) := do
  let some coverage ← coverage? | return some 1
  sayAll coverage.table
  sayAll coverage.errorLines
  let shares ← consult "repotime" "_pti_repotime.py" Shares.ofData
  sayAll shares.lines
  let (changed, checks) ← selfChecks
  sayAll (modifiedLines changed)
  sayAll (checkLines checks)
  let store := (← get).store
  let history := (textOf? store historyFile).getD ""
  let entries := entryLines history
  let round : Round := {
    number := entries.length + 1
    time := clock.now
    elapsed := .ofInt 0
    coverage
    benchmarks := benchmarkCount store
    duration := (clock.stop.sub clock.start).roundTo 3
    shares := shares.percents
    low? := shares.low?
    verdicts := checks.map fun (o, v) => (o.name, v.name)
    failing := checks.countP fun (_, v) => !v.isGood }
  record history entries clock.now round
  sayAll ["", summary round shares]
  let counts := (lowCounts entries).toOption.getD []
  match reasonToStop? coverage.percent shares.low? counts with
  | some reason =>
    sayAll ["", s!">>> STOP: repo_time converged ({reason}). Finalize microbench.py now. <<<"]
  | none => pure ()
  return none

end RefactorAdvice.Rounds
