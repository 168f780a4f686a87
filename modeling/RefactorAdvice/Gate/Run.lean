import RefactorAdvice.Gate.Step
import RefactorAdvice.Session
import RefactorAdvice.Settings.Load
import RefactorAdvice.Text.Lines

/-!
A run of the gate. Every step is made, also behind one that failed, and the names of the required
steps that failed are listed at the end.
-/

namespace RefactorAdvice.Gate

open Work

def bar : String := String.ofList (List.replicate 70 '=')

def reportPath : Path := .ofText "pylint-report.txt"

section Steps

def tail (count : Nat) (text : String) : List String :=
  let lines := Text.linesOf (Text.stripped text)
  (lines.drop (lines.length - count)).map ("  " ++ ·)

def opening (p : Places) (s : Step) : List String :=
  let report := if s.judge = .reported then ["REPORT: " ++ p.report] else []
  ["", bar, "STEP: " ++ s.name, "CMD:  " ++ " ".intercalate s.command] ++ report ++ [bar]

def complaint (p : Places) (s : Step) (r : ToolResult) : List String :=
  let label := if s.optional then "WARNING" else "FAILED"
  let headline := "[" ++ label ++ "] " ++ s.name
  let code := r.code
  match s.judge with
  | .code => ["", headline ++ s!" (exit code {code})"]
  | .reported =>
    let shown := tail 8 r.captured
    ["", headline ++ s!" (exit code {code})"] ++
      if shown.isEmpty then [] else "Last pylint output:" :: shown
  | .silence =>
    ["", headline, "Trailing whitespace found. Run:",
     "  " ++ " ".intercalate (whitespaceCommand p "--in-place"), "Diff tail:"] ++
      tail 12 r.captured

def verdict (p : Places) (s : Step) (r : ToolResult) : List String :=
  if s.succeeds r then ["", "[OK] " ++ s.name] else complaint p s r

def runStep (p : Places) (s : Step) : Work Bool := do
  sayAll (opening p s)
  let result ← start s.command
  if s.judge = .reported then write reportPath result.captured
  sayAll (verdict p s result)
  return s.passes result

def runSteps (p : Places) : List Step → Work (List String)
  | [] => return []
  | s :: rest => do
    let passed ← runStep p s
    let failed ← runSteps p rest
    return if passed then failed else s.name :: failed

end Steps

def conclude (failed : List String) : Work Nat := do
  if failed.isEmpty then
    sayAll ["", bar, "VERIFICATION PASSED", bar]
    return 0
  else
    sayAll (["", bar, "VERIFICATION FAILED"] ++ failed.map ("  - " ++ ·) ++ [bar])
    return 1

/-- How a run ends: with its verdict, or refused because it is in no checkout. -/
inductive Ending where
  | verdict (code : Nat)
  | refused (code : Nat)
deriving DecidableEq, Inhabited

def run : Work Ending := do
  let store := (← get).store
  match store.isFile Settings.projectFile with
  | .ok true =>
    let p := places store
    let failed ← runSteps p (pipeline p)
    return .verdict (← conclude failed)
  | _ =>
    let home := store.home
    modify fun w => { w with err := w.err ++ s!"ERROR: Expected pyproject.toml in {home}\n" }
    return .refused 2

end RefactorAdvice.Gate
