import RefactorAdvice.Report.Json
import RefactorAdvice.Report.Sink
import RefactorAdvice.Version.Basic
import RefactorAdvice.Workload.Basic

/-!
Workloads on findings: counting, filtering and reporting surveys of a chosen size.
-/

namespace RefactorAdvice.Workload

/-- The finding on a line; severities come in turn, and so do ten rules. -/
def findingOn (file : String) (index : Nat) : Except Failure Finding :=
  Finding.ofDraft {
    file, line := index + 1, column := 0
    severity := (Severity.all.drop (index % 4)).headD .info
    rule := s!"X{index % 10}", message := s!"message {index}"
    suggestion := none, snippet := none, endLine := none }

def fullFiles (files each : Nat) : Except Failure (List Analysis) :=
  (List.range files).mapM fun n => do
    let path := s!"file{n}.py"
    let findings ← (List.range each).mapM (findingOn path)
    return { path, findings, lineCount := 1 }

section Models

def badDrafts : List Finding.Draft :=
  let draft : Finding.Draft :=
    { file := "f.py", line := 1, column := 0, severity := .low, rule := "X0", message := "m"
      suggestion := none, snippet := none, endLine := none }
  [{ draft with line := 0 }, { draft with column := -1 },
   { draft with line := 2, endLine := some 1 }]

def refusalMark (draft : Finding.Draft) : Data :=
  match Finding.ofDraft draft with
  | .ok _ => .text "ok"
  | .error _ => .text "err"

def surveys : Workload where
  name := "bench_models"
  size := some ("n_issues", 500)
  run := fun issues => do
    let files := 10
    let survey : Survey := { files := ← fullFiles files (max 1 (issues.toNat / files)) }
    let grave := survey.atLeast .medium
    let counts := [survey.total, survey.files.length, survey.filesWithFindings] ++
      Severity.all.map (fun level => (survey.bySeverity level).length) ++ [grave.total]
    let perFile := survey.files.flatMap fun a =>
      [Data.bool a.isSerious, .int (a.bySeverity .high).length]
    let ordered := Severity.all.mergeSort fun a b => decide (a ≤ b)
    return .list (
      counts.map (fun n : Nat => .int n) ++ perFile ++
      [.list (ordered.map fun level => .text level.name),
       .bool (decide (Severity.low < Severity.high)), .text "NotImplemented"] ++
      badDrafts.map refusalMark)

end Models

section Reports

def quietFiles : List Analysis :=
  [{ path := "clean.py", lineCount := 1 },
   { path := "warned.py", warnings := ["w"], lineCount := 1 },
   { path := "broken.py", parseError := some "Syntax error: invalid syntax" }]

def reports : Workload where
  name := "bench_reporters"
  size := some ("n_issues", 200)
  run := fun issues => do
    let issues := issues.toNat
    let files := max 2 (issues / 20)
    let survey : Survey := { files := (← fullFiles files (max 1 (issues / files))) ++ quietFiles }
    let data := Report.surveyData Version.own survey
    let written := [Report.text .rich .byFile survey, Report.text .rich .bySeverity survey,
      Report.json Version.own survey]
    let paths := survey.files.filter fun a => written.any fun text =>
      Text.contains a.path.toList text.toList
    let lines := (survey.findings.map (·.line)).foldr (· + ·) 0 +
      (survey.files.map (·.lineCount)).foldr (· + ·) 0
    let listed := (((data.get? "files").bind Data.items?).getD []).length
    return .ofNats [lines, survey.total, paths.length, listed, survey.filesWithFindings,
      (Report.occurrences (survey.findings.map (·.rule))).length]

end Reports

end RefactorAdvice.Workload
