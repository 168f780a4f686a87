import RefactorAdvice.Analysis.Basic
import RefactorAdvice.Json.Writer

/-!
The report of a survey as JSON: a summary with counts by severity and by rule, then the files
with all that was found in them.
-/

namespace RefactorAdvice.Report

section Counting

def countOne (counts : List (String × Nat)) (name : String) : List (String × Nat) :=
  match counts with
  | [] => [(name, 1)]
  | (other, n) :: rest =>
    if other == name then (other, n + 1) :: rest else (other, n) :: countOne rest name

def occurrences (names : List String) : List (String × Nat) :=
  (names.foldl countOne []).mergeSort fun a b => decide (a.1 ≤ b.1)

def countTable (names : List String) : Data :=
  .table ((occurrences names).map fun (name, n) => (name, .int n))

end Counting

/-- A field that is left out if it has no value. -/
def optional (name : String) (value : Option Data) : List (String × Data) :=
  (value.map fun d => (name, d)).toList

def findingData (f : Finding) : Data :=
  .table (
    [("line", .int f.line), ("column", .int f.column), ("severity", .text f.severity.name),
     ("rule_id", .text f.rule), ("message", .text f.message)] ++
    optional "suggestion" (f.suggestion.map .text) ++
    optional "code_snippet" (f.snippet.map .text) ++
    optional "end_line" (f.endLine.map fun n => .int n))

def analysisData (a : Analysis) : Data :=
  .table [
    ("path", .text a.path),
    ("lines_of_code", .int a.lineCount),
    ("issues", .list (a.findings.map findingData)),
    ("warnings", .list (a.warnings.map .text)),
    ("parse_error", (a.parseError.map Data.text).getD .none)]

def summaryData (s : Survey) : Data :=
  .table [
    ("total_issues", .int s.total),
    ("files_analyzed", .int s.files.length),
    ("files_with_issues", .int s.filesWithFindings),
    ("by_severity", countTable (s.findings.map (·.severity.name))),
    ("by_rule", countTable (s.findings.map (·.rule)))]

def surveyData (version : String) (s : Survey) : Data :=
  .table [
    ("version", .text version),
    ("summary", summaryData s),
    ("files", .list (s.files.map analysisData)),
    ("excluded_file_count", .int s.excluded)]

def json (version : String) (s : Survey) : String :=
  Json.write (.block 0) (surveyData version s) ++ "\n"

end RefactorAdvice.Report
