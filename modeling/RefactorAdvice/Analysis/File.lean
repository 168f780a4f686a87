import RefactorAdvice.Analysis.Basic
import RefactorAdvice.Code.Grammar.Stmt
import RefactorAdvice.Log
import RefactorAdvice.Rules.Examiner
import RefactorAdvice.Text.Lines

/-!
The analysis of one file. Each examiner is heard in turn; one that fails leaves a warning in
place of its findings and does not keep the others from being heard. A module that nests deeply
is examined as any other, since no stack runs out here. Every text outside the grammar has the
same reason, without the place at which reading stopped.
-/

namespace RefactorAdvice.Analysis

open Code Rules

def hear (path : String) (examiner : Examiner) (sheet : Sheet) (module : Module) :
    Verdict × Log :=
  match examiner.examine sheet module with
  | .ok verdict => (verdict, [])
  | .error failure =>
    let name := examiner.name
    let text := failure.message
    let record : Record :=
      if failure.isForeseen then
        { level := .error, message := s!"Error running {name} on {path}: {text}" }
      else
        { level := .error
          message := s!"Unexpected error running {name} on {path}"
          traced := true }
    ({ findings := [], warnings := [s!"Detector {name} failed: {text}"] }, [record])

def failed (analysis : Analysis) (failure : Failure) : Analysis × Log :=
  let path := analysis.path
  let text := failure.message
  if failure.isForeseenInFile then
    ({ analysis with parseError := some s!"Error analyzing file: {text}" },
      [{ level := .error, message := s!"Error analyzing {path}: {text}" }])
  else
    ({ analysis with parseError := some "Error analyzing file: unexpected error" },
      [{ level := .error, message := s!"Unexpected error analyzing {path}", traced := true }])

/-- The analysis of a file's text; line breaks in it are line feeds. -/
def ofText (names : CharNames) (path : String) (examiners : Except Failure (List Examiner))
    (text : List Char) : Analysis × Log :=
  let lines := (Text.lines text).map String.ofList
  let blank : Analysis := { path, lineCount := lines.length }
  match Code.parse names text with
  | none => ({ blank with parseError := some "Syntax error: invalid syntax" }, [])
  | some module =>
    match examiners with
    | .error failure => failed blank failure
    | .ok examiners =>
      let sheet : Sheet := { file := path, listing := .ofList lines }
      let heard := examiners.map fun examiner => hear path examiner sheet module
      ({ blank with
          findings := heard.flatMap (·.1.findings)
          warnings := heard.flatMap (·.1.warnings) },
        heard.flatMap (·.2))

end RefactorAdvice.Analysis
