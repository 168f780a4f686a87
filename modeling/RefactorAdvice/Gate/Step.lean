import RefactorAdvice.Text.Blank
import RefactorAdvice.Workshop

/-!
The steps of the gate that a change has to pass, in their order. Each starts one program, and
what counts as passing differs from step to step.
-/

namespace RefactorAdvice.Gate

/-- How a step is judged. -/
inductive Judge where
  /-- By the exit code. -/
  | code
  /-- By the exit code; the output is kept in a report. -/
  | reported
  /-- By the output: blank output passes, whatever the exit code. -/
  | silence
deriving DecidableEq, Inhabited

structure Step where
  name : String
  command : List String
  /-- A step that may fail. -/
  optional : Bool := false
  judge : Judge := .code
deriving DecidableEq, Inhabited

namespace Step

def succeeds (s : Step) (r : ToolResult) : Bool :=
  match s.judge with
  | .code | .reported => r.code == 0
  | .silence => (Text.stripped r.captured).isEmpty

def passes (s : Step) (r : ToolResult) : Bool := s.succeeds r || s.optional

end Step

section Pipeline

def moduleCommand (words : List String) : List String := "python" :: "-m" :: words

structure Places where
  sources : String
  tests : String
  package : String
  report : String
  install : String

def places (store : Store) : Places :=
  { sources := store.fullPath ["src"]
    tests := store.fullPath ["tests"]
    package := store.fullPath ["src", "pyrefactor"]
    report := store.fullPath ["pylint-report.txt"]
    install := store.home ++ "[dev]" }

def installation (p : Places) : Step :=
  { name := "Editable install with dev dependencies"
    command := moduleCommand ["pip", "install", "-e", p.install] }

def whitespaceCommand (p : Places) (mode : String) : List String :=
  moduleCommand ["autopep8", mode, "--recursive", "--select=W291,W293", p.sources, p.tests]

def whitespace (p : Places) : Step :=
  { name := "Trailing whitespace check (autopep8)"
    command := whitespaceCommand p "--diff"
    judge := .silence }

def styleSteps (p : Places) : List Step :=
  [{ name := "Black formatting"
     command := moduleCommand ["black", "--check", p.sources, p.tests] },
   { name := "Import sorting (isort)"
     command := moduleCommand ["isort", "--check-only", p.sources, p.tests] },
   { name := "Mypy type checking", command := moduleCommand ["mypy", p.sources, p.tests] },
   { name := "Bandit security scan", command := moduleCommand ["bandit", "-r", p.package] }]

def lint (p : Places) : Step :=
  { name := "Pylint static analysis"
    command := moduleCommand ["pylint", p.package, "--output-format=text"]
    judge := .reported }

def closingSteps (p : Places) : List Step :=
  [{ name := "pip-audit dependency check", command := moduleCommand ["pip_audit"]
     optional := true },
   { name := "PyRefactor self-lint"
     command := moduleCommand ["pyrefactor", p.package, "--min-severity", "medium"] },
   { name := "Pytest with coverage", command := moduleCommand ["pytest"] }]

def plainSteps (p : Places) : List Step := installation p :: styleSteps p ++ closingSteps p

def pipeline (p : Places) : List Step :=
  installation p :: whitespace p :: styleSteps p ++ lint p :: closingSteps p

end Pipeline

end RefactorAdvice.Gate
