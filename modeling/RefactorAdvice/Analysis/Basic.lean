import RefactorAdvice.Finding

/-!
What has been found: for each file its findings, warnings, lines and, if it could not be
analysed, the reason; for a run, its files and how many were left out.
-/

namespace RefactorAdvice

structure Analysis where
  path : String
  findings : List Finding := []
  warnings : List String := []
  parseError : Option String := none
  lineCount : Nat := 0
deriving DecidableEq

structure Survey where
  files : List Analysis := []
  excluded : Nat := 0
deriving DecidableEq

namespace Analysis

def bySeverity (a : Analysis) (s : Severity) : List Finding := a.findings.filter (·.severity == s)

def isSerious (a : Analysis) : Bool :=
  a.findings.any fun f => f.severity == .medium || f.severity == .high

def atLeast (a : Analysis) (s : Severity) : Analysis :=
  { a with findings := a.findings.filter fun f => decide (s ≤ f.severity) }

end Analysis

namespace Survey

def findings (s : Survey) : List Finding := s.files.flatMap (·.findings)

def bySeverity (s : Survey) (level : Severity) : List Finding :=
  s.findings.filter (·.severity == level)

def total (s : Survey) : Nat := s.findings.length

def filesWithFindings (s : Survey) : Nat := s.files.countP fun a => !a.findings.isEmpty

def atLeast (s : Survey) (level : Severity) : Survey :=
  { s with files := s.files.map (·.atLeast level) }

/-- The code a run ends with: one if something was found, or a file failed and that counts. -/
def exitCode (s : Survey) (failOnParseErrors : Bool) : Nat :=
  if s.files.any fun a => !a.findings.isEmpty then 1
  else if failOnParseErrors && s.files.any fun a => a.parseError.isSome then 1
  else 0

end Survey

end RefactorAdvice
