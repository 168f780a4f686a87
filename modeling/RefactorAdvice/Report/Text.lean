import RefactorAdvice.Analysis.Basic

/-!
The report of a survey as text: its files one by one or its findings by severity, and a summary.
A report is a list of items first; each item is then put into words, with colours.
-/

namespace RefactorAdvice.Report

section Colours

inductive Colour where
  | red | green | yellow | blue | cyan | grey
deriving DecidableEq, Inhabited

def Colour.code : Colour → String
  | .red => "31"
  | .green => "32"
  | .yellow => "33"
  | .blue => "34"
  | .cyan => "36"
  | .grey => "90"

def painted (colour : Colour) (text : String) : String :=
  "\x1b[" ++ colour.code ++ "m" ++ text ++ "\x1b[0m"

def colourOf : Severity → Colour
  | .high => .red
  | .medium => .yellow
  | .low => .blue
  | .info => .cyan

end Colours

section Icons

def richIcon : Severity → String
  | .high => "✗"
  | .medium => "⚠"
  | .low => "ℹ"
  | .info => "→"

def plainIcon : Severity → String
  | .high => "X"
  | .medium => "!"
  | .low => "i"
  | .info => ">"

end Icons

def gravestFirst : List Severity := [.high, .medium, .low, .info]

structure Totals where
  files : Nat
  filesWithFindings : Nat
  parseErrors : Nat
  warnings : Nat
  findings : Nat
  /-- Severities that occur, with the number of their findings. -/
  bySeverity : List (Severity × Nat)
  serious : Bool
deriving DecidableEq, Inhabited

def totals (s : Survey) : Totals :=
  { files := s.files.length
    filesWithFindings := s.filesWithFindings
    parseErrors := s.files.countP fun a => a.parseError.isSome
    warnings := (s.files.map fun a => a.warnings.length).foldr (· + ·) 0
    findings := s.total
    bySeverity := gravestFirst.filterMap fun level =>
      let count := (s.bySeverity level).length
      if count = 0 then none else some (level, count)
    serious := s.findings.any fun f => f.severity == .high || f.severity == .medium }

/-- A part of a report. -/
inductive Item where
  | parseError (path reason : String)
  | file (path : String)
  | warning (text : String)
  | severity (level : Severity)
  /-- A finding, with its file where that does not stand above it. -/
  | finding (found : Finding) (withFile : Bool)
  | summary (counted : Totals)
deriving DecidableEq

section Grouping

/-- A reason is one only if it has any text. -/
def reason? (a : Analysis) : Option String := a.parseError.filter (· != "")

def byLine (findings : List Finding) : List Finding :=
  findings.mergeSort fun a b => decide (a.line ≤ b.line)

def byFileAndLine (findings : List Finding) : List Finding :=
  findings.mergeSort fun a b => decide (a.file < b.file ∨ (a.file = b.file ∧ a.line ≤ b.line))

def fileItems (a : Analysis) : List Item :=
  match reason? a with
  | some reason => [.parseError a.path reason]
  | none =>
    if a.findings.isEmpty && a.warnings.isEmpty then []
    else
      .file a.path :: a.warnings.map .warning ++ (byLine a.findings).map (.finding · false)

def filesItems (s : Survey) : List Item := s.files.flatMap fileItems

def severityItems (s : Survey) (level : Severity) : List Item :=
  let findings := s.bySeverity level
  if findings.isEmpty then []
  else .severity level :: (byFileAndLine findings).map (.finding · true)

def severitiesItems (s : Survey) : List Item := gravestFirst.flatMap (severityItems s)

inductive Grouping where
  | byFile | bySeverity
deriving DecidableEq, Inhabited

def items (grouping : Grouping) (s : Survey) : List Item :=
  (match grouping with
    | .byFile => filesItems s
    | .bySeverity => severitiesItems s) ++ [.summary (totals s)]

end Grouping

section Words

def location (f : Finding) (withFile : Bool) : String :=
  let line := toString f.line
  let column := toString f.column
  let place := match f.endLine with
    | some last => if last = f.line then line ++ ":" ++ column
      else line ++ ":" ++ toString last ++ ":" ++ column
    | none => line ++ ":" ++ column
  if withFile then f.file ++ ":" ++ place else place

def findingLines (icon : Severity → String) (f : Finding) (withFile : Bool) : List String :=
  let head := icon f.severity ++ " [" ++ f.rule ++ "] " ++ location f withFile
  let more (text : Option String) (dress : String → String) : List String :=
    match text with
    | some text => if text == "" then [] else [dress text]
    | none => []
  ["  " ++ painted (colourOf f.severity) head, "    " ++ f.message] ++
    more f.suggestion (fun text => "    " ++ painted .green ("→ " ++ text)) ++
    more f.snippet (fun text => "    " ++ painted .grey text)

def rule : String := String.ofList (List.replicate 70 '=')

def upperName (level : Severity) : String := level.name.map Char.toUpper

def totalsLines (t : Totals) : List String :=
  ["\n" ++ painted .yellow rule, painted .yellow "Summary", painted .yellow rule,
   s!"\nFiles analyzed: {t.files}", s!"Files with issues: {t.filesWithFindings}"] ++
  (if t.parseErrors = 0 then [] else [s!"Files with parse errors: {t.parseErrors}"]) ++
  (if t.warnings = 0 then [] else [s!"Analysis warnings: {t.warnings}"]) ++
  [s!"Total issues: {t.findings}"] ++
  (if t.findings = 0 then []
    else "\nIssues by severity:" :: t.bySeverity.map fun (level, count) =>
      "  " ++ painted (colourOf level) (upperName level ++ ": " ++ toString count)) ++
  (if t.serious then ["\n" ++ painted .red "⚠ High or medium severity issues found"] else [])

def Item.messages (icon : Severity → String) : Item → List String
  | .parseError path reason => ["\n" ++ painted .red ("✗ " ++ path), "  Parse error: " ++ reason]
  | .file path => ["\n" ++ painted .cyan path]
  | .warning text => ["  " ++ painted .yellow ("⚠ Warning: " ++ text)]
  | .severity level => ["\n" ++ painted (colourOf level) (upperName level ++ " Severity Issues")]
  | .finding found withFile => findingLines icon found withFile
  | .summary counted => totalsLines counted

def messages (icon : Severity → String) (grouping : Grouping) (s : Survey) : List String :=
  (items grouping s).flatMap (Item.messages icon)

end Words

end RefactorAdvice.Report
