import RefactorAdvice.Cli.Arguments
import RefactorAdvice.Text.Blank

/-!
How the command is called: the short form, and the help with a line or more for every flag.
-/

namespace RefactorAdvice.Cli

section Usage

def lineWidth : Nat := 78

/-- Parts filled into rows; `used` is the length of the row so far with the blank behind it, and
a row that begins anew has used `margin`. -/
def rows (margin : Nat) : Nat → List String → List String → List (List String)
  | _, row, [] => if row.isEmpty then [] else [row.reverse]
  | used, row, part :: rest =>
    if lineWidth < used + part.length && !row.isEmpty then
      row.reverse :: rows margin (margin + part.length + 1) [part] rest
    else rows margin (used + part.length + 1) (part :: row) rest

def Flag.bracketed (f : Flag) : String :=
  let name := f.names.headD f.long
  match f.valueName? with
  | some value => "[" ++ name ++ " " ++ value ++ "]"
  | none => "[" ++ name ++ "]"

def usage (program : String) : String :=
  let opening := "usage: "
  let margin := opening.length + program.length + 1
  let flags := rows margin opening.length [] (program :: Flag.all.map Flag.bracketed)
  let lines := (flags ++ [["[paths ...]"]]).map (" ".intercalate ·)
  opening ++ ("\n" ++ Text.blanks margin).intercalate lines ++ "\n"

end Usage

section Help

def Flag.explanation : Flag → List String
  | .help => ["show this help message and exit"]
  | .config =>
    ["Path to configuration file; when omitted, auto-",
     "discover pyproject.toml ([tool.pyrefactor]), then",
     "pyrefactor.ini, then defaults"]
  | .grouping => ["Group text output by file or severity (default: file)"]
  | .format => ["Output format: text (default) or json"]
  | .leastSeverity =>
    ["Minimum severity level to report and to use for exit", "codes (default: info)"]
  | .jobs => ["Number of parallel jobs (default: 4, minimum 1)"]
  | .verbose => ["Enable verbose logging"]
  | .failOnParseErrors =>
    ["Exit with code 1 when any file has a syntax or parse", "error"]
  | .version => ["Show version and exit"]

def Flag.invocation (f : Flag) : String :=
  let names := match f.valueName? with
    | some value => f.names.map (· ++ " " ++ value)
    | none => f.names
  ", ".intercalate names

def helpColumn : Nat := 24

def entry (term : String) (explanation : List String) : List String :=
  let head := "  " ++ term
  let lines := explanation.map (Text.blanks helpColumn ++ ·)
  if head.length + 2 ≤ helpColumn then
    match explanation with
    | [] => [head]
    | first :: _ => (head ++ Text.blanks (helpColumn - head.length) ++ first) :: lines.tail
  else head :: lines

def closing : List String :=
  ["Examples:",
   "  pyrefactor myfile.py              Analyze a single file",
   "  pyrefactor src/                   Analyze all Python files in directory",
   "  pyrefactor file1.py file2.py      Analyze multiple files",
   "  pyrefactor --config custom.toml . Analyze with custom config",
   "",
   "Exit Codes:",
   "  0 - No issues at or above --min-severity " ++
     "(or parse errors without --fail-on-parse-errors)",
   "  1 - Issues at or above --min-severity found " ++
     "(or parse errors with --fail-on-parse-errors)",
   "  2 - Configuration, path, or orchestration error (invalid paths, no Python files)",
   "        "]

def help (program : String) : String :=
  let lines :=
    ["", "PyRefactor - A Python refactoring and optimization linter", ""] ++
    ["positional arguments:"] ++
    entry "paths" ["Python files or directories to analyze"] ++ ["", "options:"] ++
    Flag.all.flatMap (fun f => entry f.invocation f.explanation) ++ "" :: closing
  usage program ++ String.join (lines.map (· ++ "\n"))

end Help

end RefactorAdvice.Cli
