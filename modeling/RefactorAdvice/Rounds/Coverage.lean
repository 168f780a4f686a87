import RefactorAdvice.Number.Numeral
import RefactorAdvice.Rounds.Answer
import RefactorAdvice.Text.Blank

/-!
How much of the program a measurement ran: totals, and a table of the files with the least
covered ones first.
-/

namespace RefactorAdvice.Rounds

structure FileCoverage where
  name : String
  statements : Int
  missed : Int
  percent : Binary64
  /-- The lines that were not run. -/
  lines : List String

structure Coverage where
  percent : Binary64
  covered : Int
  statements : Int
  /-- What could not be run, each with its reason. -/
  errors : List (String × String)
  files : List FileCoverage

section Names

def resolved (done : List String) : List String → List String
  | [] => done.reverse
  | ".." :: rest => resolved done.tail rest
  | name :: rest => resolved (name :: done) rest

def apart : List String → List String → List String × List String
  | a :: as, b :: bs => if a == b then apart as bs else (a :: as, b :: bs)
  | as, bs => (as, bs)

/-- A full path as seen from the home folder; any other name as it is. -/
def shortName (file : String) : String :=
  let path := Path.ofText file
  if path.root == "" then file
  else
    let (up, down) := apart (Path.ofText home).parts (resolved [] path.parts)
    let names := up.map (fun _ => "..") ++ down
    if names.isEmpty then "." else "/".intercalate names

end Names

section Reading

def intAt (key : String) (d : Data) : Int := ((d.get? key).bind Data.int?).getD 0

def percentAt (key : String) (d : Data) : Except Failure Binary64 :=
  match d.get? key with
  | some value => number value
  | none => .ok (.ofInt 0)

def FileCoverage.ofData (name : String) (d : Data) : Except Failure FileCoverage := do
  let summary := Data.table (tableAt "summary" d)
  return {
    name := shortName name
    statements := intAt "num_statements" summary
    missed := intAt "missing_lines" summary
    percent := ← percentAt "percent_covered" summary
    lines := (itemsAt "missing_lines" d).map Data.plain }

def Coverage.ofData (d : Data) : Except Failure Coverage := do
  let d ← asTable d
  let totals := Data.table (tableAt "totals" d)
  let files ← (tableAt "files" d).mapM fun (name, file) => FileCoverage.ofData name file
  return {
    percent := ← percentAt "percent_covered" totals
    covered := intAt "covered_lines" totals
    statements := intAt "num_statements" totals
    errors := (tableAt "_pti_bench_errors" (.table (tableAt "meta" d))).map
      fun (name, reason) => (name, reason.plain)
    files }

end Reading

section Table

def longestShown : Nat := 60

def linesShown : Nat := 12

def ranksBefore (a b : FileCoverage) : Bool :=
  a.percent.less b.percent || (a.percent.same b.percent && decide (b.missed ≤ a.missed))

def row (width : Nat) (name statements missed percent : String) : String :=
  Text.left width (String.ofList (name.toList.take longestShown)) ++ "  " ++
    Text.right 5 statements ++ "  " ++ Text.right 4 missed ++ "  " ++ Text.right 5 percent

def linesText (lines : List String) : String :=
  ",".intercalate (lines.take linesShown) ++ if linesShown < lines.length then "…" else ""

def FileCoverage.row (width : Nat) (f : FileCoverage) : String :=
  Rounds.row width f.name (toString f.statements) (toString f.missed) (f.percent.fixed 0 ++ "%") ++
    "  " ++ linesText f.lines

def Coverage.table (c : Coverage) : List String :=
  let names := c.files.map fun f => f.name.length
  let width := min longestShown (names.foldl max 4)
  let rule := String.ofList (List.replicate (width + 42) '-')
  [row width "Name" "Stmts" "Miss" "Cover" ++ "  Missing", rule] ++
    (c.files.mergeSort ranksBefore).map (FileCoverage.row width) ++
    [rule, row width "TOTAL" (toString c.statements) (toString (c.statements - c.covered))
      (c.percent.fixed 0 ++ "%")]

def Coverage.errorLines (c : Coverage) : List String :=
  if c.errors.isEmpty then []
  else
    let count := c.errors.length
    ["", s!"{count} bench error(s):"] ++
      (c.errors.take 8).map fun (name, reason) => "  " ++ name ++ ": " ++ reason

end Table

end RefactorAdvice.Rounds
