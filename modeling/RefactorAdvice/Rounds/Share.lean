import RefactorAdvice.Rounds.Coverage

/-!
The share of its time that each benchmark spends in the program itself.
-/

namespace RefactorAdvice.Rounds

structure Shares where
  percents : List (String × Binary64) := []
  elsewhere : List (String × Data) := []
deriving Inhabited

namespace Shares

def ofData (d : Data) : Shares × Option Failure :=
  match numbers (tableAt "repo_time_pct" d) with
  | .ok percents => ({ percents, elsewhere := tableAt "hot_ext" d }, none)
  | .error failure => ({}, some failure)

def leastShare : Binary64 := .ofInt 45

/-- A share below zero stands for a benchmark that failed. -/
def isMeasured (percent : Binary64) : Bool := Binary64.lessEq (.ofInt 0) percent

def isLow (percent : Binary64) : Bool := isMeasured percent && percent.less leastShare

def measured (s : Shares) : Nat := s.percents.countP fun (_, percent) => isMeasured percent

def low (s : Shares) : Nat := s.percents.countP fun (_, percent) => isLow percent

def low? (s : Shares) : Option Nat := if s.measured = 0 then none else some s.low

def elsewhereText (s : Shares) (name : String) : String :=
  let parts := ((Data.lookup name s.elsewhere).bind Data.items?).getD []
  let words := parts.filterMap fun part =>
    match part with
    | .list [percent, .text what] =>
      some (what ++ " " ++ (((number percent).toOption.getD (.ofInt 0)).fixed 0) ++ "%")
    | _ => none
  if words.isEmpty then "" else " (hot: " ++ " ".intercalate words ++ ")"

def line (s : Shares) (name : String) (percent : Binary64) : String :=
  let shown := if isMeasured percent then percent else .ofInt 0
  let mark := if isLow percent then "*" else " "
  let note := if !isMeasured percent then "  <error>"
    else if isLow percent then s.elsewhereText name
    else ""
  "  " ++ mark ++ " " ++ Text.left 32 name ++ " " ++ Text.right 5 (shown.fixed 1) ++ "%" ++ note

def lines (s : Shares) : List String :=
  if s.percents.isEmpty then []
  else
    let ordered := s.percents.mergeSort fun a b => !b.2.less a.2
    ["", "repo_time (target 50%; * = below 45%):"] ++
      ordered.map fun (name, percent) => s.line name percent

end Shares

end RefactorAdvice.Rounds
