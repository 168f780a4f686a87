import RefactorAdvice.Rounds.Coverage

/-!
Whether a benchmark checks itself: it returns something, the same thing on every run, made by
the program and not handed in, different for different parameters, and takes long enough.
-/

namespace RefactorAdvice.Rounds

structure Observation where
  name : String
  /-- The kind of value it returned. -/
  returned : String
  /-- Prints of the values of repeated runs. -/
  prints : List String
  /-- Prints by parameter. -/
  byParameter : List String
  /-- Prints of the parameters themselves. -/
  parameters : List String
  /-- Milliseconds in the program, by parameter. -/
  times : List Binary64
  /-- Shares of the time in the program, by parameter. -/
  shares : List Binary64

namespace Observation

def ofData (name : String) (d : Data) : Except Failure Observation := do
  let times ← numbers (tableAt "repo_tt_ms" d)
  let shares ← numbers (tableAt "repo_frac" d)
  let returned := ((d.get? "ret_type").bind Data.text?).getD ""
  return {
    name
    returned := if returned == "" then "?" else returned
    prints := (itemsAt "fp_stable" d).map Data.plain
    byParameter := (tableAt "fp_by_param" d).map fun (_, print) => print.plain
    parameters := (itemsAt "param_fps" d).map Data.plain
    times := times.map (·.2)
    shares := shares.map (·.2) }

def median (xs : List Binary64) : Binary64 :=
  let ordered := xs.mergeSort fun a b => !b.less a
  let middle := ordered.drop ((ordered.length - 1) / 2)
  match ordered.length % 2, middle with
  | 1, x :: _ => x
  | 0, x :: y :: _ => (x.add y).scale 1 2
  | _, _ => .ofInt 0

def least (xs : List Binary64) : Binary64 :=
  match xs with
  | [] => .ofInt 0
  | x :: rest => rest.foldl (fun a b => if b.less a then b else a) x

def time (o : Observation) : Binary64 := median o.times

def share (o : Observation) : Binary64 := least o.shares

end Observation

inductive Verdict where
  | ok | unparameterised | failed | returnsNothing | unstable | returnsInput | lowShare | tooFast
  | invariant | programModified
deriving DecidableEq, Inhabited

namespace Verdict

def name : Verdict → String
  | .ok => "ok"
  | .unparameterised => "ok-unparam"
  | .failed => "error"
  | .returnsNothing => "returns-none"
  | .unstable => "unstable"
  | .returnsInput => "returns-input"
  | .lowShare => "low-repo-time"
  | .tooFast => "too-fast"
  | .invariant => "param-invariant"
  | .programModified => "repo-modified"

def isGood : Verdict → Bool
  | .ok | .unparameterised => true
  | _ => false

end Verdict

def allSame (items : List String) : Bool :=
  match items with
  | [] => false
  | x :: rest => rest.all (· == x)

/-- The first reason for which a benchmark does not check itself. -/
def Observation.verdict (o : Observation) (modified : Bool) : Verdict :=
  if modified then .programModified
  else if o.returned == "?" || o.returned.startsWith "<" then .failed
  else if o.returned == "NoneType" then .returnsNothing
  else if !allSame o.prints then .unstable
  else if o.prints.any o.parameters.contains then .returnsInput
  else if !o.shares.isEmpty && o.share.less (.ofRatio false 1 2) then .lowShare
  else if !o.times.isEmpty && o.time.less (.ofInt 1) then .tooFast
  else if o.byParameter.length < 2 then .unparameterised
  else if allSame o.byParameter then .invariant
  else .ok

def observations : List (String × Data) → List Observation × Option Failure
  | [] => ([], none)
  | (name, .table entries) :: rest =>
    match Observation.ofData name (.table entries) with
    | .error failure => ([], some failure)
    | .ok o =>
      let (others, failure) := observations rest
      (o :: others, failure)
  | _ :: rest => observations rest

section Lines

def advice : List String :=
  ["returns-none: run() has no return — collect and return the call results",
   "unstable: seed RNG in setup; avoid time/uuid/id in the return",
   "returns-input: return repo output, not the parameter value",
   "low-repo-time: <50% of run() time is in repo code — move glue to setup",
   "param-invariant: return something derived from run()'s work, not setup",
   "repo-modified: revert edits to repo files (git checkout -- <path>)"]

def checkLine (o : Observation) (v : Verdict) : String :=
  let mark := if v.isGood then " " else "*"
  "  " ++ mark ++ " " ++ Text.left 32 o.name ++ " " ++ Text.left 16 v.name ++ " (" ++ o.returned ++
    ", repo " ++ (o.share.scale 100 1).fixed 0 ++ "%) " ++ o.time.fixed 1 ++ "ms"

def checkLines (checks : List (Observation × Verdict)) : List String :=
  if checks.isEmpty then []
  else
    let (good, bad) := checks.partition fun (_, v) => v.isGood
    ["", "self-check (* = fix needed):"] ++ advice.map ("  " ++ ·) ++
      (bad ++ good).map fun (o, v) => checkLine o v

def modifiedLines (files : List String) : List String :=
  if files.isEmpty then []
  else
    let count := files.length
    ["", s!"** repo modified ({count} file(s)) — revert these; " ++
      "only microbench.py is yours to edit:"] ++
      (files.take 10).map ("   " ++ ·)

end Lines

end RefactorAdvice.Rounds
