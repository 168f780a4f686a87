import RefactorAdvice.Rounds.Coverage

/-!
The rounds measured so far, one line of JSON each, and when they stop getting better.
-/

namespace RefactorAdvice.Rounds

structure Round where
  number : Nat
  time : Binary64
  /-- Seconds since the round before. -/
  elapsed : Binary64
  coverage : Coverage
  benchmarks : Nat
  /-- Seconds that the measurement of coverage took. -/
  duration : Binary64
  shares : List (String × Binary64)
  low? : Option Nat
  verdicts : List (String × String)
  failing : Nat

def Round.data (r : Round) : Data :=
  .table [
    ("round", .int r.number), ("ts", .float r.time), ("wall_since_prev_s", .float r.elapsed),
    ("coverage_pct", .float r.coverage.percent), ("covered_lines", .int r.coverage.covered),
    ("num_statements", .int r.coverage.statements), ("n_bench_fns", .int r.benchmarks),
    ("n_bench_errors", .int r.coverage.errors.length), ("cov_measure_s", .float r.duration),
    ("repo_time_pct", .table (r.shares.map fun (name, x) => (name, .float x))),
    ("n_below_repo_time", match r.low? with
      | some n => .int n
      | none => .none),
    ("semcheck", .table (r.verdicts.map fun (name, v) => (name, .text v))),
    ("n_not_self_checking", .int r.failing)]

def entryLines (text : String) : List String :=
  (text.splitOn "\n").filter fun line => !(Text.stripped line).isEmpty

def elapsed (entries : List String) (now : Binary64) : Except Failure Binary64 :=
  match entries.getLast? with
  | none => .ok (.ofInt 0)
  | some line => do
    let last ← asTable (← document line)
    let time ← match last.get? "ts" with
      | some (.text _) => .error (.raised .type "no time")
      | some d => number d
      | none => .ok now
    return (now.sub time).roundTo 2

def lowCounts : List String → Except Failure (List Int)
  | [] => .ok []
  | line :: rest => do
    let entry ← asTable (← document line)
    let counts ← lowCounts rest
    return ((entry.get? "n_below_repo_time").bind Data.int?).toList ++ counts

def leastOf : List Int → Option Int
  | [] => none
  | n :: rest => some (rest.foldl min n)

def patience : Nat := 3

/-- The best count, if none of the last rounds is better than all before them. -/
def stalled? (counts : List Int) : Option Int := do
  let early := counts.take (counts.length - patience)
  let best ← leastOf early
  let late ← leastOf (counts.drop early.length)
  if best ≤ late then leastOf counts else none

def enoughCoverage : Binary64 := .ofInt 60

def reasonToStop? (percent : Binary64) (low? : Option Nat) (counts : List Int) : Option String := do
  let low ← low?
  if percent.less enoughCoverage then none
  else if low = 0 then some "0 below"
  else
    let best ← stalled? (counts ++ [(low : Int)])
    some s!"no improvement in {patience} rounds; best {best} below"

end RefactorAdvice.Rounds
