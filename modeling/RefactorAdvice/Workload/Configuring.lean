import RefactorAdvice.Settings.Load
import RefactorAdvice.Workload.Basic

/-!
Workloads on settings: reading them from files of every kind, and checking them.
-/

namespace RefactorAdvice.Workload

section Loading

def tomlText (branches : Nat) : String :=
  s!"[tool.pyrefactor.complexity]\nmax_branches = {branches}\n" ++
    "[tool.pyrefactor.performance]\nenabled = false\n[tool.pyrefactor.loops]\nenabled = true\n"

def iniText : String :=
  "[complexity]\nmax_branches = 10\n[general]\nexclude_patterns = a, b\n"

def refusedFiles : List (String × String) :=
  [("broken.toml", "= 1"), ("range.toml", "[tool.pyrefactor.complexity]\nmax_branches = 0\n"),
   ("broken.ini", "[complexity"), ("range.ini", "[complexity]\nmax_branches = 0\n")]

def loadStore (loads : Nat) : Store :=
  let files := (List.range loads).map (fun n => (s!"load{n}.toml", tomlText (10 + n))) ++
    [("settings.ini", iniText)] ++ refusedFiles
  files.foldl (fun store (name, text) => store.insert [name] (.file text.toUTF8)) {}

def loaded (x : Settings.Loading Settings) : Except Failure Settings :=
  x.outcome.1.mapError Settings.Refusal.failure

def refusalNumber (store : Store) (file : String × String) (index : Nat) : Int :=
  match loaded (Settings.load store (some (.ofText file.1))) with
  | .ok s => s.complexity.maxBranches
  | .error _ => -(index + 1 : Int)

def listData : Option (List String) → Data
  | some items => .list (items.map .text)
  | none => .none

def coerced : Except Failure (List Data) := do
  let list (d : Data) : Except Failure Data :=
    ((Settings.asList d).mapError Settings.Refusal.failure).map listData
  let int (d : Data) : Except Failure Data :=
    ((Settings.asInt d).mapError Settings.Refusal.failure).map fun n => (n.map .int).getD .none
  return [
    ← list (.text "a, b"), ← list (.list [.text "a", .text "b"]), ← list (.int 5),
    ← int (.text "x"), ← list (.list [.text "x"]), ← int (.list []),
    ((Settings.asBool? (.text "off")).map .bool).getD .none,
    .bool (Settings.isSetIn [])]

def loading : Workload where
  name := "bench_config_loading"
  size := some ("n_loads", 30)
  run := fun loads => do
    let store := loadStore loads.toNat
    let names := (List.range loads.toNat).map fun n => s!"load{n}.toml"
    let parts ← names.mapM fun name => do
      let s ← loaded (Settings.ofFile store (.ofText name))
      return [Data.int s.complexity.maxBranches, .bool s.performance.enabled,
        .bool s.loops.enabled]
    let first ← match names.head? with
      | some name => loaded (Settings.load store (some (.ofText name)))
      | none => .error .noOperand
    let sections ← loaded (Settings.load store (some (.ofText "settings.ini")))
    let found ← loaded (Settings.load store none)
    let usual := [first, sections, found].map fun s => Data.int s.complexity.maxBranches
    let refused := refusedFiles.mapIdx fun index file => Data.int (refusalNumber store file index)
    return .list (parts.flatten ++ usual ++ refused ++ (← coerced) ++
      [.list (sections.excludePatterns.map .text)])

end Loading

section Checking

def unfitSettings : List Settings :=
  [{ complexity := { maxBranches := 0 } }, { complexity := { maxArguments := -1 } },
   { performance := { minConcatenations := -1 } }, { duplication := { minDuplicateLines := 0 } },
   { duplication := { similarityThreshold := .ofInt 2 } },
   { booleanLogic := { maxBooleanOperators := 0 } }]

def checking : Workload where
  name := "bench_config_validate"
  size := some ("n_configs", 400)
  run := fun count => do
    let fit := (List.range count.toNat).map fun n : Nat =>
      ({ complexity := { maxBranches := 10 + n } } : Settings)
    return .ofNats [fit.countP fun s => s.fault?.isNone,
      unfitSettings.countP fun s => s.fault?.isSome]

end Checking

end RefactorAdvice.Workload
