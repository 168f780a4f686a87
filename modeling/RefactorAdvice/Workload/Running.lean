import RefactorAdvice.Cli.Run
import RefactorAdvice.Workload.Configuring
import RefactorAdvice.Workload.Findings
import RefactorAdvice.Workload.Source

/-!
Workloads on whole runs: files and folders, the command, and the version. With them the
workloads are complete, and are found by their names.
-/

namespace RefactorAdvice.Workload

def storeOf (files : List (String × String)) : Store :=
  files.foldl
    (fun store (name, text) => store.insert (Path.ofText name).parts (.file text.toUTF8)) {}

section Paths

/-- Half of the files are left out by a pattern; one of the others has an error. -/
def pathFiles (count : Nat) : List (String × String) :=
  (List.range count).map (fun n =>
    let name := if n % 2 = 0 then s!"pkg/mod{n}.py" else s!"pkg/skip{n}.py"
    (name, "def f(x):\n    return x == None\n")) ++
  [("pkg/plain.py", "x = 1\n"), ("pkg/empty.py", ""), ("pkg/broken.py", "def (")]

def surveyOf (x : Logging Survey) : Except Failure Survey := x.outcome.1

def paths : Workload where
  name := "bench_analyzer_paths"
  size := some ("n_files", 12)
  run := fun count => do
    let store := storeOf (pathFiles count.toNat)
    let plan := Plan.usual Code.noNames store { excludePatterns := ["skip*"] }
    let folder := Path.ofText "pkg"
    let serial ← surveyOf (plan.runFolder folder 1)
    let parallel ← surveyOf (plan.runFolder folder 4)
    let given ← surveyOf (plan.run [folder] 4)
    let missing ← surveyOf (plan.runFolder (.ofText "missing") 1)
    let single ← surveyOf (plan.run [.ofText "pkg/plain.py"] 1)
    let sound := given.files.countP fun a => a.parseError.isNone
    return .ofNats [
      serial.files.length, serial.excluded, parallel.files.length, given.files.length,
      given.excluded, missing.files.length, single.files.length, sound,
      serial.files.length + sound, serial.excluded + given.excluded]

end Paths

section Commands

def commandFiles (count : Nat) : List (String × String) :=
  (List.range count).map (fun n => (s!"pkg/mod{n}.py", "def f(x):\n    return x == None\n")) ++
  [("clean.py", "x = 1\n"), ("broken.py", "def ("), ("notes/read.txt", "x"),
   ("broken.toml", "= 1"),
   ("all.toml", "[tool.pyrefactor]\nexclude_patterns = [\"*.py\"]\n")]

def calls : List (List String) :=
  [["--version"], [], ["pkg"], ["pkg", "--format", "json"], ["clean.py"],
   ["broken.py", "--fail-on-parse-errors"], ["missing"], ["-c", "broken.toml", "pkg"], ["notes"],
   ["-c", "all.toml", "pkg"]]

def commands : Workload where
  name := "bench_cli_main"
  size := some ("n_files", 3)
  run := fun count => do
    let host := Cli.Host.ofStore Code.noNames (storeOf (commandFiles count.toNat))
    let codes ← calls.mapM fun words => (Cli.session "pyrefactor" host words).ending
    return .ofNats codes

end Commands

section Versions

def versions : Workload where
  name := "bench_version"
  size := none
  run := fun _ => do
    let fresh : Version.Surroundings := {}
    let ask (s : Version.Surroundings) : Except Failure (String × Version.Surroundings) :=
      s.version.mapError Settings.Refusal.failure
    let (first, asked) ← ask fresh
    let (second, _) ← ask asked
    let stated := [("project", Data.table [("version", .text "9.9.9")])]
    let reads := (List.replicate 400 stated).countP fun table => (Version.ofTable table).isSome
    return .list [.text first, .text second, .text asked.knownVersion, .int reads,
      .text fresh.knownVersion, .text ((Version.ofTable stated).getD Version.unknown),
      .text Settings.projectFile.text]

end Versions

def all : List Workload :=
  [paths, commands, loading, checking, families, measures, surveys, reports, versions]

def ofName? (name : String) : Option Workload := all.find? (·.name == name)

end RefactorAdvice.Workload
