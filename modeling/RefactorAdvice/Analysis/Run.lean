import RefactorAdvice.Analysis.File
import RefactorAdvice.Files.Glob
import RefactorAdvice.Files.Store

/-!
Runs over files and folders: which files are analysed, and their analyses, one after the other
or several at a time. The result does not depend on the order in which those finish.
-/

namespace RefactorAdvice

open Analysis Rules

structure Plan where
  names : Code.CharNames
  store : Store
  settings : Settings
  /-- The examiners of every file, or the failure to set them up. -/
  examiners : Except Failure (List Examiner)
  /-- Files whose analysis fails as a whole. -/
  broken : List (String × Failure) := []

def Plan.usual (names : Code.CharNames) (store : Store) (settings : Settings) : Plan :=
  { names, store, settings, examiners := .ok (Rules.examiners settings) }

namespace Plan

section Reading

def largestFile : Nat := 10 * 1024 * 1024

def source (content : ByteArray) : Except String (List Char) :=
  if largestFile < content.size then
    .error s!"File exceeds maximum size of {largestFile} bytes ({content.size} bytes)"
  else
    match Text.decodeUtf8 content with
    | .ok text => .ok (Text.unifyBreaks text.toList)
    | .error _ => .error "File is not valid UTF-8 text"

def read (plan : Plan) (path : Path) : Analysis × Log :=
  let name := path.text
  let blank : Analysis := { path := name }
  match plan.store.read path with
  | .error .zeroInPath =>
    failed blank (.raised .value (FileFault.message .zeroInPath name))
  | .error fault =>
    ({ blank with parseError := some ("Error reading file: " ++ fault.message name) }, [])
  | .ok content =>
    match source content with
    | .error reason => ({ blank with parseError := some reason }, [])
    | .ok text => ofText plan.names name plan.examiners text

def task (plan : Plan) (path : Path) : Except Failure Analysis × Log :=
  match plan.broken.find? (·.1 == path.text) with
  | some (_, failure) => (.error failure, [])
  | none =>
    let (analysis, log) := plan.read path
    (.ok analysis, log)

end Reading

section Tasks

def inTurn (plan : Plan) (paths : List Path) : Logging (List Analysis) :=
  paths.mapM fun path => do
    let (outcome, log) := plan.task path
    modify (· ++ log)
    liftExcept outcome
where
  liftExcept (outcome : Except Failure Analysis) : Logging Analysis :=
    match outcome with
    | .ok analysis => pure analysis
    | .error failure => throw failure

def salvage (path : Path) (failure : Failure) : Analysis × Record :=
  let name := path.text
  let text := failure.message
  if failure.isForeseenInFile then
    ({ path := name, parseError := some s!"Analysis failed: {text}" },
      { level := .error, message := s!"Error analyzing {name}: {text}" })
  else
    ({ path := name, parseError := some "Analysis failed: unexpected error" },
      { level := .error, message := s!"Unexpected error analyzing {name}", traced := true })

def settled (path : Path) (outcome : Except Failure Analysis × Log) : Analysis × Log :=
  match outcome with
  | (.ok analysis, log) => (analysis, log)
  | (.error failure, log) =>
    let (analysis, record) := salvage path failure
    (analysis, log ++ [record])

/-- Analyses of tasks in the order they finished, brought into the order of their paths. -/
def arranged (finished : List (Analysis × Log)) : List Analysis :=
  (finished.map (·.1)).mergeSort fun a b => decide (a.path ≤ b.path)

def sideBySide (plan : Plan) (paths : List Path) : Logging (List Analysis) := do
  let finished := paths.map fun path => settled path (plan.task path)
  modify (· ++ finished.flatMap (·.2))
  return arranged finished

def analyses (plan : Plan) (paths : List Path) (workers : Int) : Logging (List Analysis) :=
  if workers ≤ 1 || paths.length = 1 then plan.inTurn paths else plan.sideBySide paths

end Tasks

section Collecting

structure Collected where
  paths : List Path := []
  excluded : Nat := 0
deriving DecidableEq

def Collected.append (a b : Collected) : Collected := ⟨a.paths ++ b.paths, a.excluded + b.excluded⟩

instance : Append Collected := ⟨Collected.append⟩

def isExcluded (plan : Plan) (path : Path) : Except Failure Bool :=
  (Glob.excludesAny plan.settings.excludePatterns path).mapError fun fault =>
    .raised .value fault.message

/-- A question to the store; a fault that is no absence is a failure. -/
def ask (path : Path) (answer : Except FileFault α) : Except Failure α :=
  answer.mapError fun fault => .raised .system (fault.message path.text)

def sorted (plan : Plan) (path : Path) : Except Failure Collected := do
  if ← plan.isExcluded path then return { excluded := 1 } else return { paths := [path] }

def sortedAll (plan : Plan) : List Path → Except Failure Collected
  | [] => .ok {}
  | path :: rest => do
    let first ← plan.sorted path
    let others ← plan.sortedAll rest
    return first ++ others

def countExcluded (plan : Plan) : List Path → Except Failure Nat
  | [] => .ok 0
  | path :: rest => do
    let excluded ← plan.isExcluded path
    let others ← plan.countExcluded rest
    return if excluded then others + 1 else others

def included (plan : Plan) : List Path → Except Failure (List Path)
  | [] => .ok []
  | path :: rest => do
    let excluded ← plan.isExcluded path
    let others ← plan.included rest
    return if excluded then others else path :: others

def modulesBelow (plan : Plan) (path : Path) : List Path :=
  let files := match plan.store.find path with
    | .ok (names, .folder) => plan.store.filesBelow (plan.store.entries.length + 1) names path
    | _ => []
  files.filter fun file => file.name.endsWith ".py"

def collect (plan : Plan) (path : Path) : Logging Collected := do
  if ← liftAsk (ask path (plan.store.isFile path)) then
    if path.suffix != ".py" then
      let name := path.text
      warn s!"Skipping non-Python file: {name}"
      return {}
    else liftAsk (plan.sorted path)
  else if ← liftAsk (ask path (plan.store.isFolder path)) then
    liftAsk (plan.sortedAll (plan.modulesBelow path))
  else return {}
where
  liftAsk {α : Type} (answer : Except Failure α) : Logging α :=
    match answer with
    | .ok value => pure value
    | .error failure => throw failure

def collectAll (plan : Plan) : List Path → Logging Collected
  | [] => return {}
  | path :: rest => do
    let first ← plan.collect path
    let others ← plan.collectAll rest
    return first ++ others

end Collecting

def run (plan : Plan) (paths : List Path) (workers : Int) : Logging Survey := do
  let found ← plan.collectAll paths
  if found.paths.isEmpty then return { excluded := found.excluded }
  let files ← plan.analyses found.paths workers
  return { files, excluded := found.excluded }

/-- A run over one folder: its files are first counted, then sifted. -/
def runFolder (plan : Plan) (path : Path) (workers : Int) : Logging Survey := do
  let name := path.text
  if !(← collect.liftAsk (ask path (plan.store.exists? path))) then
    warn s!"Directory does not exist: {name}"
    return {}
  if ← collect.liftAsk (ask path (plan.store.isFile path)) then
    warn s!"Expected a directory but received a file: {name}"
    return { files := ← plan.inTurn [path] }
  let found := plan.modulesBelow path
  let excluded ← collect.liftAsk (plan.countExcluded found)
  let kept ← collect.liftAsk (plan.included found)
  if kept.isEmpty then
    warn s!"No Python files found in {name}"
    return { excluded }
  let files ← plan.analyses kept workers
  return { files, excluded }

end Plan

end RefactorAdvice
