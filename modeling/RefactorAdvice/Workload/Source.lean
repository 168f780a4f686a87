import RefactorAdvice.Code.Grammar.Stmt
import RefactorAdvice.Code.Metrics
import RefactorAdvice.Rules.Examiner
import RefactorAdvice.Workload.Basic

/-!
Workloads on source: the rule families run on copies of a piece of code that has something for
most rules, and measures are taken of functions and of what assignments bind.
-/

namespace RefactorAdvice.Workload

open Code

section Families

/-- Code with something for most rules; an at sign stands for the number of the copy. -/
def sample : List String :=
  ["def compare_@(a, b, c, x):",
   "    if a == None:",
   "        return 1",
   "    if b != None:",
   "        return 2",
   "    if a == True:",
   "        return 3",
   "    if b == False:",
   "        return 4",
   "    if type(a) == int:",
   "        return 5",
   "    if type(b) == str:",
   "        return 6",
   "    if x == 1 or x == 2 or x == 3:",
   "        return 7",
   "    if a < b and b < c:",
   "        return 8",
   "    if isinstance(x, int) or isinstance(x, str):",
   "        return 9",
   "    return 0",
   "",
   "",
   "def judge_@(a, b, c, d, e):",
   "    if a and b and c and d and e:",
   "        return 1",
   "    if a is True:",
   "        return 2",
   "    return 3",
   "",
   "",
   "def guard_@(a, b, c):",
   "    if not (a and b):",
   "        return 1",
   "    if not (a or b):",
   "        return 2",
   "    if a:",
   "        if b:",
   "            if c:",
   "                return 3",
   "",
   "",
   "def first_@(items):",
   "    if items:",
   "        return 1",
   "    else:",
   "        items = [1]",
   "    if len(items) > 0:",
   "        raise ValueError",
   "    else:",
   "        return 2",
   "",
   "",
   "def second_@(items):",
   "    if items == 1:",
   "        return 1",
   "    elif items == 2:",
   "        return 2",
   "    else:",
   "        return 3",
   "",
   "",
   "def third_@(items):",
   "    if items == 1:",
   "        raise KeyError",
   "    elif items == 2:",
   "        raise ValueError",
   "    else:",
   "        return 3",
   "",
   "",
   "def fourth_@(items):",
   "    for item in items:",
   "        if item < 0:",
   "            continue",
   "        else:",
   "            item = 0",
   "        if item > 9:",
   "            break",
   "        else:",
   "            item = 9",
   "    while items:",
   "        if items == 3:",
   "            break",
   "        else:",
   "            items = 3",
   "",
   "",
   "def lookup_@(d, k, m):",
   "    if k in d:",
   "        v = d[k]",
   "    else:",
   "        v = None",
   "    if k in d.keys():",
   "        v = 1",
   "    if k in m.keys():",
   "        v = 2",
   "    w = dict([(i, i) for i in d])",
   "    for key in d:",
   "        print(d[key])",
   "    return v, w",
   "",
   "",
   "def size_@(items):",
   "    if len(items) == 0:",
   "        return list([i for i in range(3)])",
   "    if len(items) != 0:",
   "        return items",
   "",
   "",
   "def large_@(p, q, r, s, t, u):",
   "    a = p",
   "    b = q",
   "    c = r",
   "    d = s",
   "    e = t",
   "    f = u",
   "    g = p",
   "    h = q",
   "    i = r",
   "    j = s",
   "    k = t",
   "    l = u",
   "    m = p",
   "    n = q",
   "    o = r",
   "    z = s",
   "    if a:",
   "        if b:",
   "            if c:",
   "                if d:",
   "                    e = 1",
   "                f = 1",
   "            g = 1",
   "        h = 1",
   "    if i:",
   "        j = 1",
   "    if k:",
   "        l = 1",
   "    if m:",
   "        n = 1",
   "    if o:",
   "        z = 1",
   "    if p:",
   "        a = 2",
   "    if q:",
   "        b = 2",
   "    if r:",
   "        c = 2",
   "    d = 2",
   "    e = 2",
   "    f = 2",
   "    g = 2",
   "    h = 2",
   "    i = 2",
   "    j = 2",
   "    k = 2",
   "    l = 2",
   "    m = 2",
   "    n = 2",
   "    o = 2",
   "",
   ""]

def sampleCopies (count : Nat) : List String :=
  (List.range count).flatMap fun n => sample.map fun line => line.replace "@" (toString n)

def examinedFamilies : List Family :=
  [.comparisons, .booleanLogic, .controlFlow, .dictOperations, .contextManager, .loops,
   .performance, .complexity]

def moduleOf (lines : List String) : Except Failure Module :=
  match parse noNames ("\n".intercalate lines ++ "\n").toList with
  | some module => .ok module
  | none => .error (.raised .value "invalid syntax")

def families : Workload where
  name := "bench_detectors_direct"
  size := some ("n_copies", 3)
  run := fun copies => do
    let lines := sampleCopies copies.toNat
    let module ← moduleOf lines
    let sheet : Rules.Sheet := { file := "bench.py", listing := .ofList lines }
    let counts ← examinedFamilies.mapM fun family => do
      let verdict ← Rules.examine {} sheet false module family
      return Data.list [.text family.name, .int verdict.findings.length]
    return .list counts

end Families

section Measures

def bindings (count : Nat) : List String :=
  (List.range count).flatMap fun n =>
    let target := s!"a{n}, (b{n}, [c{n}, *d{n}]), e{n}"
    if n % 2 = 0 then [target ++ " = x"] else ["for " ++ target ++ " in x:", "    pass"]

def target? : Stmt → Option Expr
  | .assign _ (target :: _) _ => some target
  | .forLoop _ _ target .. => some target
  | _ => none

def boundNames (target : Expr) : List String := target.storedNames.eraseDups

def position (target : Expr) : Int := (target.span.placed.getD 0 : Nat) + target.span.columnOrZero

def varied : List String :=
  ["async def varied(x):",
   "    a, b = x",
   "    for c in x:",
   "        while c:",
   "            with x as d:",
   "                async with x as e:",
   "                    async for f in x:",
   "                        try:",
   "                            if a and b:",
   "                                pass",
   "                        except ValueError as g:",
   "                            pass",
   "    match x:",
   "        case 1:",
   "            pass",
   "        case 2:",
   "            pass",
   "    assert x and a and b"]

def commented : List String :=
  ["x = 1  # noqa", "x = 1  # noqa: R001", "x = 1  # pyrefactor: ignore",
   "x = 1  # pyrefactor: ignore R001", "x = 1"]

def silenced : List Data :=
  commented.map fun line => .bool (Suppression.lineSuppresses line (some "R001"))

def covered : List Data :=
  let scope (codes : List String) : Suppression.Scope := .ofList (codes.map String.toList)
  [((scope []).covers none), ((scope ["R001"]).covers (some "r001")),
   ((scope ["R001"]).covers (some "R002")), ((scope ["R001"]).covers none)].map Data.bool

def measures : Workload where
  name := "bench_function_metrics"
  size := some ("n_targets", 300)
  run := fun count => do
    let targets := (← moduleOf (bindings count.toNat)).body.filterMap target?
    let names : Nat := (targets.map fun target => (boundNames target).length).foldr (· + ·) 0
    let functions := (← moduleOf varied).measured
    let m := (functions.head?.map (·.metrics)).getD default
    let shallow ← moduleOf ["if x:", "    pass"]
    return .list [
      .int names, .int ((targets.map position).foldr (· + ·) 0), .list silenced, .list covered,
      .int m.localNames.length, .int m.branches, .int m.complexity, .int m.nesting,
      .int shallow.tree.nestingDepth, .int m.branches, .int m.complexity]

end Measures

end RefactorAdvice.Workload
