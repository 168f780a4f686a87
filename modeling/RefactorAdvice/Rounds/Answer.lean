import RefactorAdvice.Data.Basic
import RefactorAdvice.Json.Reader
import RefactorAdvice.Number.Reading
import RefactorAdvice.Text.Lines
import RefactorAdvice.Workshop

/-!
What a helper program has to say: a table of JSON in the last line that it writes.
-/

namespace RefactorAdvice.Rounds

section Values

def number : Data → Except Failure Binary64
  | .bool b => .ok (.ofInt (if b then 1 else 0))
  | .int n =>
    match Binary64.ofInt n with
    | .infinite _ => .error (.raised .overflow "int too large to convert to float")
    | x => .ok x
  | .float x => .ok x
  | .text s => (Number.readFloat s).mapError fun fault => .raised .value fault.message
  | d =>
    let kind := d.kindName
    .error (.raised .type
      ("float() argument must be a string or a real number, not '" ++ kind ++ "'"))

def numbers : List (String × Data) → Except Failure (List (String × Binary64))
  | [] => .ok []
  | (name, d) :: rest => do
    let x ← number d
    return (name, x) :: (← numbers rest)

def tableAt (key : String) (d : Data) : List (String × Data) :=
  ((d.get? key).bind Data.entries?).getD []

def itemsAt (key : String) (d : Data) : List Data := ((d.get? key).bind Data.items?).getD []

def asTable (d : Data) : Except Failure Data :=
  match d with
  | .table entries => .ok (.table entries)
  | other =>
    .error (.raised .attribute ("'" ++ other.kindName ++ "' object has no attribute 'get'"))

def document (text : String) : Except Failure Data :=
  (Json.read text.toList).mapError fun fault => .raised .document (fault.message text.toList)

end Values

def answer (result : ToolResult) : Except Failure Data :=
  let line := (Text.linesOf (result.out.getD "")).getLast?.getD ""
  if (Text.stripped line).isEmpty then .ok (.table []) else document line >>= asTable

def passOn (result : ToolResult) : Work Unit :=
  modify fun w => { w with err := w.err ++ result.err.getD "" }

def lift (x : Except Failure α) : Work α :=
  match x with
  | .ok value => pure value
  | .error failure => throw failure

def remark (label : String) (failure : Failure) : Work Unit :=
  let words := "[" ++ label ++ " runner: " ++ failure.kind.name ++ ": " ++ failure.message ++ "]\n"
  modify fun w => { w with err := w.err ++ words }

def home : String := "/repo"

def placed (name : String) : String := home ++ "/" ++ name

/-- Starts a helper, if it is there, and takes what it answers. A failure is told of; what was
taken up to then is kept, and a helper that cannot be asked gives nothing. -/
def consult [Inhabited α] (label script : String) (take : Data → α × Option Failure) : Work α := do
  match (← get).store.exists? (Path.ofText script) with
  | .ok true =>
    tryCatch
      (do
        let result ← Work.start ["python", placed script]
        passOn result
        let (value, failure) := take (← lift (answer result))
        failure.forM (remark label)
        return value)
      (fun failure => do
        remark label failure
        return default)
  | _ => return default

end RefactorAdvice.Rounds
