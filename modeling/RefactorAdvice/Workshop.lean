import RefactorAdvice.Failure
import RefactorAdvice.Files.Store

/-!
Work that starts other programs. What those programs answer is given beforehand, one answer for
each start, so the work itself is a function of the answers and of the files.
-/

namespace RefactorAdvice

structure ToolResult where
  code : Int := 0
  out : Option String := some ""
  err : Option String := some ""
deriving DecidableEq, Inhabited

def ToolResult.captured (r : ToolResult) : String := r.out.getD "" ++ r.err.getD ""

/-- The answers still to come, the files, and what has happened so far. -/
structure Workshop where
  store : Store
  /-- A failure stands for a program that could not be started. -/
  answers : List (Except Failure ToolResult) := []
  started : List (List String) := []
  out : String := ""
  err : String := ""

abbrev Work := ExceptT Failure (StateM Workshop)

namespace Work

def say (line : String) : Work Unit := modify fun w => { w with out := w.out ++ line ++ "\n" }

def sayAll (lines : List String) : Work Unit := lines.forM say

/-- Starts a program; when the answers are used up, it ends well and says nothing. -/
def start (command : List String) : Work ToolResult := do
  let w ← get
  let started := w.started ++ [command]
  match w.answers with
  | [] =>
    set { w with started }
    return {}
  | answer :: answers =>
    set { w with started, answers }
    match answer with
    | .ok result => return result
    | .error failure => throw failure

def write (path : Path) (text : String) : Work Unit := do
  let w ← get
  match w.store.write path text with
  | .ok store => set { w with store }
  | .error fault => throw (.raised .system (fault.message (w.store.fullPath path.parts)))

def outcome (work : Work α) (w : Workshop) : Except Failure α × Workshop := work.run.run w

end Work

end RefactorAdvice
