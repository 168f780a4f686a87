import RefactorAdvice.Data.Basic
import RefactorAdvice.Failure

/-!
Workloads: fixed pieces of work for parts of the library, of a size that can be chosen. Each
gives back what it computed, so that two runs can be compared.
-/

namespace RefactorAdvice

structure Workload where
  name : String
  /-- The name of the size, if it can be chosen, and its usual value. -/
  size : Option (String × Int)
  run : Int → Except Failure Data

namespace Workload

def unexpected (w : Workload) (argument : String) : Failure :=
  let name := w.name
  .raised .type (name ++ "() got an unexpected keyword argument '" ++ argument ++ "'")

def sizeOf (w : Workload) (arguments : List (String × Int)) : Except Failure Int :=
  let known := (w.size.map (·.1)).toList
  match arguments.find? fun (name, _) => !known.contains name with
  | some (name, _) => .error (w.unexpected name)
  | none =>
    let usual := (w.size.map (·.2)).getD 0
    .ok ((arguments.head?.map (·.2)).getD usual)

def call (w : Workload) (arguments : List (String × Int)) (times : Nat) :
    Except Failure (List Data) := do
  let size ← w.sizeOf arguments
  (List.replicate times ()).mapM fun _ => w.run size

end Workload

def Data.ofNats (ns : List Nat) : Data := .list (ns.map fun n : Nat => .int n)

end RefactorAdvice
