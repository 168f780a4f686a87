import RefactorAdvice.Code.Tree

/-!
Lines that are not searched for duplicates: displays of data, and the text that documents a
module, class or function.
-/

namespace RefactorAdvice.Rules.Duplication

open Code

structure Excluded where
  first : Option Int
  last : Int
deriving DecidableEq, Inhabited

def Excluded.of? (span : Span) : Option Excluded := span.endLine.map fun last => ⟨span.line, last⟩

/-- The place of a documenting text: a first statement that is a text and not empty. -/
def docSpan? : List Stmt → Option Span
  | .expr span (.constant _ (.text (_ :: _) _)) :: _ => some span
  | _ => none

def keptSpan? : Node → Option Span
  | .expr (.set span _) | .expr (.list span _ _) | .expr (.dict span _ _)
  | .expr (.tuple span _ _) => some span
  | .module m => docSpan? m.body
  | .stmt (.function _ _ _ _ body _ _) | .stmt (.cls _ _ _ _ body _) => docSpan? body
  | _ => none

def excludedRanges (module : Module) : List Excluded :=
  module.tree.preorder.filterMap fun node => (keptSpan? node).bind Excluded.of?

end RefactorAdvice.Rules.Duplication
