import RefactorAdvice.Suppression

/-!
The lines of a file by number, counted from one.
-/

namespace RefactorAdvice

structure Listing where
  lines : Array String
deriving Inhabited

namespace Listing

def ofList (lines : List String) : Listing := ⟨lines.toArray⟩

def size (l : Listing) : Nat := l.lines.size

def line (l : Listing) (number : Nat) : String :=
  match number with
  | 0 => ""
  | index + 1 => l.lines.getD index ""

def snippet (l : Listing) (number : Nat) : Option String :=
  let text := Text.stripped (l.line number)
  if text.isEmpty then none else some text

/-- The index behind a last line; a last line below zero is counted back from the end. -/
def stopIndex (l : Listing) (last : Int) : Nat :=
  if last < 0 then (l.size + last).toNat else last.toNat

def slice (l : Listing) (start : Nat) (last : Int) : String :=
  "\n".intercalate (l.lines.extract start (l.stopIndex last)).toList

def excerpt (l : Listing) (first last : Int) : String :=
  if first < 1 ∨ l.size < last then "" else l.slice (first - 1).toNat last

/-- Whether a rule is silenced on a line: by a directive there or on the line above. -/
def silences (l : Listing) (number : Nat) (rule : Option String) : Bool :=
  Suppression.lineSuppresses (l.line number) rule ||
    (1 < number && Suppression.lineSuppresses (l.line (number - 1)) rule)

end Listing

end RefactorAdvice
