import RefactorAdvice.Text.Blank

/-!
Sets of code points as tables of closed ranges. A table is a text with a word for every range: how
many code points are left out before it and, behind a plus sign, how many it has beside its first
one. Numbers are hexadecimal.
-/

namespace RefactorAdvice.Text

section Tables

def hexDigit (c : Char) : Nat :=
  if c.isDigit then c.toNat - '0'.toNat else c.toNat - 'a'.toNat + 10

def hexNumber (cs : List Char) : Nat := cs.foldl (fun n c => n * 16 + hexDigit c) 0

def hexNumbers (mark : Char) (word : List Char) : List Nat := (word.splitOn mark).map hexNumber

def rangeFrom (next : Nat) (word : List Char) : Nat × Nat :=
  let numbers := hexNumbers '+' word
  let low := next + numbers.headD 0
  (low, low + numbers[1]?.getD 0)

def rangesFrom (next : Nat) : List (List Char) → List (Nat × Nat)
  | [] => []
  | word :: rest =>
    let range := rangeFrom next word
    range :: rangesFrom (range.2 + 1) rest

def rangesOf (table : String) : Array (Nat × Nat) := (rangesFrom 0 (words table.toList)).toArray

end Tables

def inRanges (table : Array (Nat × Nat)) (code : Nat) : Bool :=
  table.any fun (low, high) => low ≤ code && code ≤ high

end RefactorAdvice.Text
