/-!
Blank characters and what is done around them: stripping the ends of a text, cutting it into
words, and bringing a short text to the width of its column.
-/

namespace RefactorAdvice.Text

/-- A character with the Unicode property of white space, or one of the four separators below it. -/
def isBlank (c : Char) : Bool :=
  let n := c.toNat
  (0x09 ≤ n && n ≤ 0x0d) || (0x1c ≤ n && n ≤ 0x20) || n == 0x85 || n == 0xa0 || n == 0x1680 ||
  (0x2000 ≤ n && n ≤ 0x200a) || n == 0x2028 || n == 0x2029 || n == 0x202f || n == 0x205f ||
  n == 0x3000

section Strip

def stripLeft (cs : List Char) : List Char := cs.dropWhile isBlank

def stripRight (cs : List Char) : List Char := (cs.reverse.dropWhile isBlank).reverse

def strip (cs : List Char) : List Char := stripRight (stripLeft cs)

def stripped (s : String) : String := String.ofList (strip s.toList)

end Strip

section Words

def wordsFrom (word : List Char) : List Char → List (List Char)
  | [] => if word.isEmpty then [] else [word.reverse]
  | c :: rest =>
    if isBlank c then
      if word.isEmpty then wordsFrom [] rest else word.reverse :: wordsFrom [] rest
    else wordsFrom (c :: word) rest

def words (cs : List Char) : List (List Char) := wordsFrom [] cs

end Words

section Search

def afterFirst (needle : List Char) : List Char → Option (List Char)
  | [] => if needle.isEmpty then some [] else none
  | c :: rest =>
    if needle.isPrefixOf (c :: rest) then some ((c :: rest).drop needle.length)
    else afterFirst needle rest

def contains (needle cs : List Char) : Bool := (afterFirst needle cs).isSome

end Search

section Columns

def blanks (count : Nat) : String := String.ofList (List.replicate count ' ')

def left (width : Nat) (s : String) : String := s ++ blanks (width - s.length)

def right (width : Nat) (s : String) : String := blanks (width - s.length) ++ s

end Columns

end RefactorAdvice.Text
