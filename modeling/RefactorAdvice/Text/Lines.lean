/-!
Lines of a text. A reader of source knows one line break; a reader of lines in general knows
ten, with a carriage return and line feed counted as one.
-/

namespace RefactorAdvice.Text

def unifyBreaksOnto (done : List Char) : List Char → List Char
  | [] => done.reverse
  | '\r' :: '\n' :: rest => unifyBreaksOnto ('\n' :: done) rest
  | '\r' :: rest => unifyBreaksOnto ('\n' :: done) rest
  | c :: rest => unifyBreaksOnto (c :: done) rest

def unifyBreaks (cs : List Char) : List Char :=
  if cs.any (· == '\r') then unifyBreaksOnto [] cs else cs

def isLineBreak (c : Char) : Bool :=
  let n := c.toNat
  (0x0a ≤ n && n ≤ 0x0d) || (0x1c ≤ n && n ≤ 0x1e) || n == 0x85 || n == 0x2028 || n == 0x2029

/-- Lines without their breaks; a break at the end opens no further line. -/
def linesOnto (done : List (List Char)) (line : List Char) : List Char → List (List Char)
  | [] => (if line.isEmpty then done else line.reverse :: done).reverse
  | '\r' :: '\n' :: rest => linesOnto (line.reverse :: done) [] rest
  | c :: rest =>
    if isLineBreak c then linesOnto (line.reverse :: done) [] rest
    else linesOnto done (c :: line) rest

def lines (cs : List Char) : List (List Char) := linesOnto [] [] cs

def linesOf (text : String) : List String := (lines text.toList).map String.ofList

end RefactorAdvice.Text
