import RefactorAdvice.Rules.Duplication.Piece
import RefactorAdvice.Text.Blank

/-!
The normal form of a block of lines: its words and operators in order, every literal written
`LITERAL`, comments and layout left out, a line break where a statement ends. Blocks with the
same normal form count as duplicates. A block that cannot be read has none.
-/

namespace RefactorAdvice.Rules.Duplication

structure OpenText where
  quote : Char
  triple : Bool

structure Reading where
  /-- Open brackets; closing ones without a partner count below zero. -/
  depth : Int := 0
  /-- Whether the last line ended with a backslash. -/
  continued : Bool := false
  openText : Option OpenText := none
  /-- Whether an open text must end each of its lines with a backslash. -/
  strict : Bool := false
  /-- Indentations, the innermost first. -/
  indents : List Nat := [0]
  /-- Words so far, the last first. -/
  words : List (List Char) := []

def literalWord : List Char := "LITERAL".toList

def breakWord : List Char := ['\n']

namespace Reading

def add (r : Reading) (word : List Char) : Reading := { r with words := word :: r.words }

def bracket (r : Reading) (word : List Char) : Reading :=
  match word with
  | '(' :: _ | '[' :: _ | '\x7b' :: _ => { r with depth := r.depth + 1 }
  | ')' :: _ | ']' :: _ | '\x7d' :: _ => { r with depth := r.depth - 1 }
  | _ => r

def pieces : Nat → Reading → List Char → Reading
  | 0, r, _ => r
  | _, r, [] => r
  | fuel + 1, r, c :: rest =>
    match piece (c :: rest) with
    | .nothing => r
    | .comment tail => pieces fuel r tail
    | .number tail | .text tail => pieces fuel (r.add literalWord) tail
    | .openTriple quote => { r with openText := some ⟨quote, true⟩ }
    | .openCarried quote => { r with openText := some ⟨quote, false⟩, strict := true }
    | .lineBreak tail => pieces fuel (if 0 < r.depth then r else r.add breakWord) tail
    | .continuation tail => pieces fuel { r with continued := true } tail
    | .word spelled tail => pieces fuel ((r.add spelled).bracket spelled) tail
    | .stray => pieces fuel r rest

def rest (r : Reading) (line : List Char) : Reading := r.pieces line.length line

def column (col : Nat) : List Char → Nat × List Char
  | ' ' :: rest => column (col + 1) rest
  | '\t' :: rest => column ((col / 8 + 1) * 8) rest
  | '\x0c' :: rest => column 0 rest
  | cs => (col, cs)

/-- Indentations after a line at a column; leaving to a column that was never opened fails. -/
def indent (col : Nat) : List Nat → Option (List Nat)
  | [] => some [col]
  | top :: outer =>
    if top < col then some (col :: top :: outer)
    else if col = top then some (top :: outer)
    else if outer.contains col then indent col outer
    else none

def endsCarried (line : List Char) : Bool :=
  match line.reverse with
  | '\n' :: '\\' :: _ | '\n' :: '\r' :: '\\' :: _ => true
  | _ => false

def inText (r : Reading) (text : OpenText) (line : List Char) : Reading :=
  let close := if text.triple then closeTriple? text.quote line else closeCarried? text.quote line
  match close with
  | some tail => { r with openText := none, strict := false }.add literalWord |>.rest tail
  | none => if r.strict && !endsCarried line then { r with openText := none } else r

def line (r : Reading) (line : List Char) : Option Reading :=
  match r.openText with
  | some text => some (r.inText text line)
  | none =>
    if r.depth = 0 && !r.continued then
      match column 0 line with
      | (_, []) => some r
      | (_, '#' :: _) | (_, '\r' :: _) | (_, '\n' :: _) => some r
      | (col, tail) => (indent col r.indents).map fun indents => { r with indents }.rest tail
    else some ({ r with continued := false }.rest line)

def finish (r : Reading) (last : List Char) : Option (List (List Char)) :=
  if r.openText.isSome || r.depth ≠ 0 || r.continued then none
  else
    let closed := match last.getLast? with
      | none => true
      | some c => c == '\r' || c == '\n' || (Text.strip last).head? == some '#'
    some (if closed then r.words else breakWord :: r.words).reverse

end Reading

section Lines

def brokenLines (line : List Char) : List Char → List (List Char)
  | [] => if line.isEmpty then [] else [line.reverse]
  | '\n' :: rest => ('\n' :: line).reverse :: brokenLines [] rest
  | c :: rest => brokenLines (c :: line) rest

def isGapOnly (line : List Char) : Bool := line.all isGap

/-- The words of lines. A last line of blanks where a statement could begin is not read. -/
def wordsOf (r : Reading) (before : List Char) : List (List Char) → Option (List (List Char))
  | [] => r.finish before
  | line :: rest =>
    if r.openText.isNone && r.depth = 0 && !r.continued && isGapOnly line then r.finish before
    else
      match r.line line with
      | none => none
      | some next => wordsOf next line rest

end Lines

def normalForm (code : List Char) : String :=
  match wordsOf {} [] (brokenLines [] code) with
  | none => ""
  | some words => " ".intercalate (words.map String.ofList)

end RefactorAdvice.Rules.Duplication
