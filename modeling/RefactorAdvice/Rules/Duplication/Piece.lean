import RefactorAdvice.Text.WordChar

/-!
Pieces of a line, read without any grammar, so that a cut-out block of lines can be read as
well as a whole file. A character that begins no piece is a piece of its own.
-/

namespace RefactorAdvice.Rules.Duplication

section Numbers

def digitRun? (isDigit : Char → Bool) : List Char → Option (List Char)
  | [] => none
  | c :: rest => if isDigit c then some (afterDigits isDigit rest) else none
where
  afterDigits (isDigit : Char → Bool) : List Char → List Char
    | '_' :: c :: rest => if isDigit c then afterDigits isDigit rest else '_' :: c :: rest
    | c :: rest => if isDigit c then afterDigits isDigit rest else c :: rest
    | [] => []

def decimalRun? : List Char → Option (List Char) := digitRun? Char.isDigit

def exponent? : List Char → Option (List Char)
  | c :: rest =>
    if c == 'e' || c == 'E' then
      match rest with
      | s :: tail => if s == '+' || s == '-' then decimalRun? tail else decimalRun? rest
      | [] => none
    else none
  | [] => none

def optionalExponent (cs : List Char) : List Char := (exponent? cs).getD cs

def pointed? (cs : List Char) : Option (List Char) :=
  match decimalRun? cs with
  | some ('.' :: rest) => some (optionalExponent ((decimalRun? rest).getD rest))
  | _ =>
    match cs with
    | '.' :: rest => (decimalRun? rest).map optionalExponent
    | _ => none

def fractional? (cs : List Char) : Option (List Char) :=
  match pointed? cs with
  | some rest => some rest
  | none => (decimalRun? cs).bind exponent?

def afterImaginaryMark? : List Char → Option (List Char)
  | c :: rest => if c == 'j' || c == 'J' then some rest else none
  | [] => none

def imaginary? (cs : List Char) : Option (List Char) :=
  match (decimalRun? cs).bind afterImaginaryMark? with
  | some rest => some rest
  | none => (fractional? cs).bind afterImaginaryMark?

def based? (isDigit : Char → Bool) (cs : List Char) : Option (List Char) :=
  match cs with
  | '_' :: rest => digitRun? isDigit rest
  | _ => digitRun? isDigit cs

def isHexadecimal (c : Char) : Bool :=
  c.isDigit || ('a' ≤ c && c ≤ 'f') || ('A' ≤ c && c ≤ 'F')

def isBinary (c : Char) : Bool := c == '0' || c == '1'

def isOctal (c : Char) : Bool := '0' ≤ c && c ≤ '7'

/-- A whole number. A leading zero of a decimal is followed by zeros only. -/
def whole? (cs : List Char) : Option (List Char) :=
  match cs with
  | '0' :: mark :: rest =>
    let based := match mark.toLower with
      | 'x' => based? isHexadecimal rest
      | 'b' => based? isBinary rest
      | 'o' => based? isOctal rest
      | _ => none
    match based with
    | some rest => some rest
    | none => digitRun? (· == '0') cs
  | '0' :: _ => digitRun? (· == '0') cs
  | _ => decimalRun? cs

def number? (cs : List Char) : Option (List Char) :=
  match imaginary? cs with
  | some rest => some rest
  | none =>
    match fractional? cs with
    | some rest => some rest
    | none => whole? cs

end Numbers

section Operators

def operators : List (List Char) :=
  ["**=", "//=", ">>=", "<<=", "...", "!=", "%=", "&=", "**", "*=", "+=", "-=", "->", "//",
   "/=", ":=", "<<", "<=", "==", ">=", ">>", "@=", "^=", "|=", "%", "&", "(", ")", "*", "+",
   ",", "-", ".", "/", ":", ";", "<", "=", ">", "@", "[", "]", "^", "\x7b", "|", "\x7d",
   "~"].map String.toList

def operator? (cs : List Char) : Option (List Char) := operators.find? (·.isPrefixOf cs)

end Operators

section Texts

def textMarks : List (List Char) :=
  ["b", "r", "u", "f", "br", "rb", "fr", "rf"].map String.toList

def isQuote (c : Char) : Bool := c == '\'' || c == '"'

def opening? (cs : List Char) : Option (Char × List Char) :=
  let marks := (cs.take 2).takeWhile Char.isAlpha
  match cs.drop marks.length with
  | c :: rest =>
    if isQuote c && (marks.isEmpty || textMarks.contains (marks.map Char.toLower)) then
      some (c, rest)
    else none
  | [] => none

def afterThree? (quote : Char) : List Char → Option (List Char)
  | a :: b :: c :: rest => if a == quote && b == quote && c == quote then some rest else none
  | _ => none

def closeTriple? (quote : Char) : List Char → Option (List Char)
  | [] => none
  | '\\' :: c :: rest => if c == '\n' then none else closeTriple? quote rest
  | c :: rest =>
    if c == '\\' then none
    else
      match afterThree? quote (c :: rest) with
      | some tail => some tail
      | none => closeTriple? quote rest

def closeCarried? (quote : Char) : List Char → Option (List Char)
  | [] => none
  | '\\' :: c :: rest => if c == '\n' then none else closeCarried? quote rest
  | c :: rest =>
    if c == '\\' then none
    else if c == quote then some rest
    else closeCarried? quote rest

inductive LineText where
  | closed (rest : List Char)
  | carried
  | broken

def lineText (quote : Char) : List Char → LineText
  | '\\' :: '\n' :: _ | '\\' :: '\r' :: '\n' :: _ => .carried
  | '\\' :: _ :: rest => lineText quote rest
  | c :: rest =>
    if c == quote then .closed rest
    else if c == '\n' || c == '\\' then .broken
    else lineText quote rest
  | [] => .broken

end Texts

inductive Piece where
  | nothing
  | comment (rest : List Char)
  | number (rest : List Char)
  | text (rest : List Char)
  /-- A text that goes on in the next line. -/
  | openTriple (quote : Char)
  | openCarried (quote : Char)
  | lineBreak (rest : List Char)
  /-- A backslash before the line break. -/
  | continuation (rest : List Char)
  | word (spelled : List Char) (rest : List Char)
  | stray

def isGap (c : Char) : Bool := c == ' ' || c == '\t' || c == '\x0c'

/-- Operators, texts in single quotes and words, in this order. -/
def plainPiece (cs : List Char) : Piece :=
  match operator? cs with
  | some op => .word op (cs.drop op.length)
  | none =>
    let spelled := cs.takeWhile Text.isWordChar
    let asWord : Piece := if spelled.isEmpty then .stray else .word spelled (cs.drop spelled.length)
    match opening? cs with
    | some (quote, body) =>
      match lineText quote body with
      | .closed rest => .text rest
      | .carried => .openCarried quote
      | .broken => asWord
    | none => asWord

def piece (line : List Char) : Piece :=
  match line.dropWhile isGap with
  | [] => .nothing
  | '\\' :: '\n' :: rest | '\\' :: '\r' :: '\n' :: rest => .continuation rest
  | '\n' :: rest | '\r' :: '\n' :: rest => .lineBreak rest
  | '#' :: rest => .comment (rest.dropWhile fun c => c != '\r' && c != '\n')
  | cs =>
    let triple := (opening? cs).bind fun (quote, body) =>
      -- the first of the three quotes has been read
      match body with
      | a :: b :: rest => if a == quote && b == quote then some (quote, rest) else none
      | _ => none
    match triple with
    | some (quote, body) =>
      match closeTriple? quote body with
      | some rest => .text rest
      | none => .openTriple quote
    | none =>
      match number? cs with
      | some rest => .number rest
      | none => plainPiece cs

end RefactorAdvice.Rules.Duplication
