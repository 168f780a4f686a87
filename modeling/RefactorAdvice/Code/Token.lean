import RefactorAdvice.Code.Numeral
import RefactorAdvice.Text.Compatibility
import RefactorAdvice.Text.Identifier
import RefactorAdvice.Text.Lines

/-!
Tokens of source text. Indentation shows as `indent` and `dedent` tokens, a logical line ends
in a `newline`; comments, blank lines and line breaks inside brackets leave no token.
Text that cannot be cut into tokens has none.
-/

namespace RefactorAdvice.Code

structure Literal where
  isBytes : Bool
  isRaw : Bool
  isFormat : Bool
  marked : Bool
  body : List Char
  /-- How many characters stand before the body. -/
  margin : Nat
deriving Inhabited

inductive Lexeme where
  | name (id : String)
  | keyword (word : String)
  | number (value : Constant)
  | text (literal : Literal)
  | symbol (text : String)
  | newline
  | indent
  | dedent
  | done
deriving Inhabited

structure Token where
  lexeme : Lexeme
  line : Nat
  column : Nat
  endLine : Nat
deriving Inhabited

section Vocabulary

def keywords : List String :=
  ["False", "None", "True", "and", "as", "assert", "async", "await", "break", "class",
   "continue", "def", "del", "elif", "else", "except", "finally", "for", "from", "global",
   "if", "import", "in", "is", "lambda", "nonlocal", "not", "or", "pass", "raise", "return",
   "try", "while", "with", "yield"]

def symbols : List (List Char) :=
  ["**=", "//=", ">>=", "<<=", "...", "!=", "%=", "&=", "**", "*=", "+=", "-=", "->", "//",
   "/=", ":=", "<<", "<=", "<>", "==", ">=", ">>", "@=", "^=", "|=", "(", ")", "[", "]",
   "\x7b", "\x7d", "%", "&", "*", "+", ",", "-", ".", "/", ":", ";", "<", "=", ">", "@", "^",
   "|", "~"].map String.toList

def isWordStart (c : Char) : Bool := c.isAlpha || c == '_' || 128 ≤ c.toNat

def wordLexeme (word : List Char) : Option Lexeme :=
  if word.all (·.toNat < 128) then
    let text := String.ofList word
    some (if keywords.contains text then .keyword text else .name text)
  else if Text.isIdentifier word then some (.name (String.ofList (Text.compatible word)))
  else none

end Vocabulary

section Strings

def stringPrefixes : List (List Char) :=
  ["", "b", "r", "u", "f", "br", "rb", "fr", "rf"].map String.toList

def stringMarks (cs : List Char) : Option (List Char × List Char) :=
  let letters := cs.takeWhile Char.isAlpha
  match cs.drop letters.length with
  | c :: rest =>
    if (c == '\'' || c == '"') && stringPrefixes.contains (letters.map Char.toLower) then
      some (letters, c :: rest)
    else none
  | [] => none

def shortBody (quote : Char) (taken : List Char) : List Char → Option (List Char × List Char)
  | [] => none
  | '\\' :: c :: rest => shortBody quote (c :: '\\' :: taken) rest
  | c :: rest =>
    if c == quote then some (taken.reverse, rest)
    else if c == '\n' then none
    else shortBody quote (c :: taken) rest

def longBody (quote : Char) (taken : List Char) : List Char → Option (List Char × List Char)
  | [] => none
  | '\\' :: c :: rest => longBody quote (c :: '\\' :: taken) rest
  | a :: b :: c :: rest =>
    if a == quote && b == quote && c == quote then some (taken.reverse, rest)
    else longBody quote (a :: taken) (b :: c :: rest)
  | c :: rest => longBody quote (c :: taken) rest

structure StringRead where
  literal : Literal
  rest : List Char
  /-- How many characters the literal takes. -/
  size : Nat

def readString (cs : List Char) : Option (Option StringRead) :=
  (stringMarks cs).map fun (marks, opened) =>
    let small := marks.map Char.toLower
    let literal (body : List Char) (quotes : Nat) : Literal :=
      { isBytes := small.contains 'b'
        isRaw := small.contains 'r'
        isFormat := small.contains 'f'
        marked := marks == ['u']
        body := body
        margin := marks.length + quotes }
    match opened with
    | a :: b :: c :: rest =>
      if a == b && b == c then
        (longBody a [] rest).map fun (body, rest) =>
          ⟨literal body 3, rest, marks.length + body.length + 6⟩
      else
        (shortBody a [] (b :: c :: rest)).map fun (body, rest) =>
          ⟨literal body 1, rest, marks.length + body.length + 2⟩
    | a :: rest =>
      (shortBody a [] rest).map fun (body, rest) =>
        ⟨literal body 1, rest, marks.length + body.length + 2⟩
    | [] => none

end Strings

section Place

/-- How far a run of characters leads: lines passed, and bytes on the last of them. -/
def advance (line column : Nat) : List Char → Nat × Nat
  | [] => (line, column)
  | '\n' :: rest => advance (line + 1) 0 rest
  | c :: rest => advance line (column + c.utf8Size) rest

def bytes (cs : List Char) : Nat := cs.foldl (fun n c => n + c.utf8Size) 0

end Place

section Margin

structure Margin where
  width : Nat
  narrow : Nat
deriving DecidableEq

structure MarginRead where
  margin : Margin
  rest : List Char
  line : Nat
  column : Nat

def continued : List Char → Option (List Char)
  | '\\' :: '\n' :: c :: rest => some (c :: rest)
  | _ => none

/--
Reads the blanks a line begins with. A form feed starts the count again; the first
backslash that continues the line fixes the width.
-/
def readMargin (width narrow : Nat) (fixed : Option Nat) (line column : Nat) :
    List Char → Option MarginRead
  | ' ' :: rest => readMargin (width + 1) (narrow + 1) fixed line (column + 1) rest
  | '\t' :: rest => readMargin ((width / 8 + 1) * 8) (narrow + 1) fixed line (column + 1) rest
  | '\x0c' :: rest => readMargin 0 0 fixed line (column + 1) rest
  | '\\' :: '\n' :: rest =>
    if rest.isEmpty then none
    else
      let kept := match fixed with
        | none => if width = 0 then none else some width
        | some kept => some kept
      readMargin width narrow kept (line + 1) 0 rest
  | '\\' :: _ => none
  | rest =>
    let margin : Margin := match fixed with
      | some kept => ⟨kept, kept⟩
      | none => ⟨width, narrow⟩
    some ⟨margin, rest, line, column⟩

def indentLimit : Nat := 100

/--
How a new line's margin moves the open blocks (innermost first, none for the outermost).
Margins must compare the same way under both tab widths.
-/
def moveMargin (blocks : List Margin) (margin : Margin) : Option (List Lexeme × List Margin) :=
  let innermost := blocks.head?.getD ⟨0, 0⟩
  if margin.width = innermost.width then
    if margin.narrow = innermost.narrow then some ([], blocks) else none
  else if innermost.width < margin.width then
    if indentLimit ≤ blocks.length + 1 || margin.narrow ≤ innermost.narrow then none
    else some ([.indent], margin :: blocks)
  else
    let closed := blocks.takeWhile fun block => margin.width < block.width
    let open_ := blocks.drop closed.length
    if open_.head?.getD ⟨0, 0⟩ = margin then some (closed.map fun _ => .dedent, open_) else none

end Margin

section Scan

def numberRun (cs : List Char) : Nat :=
  (cs.takeWhile fun c => isWordChar c || c == '.' || c == '+' || c == '-').length

def bracketLimit : Nat := 200

def closes (opening closing : Char) : Bool :=
  (opening == '(' && closing == ')') || (opening == '[' && closing == ']') ||
  (opening == '\x7b' && closing == '\x7d')

def moveBrackets (brackets : List Char) (symbol : List Char) : Option (List Char) :=
  match symbol with
  | [c] =>
    if c == '(' || c == '[' || c == '\x7b' then
      if bracketLimit ≤ brackets.length then none else some (c :: brackets)
    else if c == ')' || c == ']' || c == '\x7d' then
      match brackets with
      | opening :: outer => if closes opening c then some outer else none
      | [] => none
    else some brackets
  | _ => some brackets

structure Origin where
  line : Nat
  column : Nat

structure Scan where
  rest : List Char
  line : Nat
  column : Nat
  lineStart : Bool
  blocks : List Margin
  brackets : List Char
  /-- Tokens found so far, the last one first. -/
  found : List Token

/-- A token's column counts from the origin's when it ends on the first line. -/
def Origin.token (origin : Origin) (lexeme : Lexeme) (line column endLine : Nat) : Token :=
  ⟨lexeme, line, if endLine = origin.line then origin.column + column else column, endLine⟩

def Scan.push (s : Scan) (origin : Origin) (lexeme : Lexeme) (size : Nat) (rest : List Char) :
    Scan :=
  { s with
    rest := rest
    column := s.column + size
    found := origin.token lexeme s.line s.column s.line :: s.found }

def Scan.startLine (s : Scan) (origin : Origin) : Option Scan := do
  let read ← readMargin 0 0 none s.line s.column s.rest
  let moved := { s with rest := read.rest, line := read.line, column := read.column,
                        lineStart := false }
  match read.rest with
  | '#' :: _ | '\n' :: _ => some moved
  | _ =>
    if s.brackets.isEmpty then
      let (lexemes, blocks) ← moveMargin s.blocks read.margin
      some { moved with
        blocks := blocks
        found := lexemes.foldl (fun found lexeme =>
          origin.token lexeme read.line read.column read.line :: found) s.found }
    else some moved

def Scan.lineIsBlank (s : Scan) : Bool :=
  match s.found with
  | [] => true
  | token :: _ =>
    match token.lexeme with
    | .newline | .indent | .dedent => true
    | _ => false

def Scan.next (s : Scan) (origin : Origin) : Option Scan :=
  match s.rest with
  | [] => none
  | '\n' :: rest =>
    let after := { s with rest := rest, line := s.line + 1, column := 0, lineStart := true }
    if s.brackets.isEmpty && !s.lineIsBlank then
      some { after with found := origin.token .newline s.line s.column s.line :: s.found }
    else some after
  | ' ' :: rest | '\t' :: rest | '\x0c' :: rest =>
    some { s with rest := rest, column := s.column + 1 }
  | '#' :: rest => some { s with rest := rest.dropWhile (· != '\n') }
  | '\\' :: _ =>
    (continued s.rest).map fun rest => { s with rest := rest, line := s.line + 1, column := 0 }
  | c :: rest =>
    match readString s.rest with
    | some none => none
    | some (some read) =>
      let (endLine, endColumn) := advance s.line s.column (s.rest.take read.size)
      some { s with
        rest := read.rest
        line := endLine
        column := endColumn
        found := origin.token (.text read.literal) s.line s.column endLine :: s.found }
    | none =>
      if isWordStart c then
        let word := s.rest.takeWhile isWordChar
        (wordLexeme word).map fun lexeme =>
          s.push origin lexeme (bytes word) (s.rest.drop word.length)
      else if c.isDigit || (c == '.' && rest.head?.any Char.isDigit) then
        (if c == '.' then afterPoint [] rest else readNumber s.rest).map fun read =>
          s.push origin (.number read.value) (numberRun s.rest - numberRun read.rest) read.rest
      else
        match symbols.find? (·.isPrefixOf s.rest) with
        | some symbol =>
          (moveBrackets s.brackets symbol).map fun brackets =>
            { s.push origin (.symbol (String.ofList symbol)) symbol.length
                (s.rest.drop symbol.length) with brackets := brackets }
        | none => none

def Scan.finish (s : Scan) (origin : Origin) : Option (List Token) :=
  if s.brackets.isEmpty then
    let ending := s.blocks.map (fun _ => Lexeme.dedent) ++ [.done]
    some (s.found.reverse ++ ending.map fun lexeme => origin.token lexeme s.line 0 s.line)
  else none

/-- Each step takes a character or leaves the line start, so twice the length is enough. -/
def Scan.run (origin : Origin) : Nat → Scan → Option (List Token)
  | 0, _ => none
  | steps + 1, s =>
    if s.rest.isEmpty then s.finish origin
    else
      match if s.lineStart then s.startLine origin else s.next origin with
      | some s => Scan.run origin steps s
      | none => none

end Scan

def closeLastLine (cs : List Char) : List Char :=
  match cs.getLast? with
  | some '\n' => cs
  | none => cs
  | some _ => cs ++ ['\n']

def tokensAt (origin : Origin) (cs : List Char) : Option (List Token) :=
  let text := closeLastLine (Text.unifyBreaks cs)
  if text.contains '\x00' then none
  else Scan.run origin (2 * text.length + 1) ⟨text, origin.line, 0, true, [], [], []⟩

def tokens (cs : List Char) : Option (List Token) := tokensAt ⟨1, 0⟩ cs

end RefactorAdvice.Code
