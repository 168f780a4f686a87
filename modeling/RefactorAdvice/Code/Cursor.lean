import RefactorAdvice.Code.Escape
import RefactorAdvice.Code.Token

/-!
Reading tokens. A parser is a function from a place in the tokens to a value and the next
place, or to nothing; alternatives start again from the same place.
-/

namespace RefactorAdvice.Code

/--
The tokens still to read, the line on which the last word or symbol read ends, a bound on the
number of tokens, and the names that texts may use.
-/
structure Cursor where
  rest : List Token
  endLine : Nat
  size : Nat
  names : CharNames
deriving Inhabited

def Cursor.start (names : CharNames) (tokens : List Token) (line : Nat) : Cursor :=
  ⟨tokens, line, tokens.length, names⟩

abbrev Parser := StateT Cursor Option

namespace Parser

section Tokens

def peek : Parser Lexeme := do
  return ((← get).rest.head?.map (·.lexeme)).getD .done

def peekSecond : Parser Lexeme := do
  return (((← get).rest.drop 1).head?.map (·.lexeme)).getD .done

/-- Layout tokens do not move the end of what was read. -/
def next : Parser Token := do
  let here ← get
  match here.rest with
  | token :: rest =>
    let endLine := match token.lexeme with
      | .newline | .indent | .dedent | .done => here.endLine
      | _ => token.endLine
    set { here with rest := rest, endLine := endLine }
    return token
  | [] => failure

def nextIsSymbol (text : String) : Parser Bool := do
  match ← peek with
  | .symbol s => return s == text
  | _ => return false

def nextIsKeyword (word : String) : Parser Bool := do
  match ← peek with
  | .keyword w => return w == word
  | _ => return false

def symbol (text : String) : Parser Unit := do
  if ← nextIsSymbol text then discard next else failure

def keyword (word : String) : Parser Unit := do
  if ← nextIsKeyword word then discard next else failure

def trySymbol (text : String) : Parser Bool := do
  if ← nextIsSymbol text then
    discard next
    return true
  else return false

def tryKeyword (word : String) : Parser Bool := do
  if ← nextIsKeyword word then
    discard next
    return true
  else return false

def name : Parser String := do
  match ← peek with
  | .name id =>
    discard next
    return id
  | _ => failure

def newline : Parser Unit := do
  match ← peek with
  | .newline => discard next
  | _ => failure

def indent : Parser Unit := do
  match ← peek with
  | .indent => discard next
  | _ => failure

def dedent : Parser Unit := do
  match ← peek with
  | .dedent => discard next
  | _ => failure

end Tokens

section Spans

def position : Parser (Nat × Nat) := do
  match (← get).rest with
  | token :: _ => return (token.line, token.column)
  | [] => failure

def spanFrom (start : Nat × Nat) : Parser Span := do
  return .known start.1 start.2 (← get).endLine

end Spans

section Repetition

def iterateFor (step : α → Parser α) : Nat → α → Cursor → α × Cursor
  | 0, value, here => (value, here)
  | fuel + 1, value, here =>
    match step value here with
    | some (value, here) => iterateFor step fuel value here
    | none => (value, here)

/-- Applies a step until it fails; each step takes a token, so there are no more than tokens. -/
def iterate (step : α → Parser α) (value : α) : Parser α :=
  fun here => some (iterateFor step here.size value here)

def many (item : Parser α) : Parser (List α) := do
  let found ← iterate (fun (items : List α) => return (← item) :: items) []
  return found.reverse

def many1 (item : Parser α) : Parser (List α) := do
  return (← item) :: (← many item)

def separated (mark : String) (item : Parser α) : Parser (List α) := do
  return (← item) :: (← many (symbol mark *> item))

def ahead (item : Parser α) : Parser α := do
  let here ← get
  let value ← item
  set here
  return value

end Repetition

end Parser

end RefactorAdvice.Code
