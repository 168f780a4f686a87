import RefactorAdvice.Code.Grammar.Expr
import RefactorAdvice.Code.Stmt

/-!
The grammar of `match` patterns. As with expressions, a rule is given the parser of the
patterns it nests.
-/

namespace RefactorAdvice.Code.Grammar

open Code.Parser

section Literals

def signedNumber : Parser (Expr × Constant) := do
  let start ← position
  let negative ← trySymbol "-"
  let inside ← position
  match ← peek with
  | .number value =>
    discard next
    let number := Expr.constant (← spanFrom inside) value
    if negative then return (.unary (← spanFrom start) .minus number, value)
    else return (number, value)
  | _ => failure

def isImaginary : Constant → Bool
  | .imaginary _ => true
  | _ => false

def joiningSign : Parser (Option BinaryOp) := do
  if ← trySymbol "+" then return some .add
  if ← trySymbol "-" then return some .sub
  return none

def numberLiteral : Parser Expr := do
  let start ← position
  let (left, value) ← signedNumber
  match ← joiningSign with
  | none => return left
  | some op =>
    let inside ← position
    match ← peek with
    | .number right =>
      discard next
      if isImaginary value || !isImaginary right then failure
      let imaginary := Expr.constant (← spanFrom inside) right
      return .binary (← spanFrom start) left op imaginary
    | _ => failure

def singleton? : Lexeme → Option Constant
  | .keyword "None" => some .none
  | .keyword "True" => some (.bool true)
  | .keyword "False" => some (.bool false)
  | _ => none

def dottedName (start : Nat × Nat) : Parser Expr := do
  let id ← name
  let first := Expr.name (← spanFrom start) id .load
  iterate (fun value => do
    symbol "."
    let attr ← name
    return .attribute (← spanFrom start) value attr .load) first

end Literals

section Rules

/-- A name that is bound. The underscore is none. -/
def captureName : Parser String := do
  let id ← name
  if id == "_" then failure
  match ← peek with
  | .symbol "." | .symbol "(" | .symbol "=" => failure
  | _ => return id

def starPattern : Parser Pattern := do
  let start ← position
  symbol "*"
  let id ← name
  return .star (← spanFrom start) (if id == "_" then none else some id)

def maybeStar (inner : Parser Pattern) : Parser Pattern := do
  if ← nextIsSymbol "*" then starPattern else inner

def parenPattern (inner : Parser Pattern) : Parser Pattern := do
  let start ← position
  symbol "("
  if ← trySymbol ")" then return .sequence (← spanFrom start) []
  let isStarred ← nextIsSymbol "*"
  let (items, commas) ← commaList (maybeStar inner)
  symbol ")"
  match items, commas || isStarred with
  | [item], false => return item
  | items, _ =>
    if commas then return .sequence (← spanFrom start) items else failure

def bracketPattern (inner : Parser Pattern) : Parser Pattern := do
  let start ← position
  symbol "["
  let items ← if ← nextIsSymbol "]" then pure [] else (·.1) <$> commaList (maybeStar inner)
  symbol "]"
  return .sequence (← spanFrom start) items

def patternKey (expr : Goal → Parser Expr) : Parser Expr := do
  let start ← position
  match ← peek with
  | .text _ => strings expr
  | .name _ =>
    match ← dottedName start with
    | .name .. => failure
    | key => return key
  | lexeme =>
    match singleton? lexeme with
    | some value =>
      discard next
      return .constant (← spanFrom start) value
    | none => numberLiteral

def mappingEntry (expr : Goal → Parser Expr) (inner : Parser Pattern) :
    Parser (Sum (Expr × Pattern) String) := do
  if ← trySymbol "**" then return .inr (← captureName)
  let key ← patternKey expr
  symbol ":"
  return .inl (key, ← inner)

def bracePattern (expr : Goal → Parser Expr) (inner : Parser Pattern) : Parser Pattern := do
  let start ← position
  symbol "\x7b"
  let entries ← if ← nextIsSymbol "\x7d" then pure []
    else (·.1) <$> commaList (mappingEntry expr inner)
  symbol "\x7d"
  let pairs := entries.filterMap fun
    | .inl pair => some pair
    | .inr _ => none
  let rest := entries.filterMap fun
    | .inl _ => none
    | .inr id => some id
  -- the left-over name comes once and last
  let lastIsRest := match entries.getLast? with
    | some (.inr _) => true
    | _ => false
  match rest with
  | [] => return .mapping (← spanFrom start) (pairs.map (·.1)) (pairs.map (·.2)) none
  | [id] =>
    if lastIsRest then
      return .mapping (← spanFrom start) (pairs.map (·.1)) (pairs.map (·.2)) (some id)
    else failure
  | _ => failure

def shapeEntry (inner : Parser Pattern) : Parser (Option String × Pattern) := do
  match ← peek, ← peekSecond with
  | .name id, .symbol "=" =>
    discard next
    discard next
    return (some id, ← inner)
  | _, _ => return (none, ← inner)

def shapePattern (inner : Parser Pattern) (start : Nat × Nat) (cls : Expr) : Parser Pattern := do
  symbol "("
  let entries ← if ← nextIsSymbol ")" then pure [] else (·.1) <$> commaList (shapeEntry inner)
  symbol ")"
  let byPosition := entries.takeWhile (·.1.isNone)
  let byName := entries.drop byPosition.length
  if byName.any (·.1.isNone) then failure
  return .shape (← spanFrom start) cls (byPosition.map (·.2)) (byName.filterMap (·.1))
    (byName.map (·.2))

def closedPattern (expr : Goal → Parser Expr) (inner : Parser Pattern) : Parser Pattern := do
  let start ← position
  match ← peek with
  | .symbol "(" => parenPattern inner
  | .symbol "[" => bracketPattern inner
  | .symbol "\x7b" => bracePattern expr inner
  | .text _ => do
    let value ← strings expr
    return .value (← spanFrom start) value
  | .name id =>
    let value ← dottedName start
    match ← peek with
    | .symbol "(" => shapePattern inner start value
    | .symbol "=" => failure
    | _ =>
      match value with
      | .name .. => return .bind (← spanFrom start) none (if id == "_" then none else some id)
      | _ => return .value (← spanFrom start) value
  | lexeme =>
    match singleton? lexeme with
    | some value =>
      discard next
      return .singleton (← spanFrom start) value
    | none =>
      let value ← numberLiteral
      return .value (← spanFrom start) value

def pattern (expr : Goal → Parser Expr) (inner : Parser Pattern) : Parser Pattern := do
  let start ← position
  let alternatives ← separated "|" (closedPattern expr inner)
  let either ← match alternatives with
    | [one] => pure one
    | several => do pure (Pattern.either (← spanFrom start) several)
  if ← tryKeyword "as" then
    let id ← captureName
    return .bind (← spanFrom start) (some either) (some id)
  return either

end Rules

def nestedPattern (expr : Goal → Parser Expr) : Nat → Parser Pattern
  | 0 => failure
  | depth + 1 => pattern expr (nestedPattern expr depth)

def casePatterns (expr : Goal → Parser Expr) (depth : Nat) : Parser Pattern := do
  let start ← position
  let isStarred ← nextIsSymbol "*"
  let (items, commas) ← commaList (maybeStar (nestedPattern expr depth))
  match items, commas with
  | [item], false => if isStarred then failure else return item
  | items, _ => return .sequence (← spanFrom start) items

end RefactorAdvice.Code.Grammar
