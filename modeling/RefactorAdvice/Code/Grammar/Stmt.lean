import RefactorAdvice.Code.Grammar.Pattern

/-!
The grammar of statements, and of a whole module. Text outside the grammar has none.

The language is that of its version 3.11, not of 3.12: a text with replacement fields is one token,
and there are neither type parameters nor `type` statements. Apart from the limits on brackets and
on indentation, constructs may nest to any depth; no stack runs out on the way.
-/

namespace RefactorAdvice.Code

namespace Grammar

open Code.Parser

section Simple

def atEnd : Parser Bool := do
  match ← peek with
  | .newline | .symbol ";" | .done => return true
  | _ => return false

def augmented? : Lexeme → Option BinaryOp
  | .symbol "+=" => some .add
  | .symbol "-=" => some .sub
  | .symbol "*=" => some .mult
  | .symbol "@=" => some .matMult
  | .symbol "/=" => some .div
  | .symbol "%=" => some .mod
  | .symbol "&=" => some .bitAnd
  | .symbol "|=" => some .bitOr
  | .symbol "^=" => some .bitXor
  | .symbol "<<=" => some .leftShift
  | .symbol ">>=" => some .rightShift
  | .symbol "**=" => some .pow
  | .symbol "//=" => some .floorDiv
  | _ => none

def assigned (expr : Goal → Parser Expr) : Parser Expr := do
  if ← nextIsKeyword "yield" then yieldExpr expr else expr .starExpressions

def assignChain (expr : Goal → Parser Expr) (first : Expr) : Parser (List Expr × Expr) := do
  let (places, value) ← iterate (fun ((places, value) : List Expr × Expr) => do
    symbol "="
    match asTarget .store value with
    | some place => return (place :: places, ← assigned expr)
    | none => failure) ([], first)
  return (places.reverse, value)

def assignStatement (expr : Goal → Parser Expr) (start : Nat × Nat) (value : Expr) :
    Parser Stmt := do
  let (places, value) ← assignChain expr value
  return .assign (← spanFrom start) places value

/-- An annotation of what was read; it is a simple one where that is a name without brackets. -/
def annotatedStatement (expr : Goal → Parser Expr) (start : Nat × Nat) (isName : Bool)
    (value : Expr) : Parser Stmt := do
  match asSingleTarget value with
  | none => failure
  | some place =>
    discard next
    let annotation ← expr .expression
    let given ← if ← trySymbol "=" then some <$> assigned expr else pure none
    let simple := match place with
      | .name .. => isName
      | _ => false
    return .annAssign (← spanFrom start) place annotation given simple

def augmentedStatement (expr : Goal → Parser Expr) (start : Nat × Nat) (value : Expr)
    (op : BinaryOp) : Parser Stmt := do
  match asSingleTarget value with
  | none => failure
  | some place =>
    discard next
    let operand ← assigned expr
    return .augAssign (← spanFrom start) place op operand

def expressionStatement (expr : Goal → Parser Expr) : Parser Stmt := do
  let start ← position
  if ← nextIsKeyword "yield" then
    let value ← yieldExpr expr
    return .expr (← spanFrom start) value
  let isName ← (do
    match ← peek with
    | .name _ => return true
    | _ => return false)
  let value ← expr .starExpressions
  let lexeme ← peek
  match lexeme with
  | .symbol "=" => assignStatement expr start value
  | .symbol ":" => annotatedStatement expr start isName value
  | _ =>
    match augmented? lexeme with
    | none => return .expr (← spanFrom start) value
    | some op => augmentedStatement expr start value op

def deleteStatement (expr : Goal → Parser Expr) (start : Nat × Nat) : Parser Stmt := do
  let (places, _) ← commaList (do
    match asTarget .del (← expr .primary) with
    | some place => return place
    | none => failure)
  if ← atEnd then return .delete (← spanFrom start) places else failure

def returnStatement (expr : Goal → Parser Expr) (start : Nat × Nat) : Parser Stmt := do
  let value ← if ← atEnd then pure none else some <$> expr .starExpressions
  return .ret (← spanFrom start) value

def raiseStatement (expr : Goal → Parser Expr) (start : Nat × Nat) : Parser Stmt := do
  if ← atEnd then return .raise (← spanFrom start) none none
  let exc ← expr .expression
  let cause ← if ← tryKeyword "from" then some <$> expr .expression else pure none
  return .raise (← spanFrom start) (some exc) cause

def assertStatement (expr : Goal → Parser Expr) (start : Nat × Nat) : Parser Stmt := do
  let test ← expr .expression
  let message ← if ← trySymbol "," then some <$> expr .expression else pure none
  return .assert (← spanFrom start) test message

/-- The names that a `global` or a `nonlocal` lists. -/
def namesStatement (build : Span → List String → Stmt) (start : Nat × Nat) : Parser Stmt := do
  let names ← separated "," name
  return build (← spanFrom start) names

end Simple

section Imports

def dottedText : Parser String := do
  return ".".intercalate (← separated "." name)

def asName : Parser (Option String) := do
  if ← tryKeyword "as" then some <$> name else pure none

def importName : Parser Alias := do
  let start ← position
  let id ← dottedText
  let other ← asName
  return ⟨← spanFrom start, id, other⟩

def fromName : Parser Alias := do
  let start ← position
  let id ← name
  let other ← asName
  return ⟨← spanFrom start, id, other⟩

def importStatement (start : Nat × Nat) : Parser Stmt := do
  let names ← separated "," importName
  return .imports (← spanFrom start) names

def importLevel : Parser Nat :=
  iterate (fun level => do
    match ← peek with
    | .symbol "." => discard next; return level + 1
    | .symbol "..." => discard next; return level + 3
    | _ => failure) 0

def importedNames : Parser (List Alias) := do
  let start ← position
  if ← trySymbol "*" then return [⟨← spanFrom start, "*", none⟩]
  if ← trySymbol "(" then
    let (names, _) ← commaList fromName
    symbol ")"
    return names
  separated "," fromName

def fromStatement (start : Nat × Nat) : Parser Stmt := do
  let level ← importLevel
  let module ← optional dottedText
  if level = 0 && module.isNone then failure
  keyword "import"
  let names ← importedNames
  return .importFrom (← spanFrom start) module names level

end Imports

section Lines

def simpleStatement (expr : Goal → Parser Expr) : Parser Stmt := do
  let start ← position
  match ← peek with
  | .keyword "return" =>
    discard next
    returnStatement expr start
  | .keyword "import" =>
    discard next
    importStatement start
  | .keyword "from" =>
    discard next
    fromStatement start
  | .keyword "raise" =>
    discard next
    raiseStatement expr start
  | .keyword "pass" =>
    discard next
    return .pass (← spanFrom start)
  | .keyword "break" =>
    discard next
    return .brk (← spanFrom start)
  | .keyword "continue" =>
    discard next
    return .cont (← spanFrom start)
  | .keyword "del" =>
    discard next
    deleteStatement expr start
  | .keyword "assert" =>
    discard next
    assertStatement expr start
  | .keyword "global" =>
    discard next
    namesStatement .global start
  | .keyword "nonlocal" =>
    discard next
    namesStatement .nonlocal start
  | _ => expressionStatement expr

def simpleLine (expr : Goal → Parser Expr) : Parser (List Stmt) := do
  let statements ← separated ";" (simpleStatement expr)
  discard (trySymbol ";")
  newline
  return statements

def block (expr : Goal → Parser Expr) (inner : Parser (List Stmt)) : Parser (List Stmt) := do
  match ← peek with
  | .newline =>
    newline
    indent
    let statements ← many1 inner
    dedent
    return statements.flatten
  | _ => simpleLine expr

def colonBlock (expr : Goal → Parser Expr) (inner : Parser (List Stmt)) :
    Parser (List Stmt) := do
  symbol ":"
  block expr inner

end Lines

section Compound

/-- The grammar's parameters: expressions, patterns nested up to a depth, nested statements. -/
structure Nested where
  expr : Goal → Parser Expr
  depth : Nat
  stmts : Parser (List Stmt)

def Nested.block (g : Nested) : Parser (List Stmt) := colonBlock g.expr g.stmts

def elseBlock (g : Nested) : Parser (List Stmt) := do
  if ← tryKeyword "else" then g.block else return []

/-- An `if` with its `elif` parts, each of which is the whole else part of the one before. -/
def ifStatement (g : Nested) : Parser Stmt := do
  let start ← position
  keyword "if"
  let test ← g.expr .named
  let body ← g.block
  let others ← many (do
    let start ← position
    keyword "elif"
    let test ← g.expr .named
    return (start, test, ← g.block))
  let last ← elseBlock g
  let endLine := (← get).endLine
  let span (start : Nat × Nat) : Span := .known start.1 start.2 endLine
  let orelse := others.foldr
    (fun (start, test, body) orelse => [Stmt.ifElse (span start) test body orelse]) last
  return .ifElse (span start) test body orelse

def whileStatement (g : Nested) : Parser Stmt := do
  let start ← position
  keyword "while"
  let test ← g.expr .named
  let body ← g.block
  let orelse ← elseBlock g
  return .whileLoop (← spanFrom start) test body orelse

def forStatement (g : Nested) (start : Nat × Nat) (isAsync : Bool) : Parser Stmt := do
  keyword "for"
  let place ← targets g.expr
  keyword "in"
  let iter ← g.expr .starExpressions
  let body ← g.block
  let orelse ← elseBlock g
  return .forLoop (← spanFrom start) isAsync place iter body orelse

def withItem (g : Nested) : Parser WithItem := do
  let context ← g.expr .expression
  if ← tryKeyword "as" then
    let place ← target g.expr
    match ← peek with
    | .symbol "," | .symbol ")" | .symbol ":" => return ⟨context, some place⟩
    | _ => failure
  else return ⟨context, none⟩

def withItems (g : Nested) : Parser (List WithItem) :=
  (do
    symbol "("
    let (items, _) ← commaList (withItem g)
    symbol ")"
    if ← nextIsSymbol ":" then return items else failure) <|> separated "," (withItem g)

def withStatement (g : Nested) (start : Nat × Nat) (isAsync : Bool) : Parser Stmt := do
  keyword "with"
  let items ← withItems g
  let body ← g.block
  return .withBlock (← spanFrom start) isAsync items body

def handler (g : Nested) : Parser (Handler Stmt × Bool) := do
  let start ← position
  keyword "except"
  let isStar ← trySymbol "*"
  if !isStar && (← nextIsSymbol ":") then
    let body ← g.block
    return (⟨← spanFrom start, none, none, body⟩, false)
  let type ← g.expr .expression
  let id ← asName
  let body ← g.block
  return (⟨← spanFrom start, some type, id, body⟩, isStar)

def tryStatement (g : Nested) : Parser Stmt := do
  let start ← position
  keyword "try"
  let body ← g.block
  let handlers ← many (handler g)
  let isStar := handlers.any (·.2)
  if isStar && handlers.any (!·.2) then failure
  let orelse ← if handlers.isEmpty then pure [] else elseBlock g
  let finalbody ← if ← tryKeyword "finally" then g.block else pure []
  if handlers.isEmpty && finalbody.isEmpty then failure
  return .tryBlock (← spanFrom start) isStar body (handlers.map (·.1)) orelse finalbody

def functionStatement (g : Nested) (start : Nat × Nat) (isAsync : Bool)
    (decorators : List Expr) : Parser Stmt := do
  keyword "def"
  let id ← name
  symbol "("
  let params ← parameters g.expr true ")"
  symbol ")"
  let returns ← if ← trySymbol "->" then some <$> g.expr .expression else pure none
  let body ← g.block
  return .function (← spanFrom start) isAsync id params body decorators returns

def classStatement (g : Nested) (decorators : List Expr) : Parser Stmt := do
  let start ← position
  keyword "class"
  let id ← name
  let given ← if ← trySymbol "(" then do
      let found ← arguments g.expr
      symbol ")"
      pure found
    else pure ⟨.plain, [], []⟩
  let body ← g.block
  return .cls (← spanFrom start) id given.args given.keywords body decorators

def definition (g : Nested) (decorators : List Expr) : Parser Stmt := do
  let start ← position
  match ← peek with
  | .keyword "class" => classStatement g decorators
  | .keyword "async" =>
    discard next
    functionStatement g start true decorators
  | _ => functionStatement g start false decorators

def decorated (g : Nested) : Parser Stmt := do
  let decorators ← many1 (do
    symbol "@"
    let value ← g.expr .named
    newline
    return value)
  definition g decorators

def matchSubject (g : Nested) : Parser Expr := do
  let start ← position
  let isStarred ← nextIsSymbol "*"
  let first ← starOr g.expr .named
  if ← trySymbol "," then
    let more ← if ← nextIsSymbol ":" then pure []
      else (·.1) <$> commaList (starOr g.expr .named)
    return .tuple (← spanFrom start) (first :: more) .load
  if isStarred then failure else return first

def softWord (word : String) : Parser Unit := do
  if (← name) == word then return () else failure

def matchCase (g : Nested) : Parser (MatchCase Stmt) := do
  softWord "case"
  let found ← casePatterns g.expr g.depth
  let guard ← if ← tryKeyword "if" then some <$> g.expr .named else pure none
  let body ← g.block
  return ⟨found, guard, body⟩

def matchStatement (g : Nested) : Parser Stmt := do
  let start ← position
  softWord "match"
  let subject ← matchSubject g
  symbol ":"
  newline
  indent
  let cases ← many1 (matchCase g)
  dedent
  return .matchOn (← spanFrom start) subject cases

/-- A statement of any kind. Only `match` can also begin an expression. -/
def statement (g : Nested) : Parser (List Stmt) := do
  let start ← position
  let one (found : Parser Stmt) : Parser (List Stmt) := return [← found]
  match ← peek with
  | .keyword "if" => one (ifStatement g)
  | .keyword "while" => one (whileStatement g)
  | .keyword "for" => one (forStatement g start false)
  | .keyword "with" => one (withStatement g start false)
  | .keyword "try" => one (tryStatement g)
  | .keyword "def" | .keyword "class" => one (definition g [])
  | .symbol "@" => one (decorated g)
  | .keyword "async" =>
    match ← peekSecond with
    | .keyword "for" => discard next; one (forStatement g start true)
    | .keyword "with" => discard next; one (withStatement g start true)
    | _ => one (definition g [])
  | .name "match" => one (matchStatement g) <|> simpleLine g.expr
  | _ => simpleLine g.expr

end Compound

def nestedStatement (expr : Goal → Parser Expr) (patternDepth : Nat) :
    Nat → Parser (List Stmt)
  | 0 => failure
  | depth + 1 => statement ⟨expr, patternDepth, nestedStatement expr patternDepth depth⟩

def wholeModule (depth : Nat) : Parser Module := do
  let statements ← many (nestedStatement (nested depth) depth depth)
  match ← peek with
  | .done => return ⟨statements.flatten⟩
  | _ => failure

end Grammar

/-- The module a text spells. Nothing in it nests deeper than it has characters. -/
def parse (names : CharNames) (cs : List Char) : Option Module := do
  let found ← tokens cs
  let (module, _) ← (Grammar.wholeModule (cs.length + 2)).run (.start names found 1)
  return module

end RefactorAdvice.Code
