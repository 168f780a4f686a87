import RefactorAdvice.Code.Grammar.Text

/-!
The grammar of expressions. Each rule is a parser that is given the parsers of the goals it
nests (`inner`); the knot is tied at the end by the depth of nesting, which no text exceeds.
-/

namespace RefactorAdvice.Code

/-- Kinds of expressions that occur inside others. -/
inductive Goal where
  | expression
  | named
  | starExpressions
  | disjunction
  | inversion
  | bitwiseOr
  | factor
  | primary

namespace Grammar

open Code.Parser

section Targets

mutual
def asTarget (usage : Usage) : Expr → Option Expr
  | .name span id _ => some (.name span id usage)
  | .attribute span value attr _ => some (.attribute span value attr usage)
  | .subscript span value slice _ => some (.subscript span value slice usage)
  | .tuple span elements _ => (asTargets usage elements).map (.tuple span · usage)
  | .list span elements _ => (asTargets usage elements).map (.list span · usage)
  | .starred span value _ =>
    if usage = .store then (asTarget usage value).map (.starred span · usage) else none
  | _ => none

def asTargets (usage : Usage) : List Expr → Option (List Expr)
  | [] => some []
  | e :: rest => do return (← asTarget usage e) :: (← asTargets usage rest)
end

def asSingleTarget : Expr → Option Expr
  | .name span id _ => some (.name span id .store)
  | .attribute span value attr _ => some (.attribute span value attr .store)
  | .subscript span value slice _ => some (.subscript span value slice .store)
  | _ => none

end Targets

section Lists

def commaList (item : Parser α) : Parser (List α × Bool) := do
  let first ← item
  let rest ← many (symbol "," *> item)
  let trailing ← trySymbol ","
  return (first :: rest, trailing || !rest.isEmpty)

end Lists

section Stars

def starOr (inner : Goal → Parser Expr) (goal : Goal) : Parser Expr := do
  let start ← position
  if ← trySymbol "*" then
    let value ← inner .bitwiseOr
    return .starred (← spanFrom start) value .load
  else inner goal

def starExpressions (inner : Goal → Parser Expr) : Parser Expr := do
  let start ← position
  let (items, commas) ← commaList (starOr inner .expression)
  match items, commas with
  | [item], false => return item
  | items, _ => return .tuple (← spanFrom start) items .load

def yieldExpr (inner : Goal → Parser Expr) : Parser Expr := do
  let start ← position
  keyword "yield"
  if ← tryKeyword "from" then
    let value ← inner .expression
    return .yieldFrom (← spanFrom start) value
  let value ← optional (inner .starExpressions)
  return .yield (← spanFrom start) value

end Stars

section Parameters

inductive Entry where
  | plain (parameter : Parameter Expr) (default : Option Expr)
  | slash
  | star
  | variadic (parameter : Parameter Expr)
  | keywordVariadic (parameter : Parameter Expr)

def parameter (inner : Goal → Parser Expr) (annotated starry : Bool) : Parser (Parameter Expr) := do
  let start ← position
  let id ← name
  if annotated then
    if ← trySymbol ":" then
      let annotation ← if starry then starOr inner .expression else inner .expression
      return ⟨← spanFrom start, id, some annotation⟩
  return ⟨← spanFrom start, id, none⟩

def entry (inner : Goal → Parser Expr) (annotated : Bool) : Parser Entry := do
  if ← trySymbol "/" then return .slash
  if ← trySymbol "**" then return .keywordVariadic (← parameter inner annotated false)
  if ← trySymbol "*" then
    match ← peek with
    | .name _ => return .variadic (← parameter inner annotated true)
    | _ => return .star
  let parameter ← parameter inner annotated false
  if ← trySymbol "=" then return .plain parameter (some (← inner .expression))
  return .plain parameter none

def keywordEntries (done : Parameters Expr) : List Entry → Option (Parameters Expr)
  | [] => some done
  | [.keywordVariadic p] => some { done with keywordVariadic := some p }
  | .plain p default :: rest =>
    keywordEntries { done with
      keywordOnly := done.keywordOnly ++ [p]
      keywordDefaults := done.keywordDefaults ++ [default] } rest
  | _ => none

/--
Positional parameters and what follows them. A parameter without a default may not stand
after one with a default, and a slash stands once, after a parameter.
-/
def positionalEntries (slashed : Bool) (done : Parameters Expr) :
    List Entry → Option (Parameters Expr)
  | .plain p default :: rest =>
    match default with
    | none =>
      if done.defaults.isEmpty then
        positionalEntries slashed { done with regular := done.regular ++ [p] } rest
      else none
    | some value =>
      positionalEntries slashed { done with
        regular := done.regular ++ [p]
        defaults := done.defaults ++ [value] } rest
  | .slash :: rest =>
    if slashed || done.regular.isEmpty then none
    else positionalEntries true { done with positionalOnly := done.regular, regular := [] } rest
  | .variadic p :: rest => keywordEntries { done with variadic := some p } rest
  | .star :: .plain p default :: rest => keywordEntries done (.plain p default :: rest)
  | .star :: _ => none
  | [.keywordVariadic p] => some { done with keywordVariadic := some p }
  | .keywordVariadic _ :: _ => none
  | [] => some done

def noParameters : Parameters Expr := ⟨[], [], none, [], [], none, []⟩

def parameters (inner : Goal → Parser Expr) (annotated : Bool) (ending : String) :
    Parser (Parameters Expr) := do
  if ← nextIsSymbol ending then return noParameters
  let (entries, _) ← commaList (entry inner annotated)
  match positionalEntries false noParameters entries with
  | some found => return found
  | none => failure

end Parameters

section Clauses

def target (inner : Goal → Parser Expr) : Parser Expr := do
  let start ← position
  let starred ← trySymbol "*"
  let place ← inner .primary
  match asTarget .store place with
  | some place =>
    if starred then return .starred (← spanFrom start) place .store else return place
  | none => failure

def targets (inner : Goal → Parser Expr) : Parser Expr := do
  let start ← position
  let (items, commas) ← commaList (target inner)
  match items, commas with
  | [item], false => return item
  | items, _ => return .tuple (← spanFrom start) items .store

def clause (inner : Goal → Parser Expr) : Parser (Clause Expr) := do
  let isAsync ← tryKeyword "async"
  keyword "for"
  let place ← targets inner
  keyword "in"
  let iter ← inner .disjunction
  let conditions ← many (keyword "if" *> inner .disjunction)
  return ⟨place, iter, conditions, isAsync⟩

def clauses (inner : Goal → Parser Expr) : Parser (List (Clause Expr)) :=
  many1 (clause inner)

def nextIsClause : Parser Bool := do
  return (← nextIsKeyword "for") || (← nextIsKeyword "async")

end Clauses

section Atoms

/-- Whether an assignment expression without parentheses starts here. -/
def nextIsNamed : Parser Bool := do
  match ← peek, ← peekSecond with
  | .name _, .symbol ":=" => return true
  | _, _ => return false

def parenthesized (inner : Goal → Parser Expr) : Parser Expr := do
  let start ← position
  symbol "("
  if ← trySymbol ")" then return .tuple (← spanFrom start) [] .load
  if ← nextIsKeyword "yield" then
    let value ← yieldExpr inner
    symbol ")"
    return value
  let isStarred ← nextIsSymbol "*"
  let first ← starOr inner .named
  if ← trySymbol "," then
    let more ← if ← nextIsSymbol ")" then pure [] else (·.1) <$> commaList (starOr inner .named)
    symbol ")"
    return .tuple (← spanFrom start) (first :: more) .load
  if isStarred then failure
  if ← nextIsClause then
    let found ← clauses inner
    symbol ")"
    return .generator (← spanFrom start) first found
  symbol ")"
  return first

def bracketed (inner : Goal → Parser Expr) : Parser Expr := do
  let start ← position
  symbol "["
  if ← trySymbol "]" then return .list (← spanFrom start) [] .load
  let isStarred ← nextIsSymbol "*"
  let first ← starOr inner .named
  if !isStarred && (← nextIsClause) then
    let found ← clauses inner
    symbol "]"
    return .listComp (← spanFrom start) first found
  let more ← many (symbol "," *> starOr inner .named)
  discard (trySymbol ",")
  symbol "]"
  return .list (← spanFrom start) (first :: more) .load

def dictEntry (inner : Goal → Parser Expr) : Parser (Option Expr × Expr) := do
  if ← trySymbol "**" then return (none, ← inner .bitwiseOr)
  let key ← inner .expression
  symbol ":"
  return (some key, ← inner .expression)

def setRest (inner : Goal → Parser Expr) (start : Nat × Nat)
    (isStarred : Bool) (first : Expr) : Parser Expr := do
  if !isStarred && (← nextIsClause) then
    let found ← clauses inner
    symbol "\x7d"
    return .setComp (← spanFrom start) first found
  let more ← many (symbol "," *> starOr inner .named)
  discard (trySymbol ",")
  symbol "\x7d"
  return .set (← spanFrom start) (first :: more)

def dictRest (inner : Goal → Parser Expr) (start : Nat × Nat)
    (key : Option Expr) (value : Expr) : Parser Expr := do
  match key, ← nextIsClause with
  | some key, true =>
    let found ← clauses inner
    symbol "\x7d"
    return .dictComp (← spanFrom start) key value found
  | _, _ =>
    let more ← many (symbol "," *> dictEntry inner)
    discard (trySymbol ",")
    symbol "\x7d"
    let entries := (key, value) :: more
    return .dict (← spanFrom start) (entries.map (·.1)) (entries.map (·.2))

def braced (inner : Goal → Parser Expr) : Parser Expr := do
  let start ← position
  symbol "\x7b"
  if ← trySymbol "\x7d" then return .dict (← spanFrom start) [] []
  if ← nextIsSymbol "**" then
    let (key, value) ← dictEntry inner
    dictRest inner start key value
  else if ← nextIsSymbol "*" then
    let first ← starOr inner .named
    setRest inner start true first
  else
    if ← nextIsNamed then
      let first ← inner .named
      setRest inner start false first
    else
      let first ← inner .expression
      if ← trySymbol ":" then
        let value ← inner .expression
        dictRest inner start (some first) value
      else setRest inner start false first

def strings (inner : Goal → Parser Expr) : Parser Expr := do
  let literals ← many1 (do
    match ← peek with
    | .text literal => return (← next, literal)
    | _ => failure)
  match literalExpr (inner .starExpressions) (← get).names literals with
  | some value => return value
  | none => failure

def atom (inner : Goal → Parser Expr) : Parser Expr := do
  let start ← position
  let constant (value : Constant) : Parser Expr := do
    discard next
    return .constant (← spanFrom start) value
  match ← peek with
  | .name id =>
    discard next
    return .name (← spanFrom start) id .load
  | .number value => constant value
  | .text _ => strings inner
  | .keyword "True" => constant (.bool true)
  | .keyword "False" => constant (.bool false)
  | .keyword "None" => constant .none
  | .symbol "..." => constant .ellipsis
  | .symbol "(" => parenthesized inner
  | .symbol "[" => bracketed inner
  | .symbol "\x7b" => braced inner
  | _ => failure

end Atoms

section Calls

/-- How far an argument list has come: keywords end the plain arguments, `**` the starred ones. -/
inductive Stage where
  | plain | keywords | unpacked
deriving DecidableEq

structure Arguments where
  stage : Stage
  args : List Expr
  keywords : List (Keyword Expr)

def argument (inner : Goal → Parser Expr) (done : Arguments) : Parser Arguments := do
  let start ← position
  if ← trySymbol "**" then
    let value ← inner .expression
    let unpacked : Keyword Expr := ⟨← spanFrom start, none, value⟩
    return { done with stage := .unpacked, keywords := done.keywords ++ [unpacked] }
  if ← trySymbol "*" then
    if done.stage = .unpacked then failure
    let value ← inner .expression
    let spread := Expr.starred (← spanFrom start) value .load
    return { done with args := done.args ++ [spread] }
  match ← peek, ← peekSecond with
  | .name id, .symbol "=" =>
    discard next
    discard next
    let value ← inner .expression
    let given : Keyword Expr := ⟨← spanFrom start, some id, value⟩
    return { done with
      stage := if done.stage = .plain then .keywords else done.stage
      keywords := done.keywords ++ [given] }
  | _, _ =>
    if done.stage = .plain then
      let value ← inner .named
      return { done with args := done.args ++ [value] }
    else failure

def moreArguments (inner : Goal → Parser Expr) (first : Arguments) : Parser Arguments := do
  let all ← iterate (fun done => do
    symbol ","
    argument inner done) first
  discard (trySymbol ",")
  return all

def arguments (inner : Goal → Parser Expr) : Parser Arguments := do
  if ← nextIsSymbol ")" then return ⟨.plain, [], []⟩
  moreArguments inner (← argument inner ⟨.plain, [], []⟩)

def callRest (inner : Goal → Parser Expr) (start : Nat × Nat) (func : Expr) : Parser Expr := do
  let opening ← position
  symbol "("
  let finish (found : Arguments) : Parser Expr := do
    symbol ")"
    return .call (← spanFrom start) func found.args found.keywords
  if ← nextIsSymbol ")" then finish ⟨.plain, [], []⟩
  else
    let first ← argument inner ⟨.plain, [], []⟩
    match first.args, ← nextIsClause with
    | [.starred ..], true => failure
    | [value], true =>
      let found ← clauses inner
      symbol ")"
      let generator := Expr.generator (← spanFrom opening) value found
      return .call (← spanFrom start) func [generator] []
    | _, _ => finish (← moreArguments inner first)

end Calls

section Subscripts

def index (inner : Goal → Parser Expr) : Parser (Expr × Bool) := do
  let start ← position
  if ← trySymbol "*" then
    let value ← inner .expression
    return (.starred (← spanFrom start) value .load, true)
  let bound : Parser (Option Expr) := do
    match ← peek with
    | .symbol ":" | .symbol "," | .symbol "]" => return none
    | _ => return some (← inner .expression)
  let sliceFrom (lower : Option Expr) : Parser (Expr × Bool) := do
    symbol ":"
    let upper ← bound
    let step ← if ← trySymbol ":" then bound else pure none
    return (.slice (← spanFrom start) lower upper step, false)
  if ← nextIsSymbol ":" then sliceFrom none
  else if ← nextIsNamed then return (← inner .named, false)
  else
    let value ← inner .expression
    if ← nextIsSymbol ":" then sliceFrom (some value) else return (value, false)

def subscriptRest (inner : Goal → Parser Expr) (start : Nat × Nat) (value : Expr) :
    Parser Expr := do
  symbol "["
  let inside ← position
  let (items, commas) ← commaList (index inner)
  let slice ← match items, commas with
    | [(item, false)], false => pure item
    | items, _ => do pure (Expr.tuple (← spanFrom inside) (items.map (·.1)) .load)
  symbol "]"
  return .subscript (← spanFrom start) value slice .load

end Subscripts

section Operators

def primary (inner : Goal → Parser Expr) : Parser Expr := do
  let start ← position
  let first ← atom inner
  iterate (fun value => do
    match ← peek with
    | .symbol "." =>
      discard next
      let attr ← name
      return .attribute (← spanFrom start) value attr .load
    | .symbol "(" => callRest inner start value
    | .symbol "[" => subscriptRest inner start value
    | _ => failure) first

def power (inner : Goal → Parser Expr) : Parser Expr := do
  let start ← position
  let base ← if ← tryKeyword "await" then do
      let value ← primary inner
      pure (Expr.await (← spanFrom start) value)
    else primary inner
  if ← trySymbol "**" then
    let exponent ← inner .factor
    return .binary (← spanFrom start) base .pow exponent
  return base

def factor (inner : Goal → Parser Expr) : Parser Expr := do
  let start ← position
  let signed (op : UnaryOp) : Parser Expr := do
    discard next
    let operand ← inner .factor
    return .unary (← spanFrom start) op operand
  match ← peek with
  | .symbol "+" => signed .plus
  | .symbol "-" => signed .minus
  | .symbol "~" => signed .invert
  | _ => power inner

def leftChain (operators : List (String × BinaryOp)) (operand : Parser Expr) : Parser Expr := do
  let start ← position
  let first ← operand
  iterate (fun left => do
    match ← peek with
    | .symbol s =>
      match operators.lookup s with
      | some op =>
        discard next
        let right ← operand
        return .binary (← spanFrom start) left op right
      | none => failure
    | _ => failure) first

def term (inner : Goal → Parser Expr) : Parser Expr :=
  leftChain [("*", .mult), ("/", .div), ("//", .floorDiv), ("%", .mod), ("@", .matMult)]
    (factor inner)

def sum (inner : Goal → Parser Expr) : Parser Expr :=
  leftChain [("+", .add), ("-", .sub)] (term inner)

def shift (inner : Goal → Parser Expr) : Parser Expr :=
  leftChain [("<<", .leftShift), (">>", .rightShift)] (sum inner)

def bitwiseAnd (inner : Goal → Parser Expr) : Parser Expr :=
  leftChain [("&", .bitAnd)] (shift inner)

def bitwiseXor (inner : Goal → Parser Expr) : Parser Expr :=
  leftChain [("^", .bitXor)] (bitwiseAnd inner)

def bitwiseOr (inner : Goal → Parser Expr) : Parser Expr :=
  leftChain [("|", .bitOr)] (bitwiseXor inner)

def compareOp : Parser CompareOp := do
  match ← peek, ← peekSecond with
  | .symbol "==", _ => discard next; return .eq
  | .symbol "!=", _ => discard next; return .notEq
  | .symbol "<", _ => discard next; return .less
  | .symbol "<=", _ => discard next; return .lessEq
  | .symbol ">", _ => discard next; return .greater
  | .symbol ">=", _ => discard next; return .greaterEq
  | .keyword "in", _ => discard next; return .member
  | .keyword "not", .keyword "in" => discard next; discard next; return .notMember
  | .keyword "is", .keyword "not" => discard next; discard next; return .notSame
  | .keyword "is", _ => discard next; return .same
  | _, _ => failure

def comparison (inner : Goal → Parser Expr) : Parser Expr := do
  let start ← position
  let left ← bitwiseOr inner
  let rest ← many (do
    let op ← compareOp
    return (op, ← bitwiseOr inner))
  if rest.isEmpty then return left
  return .compare (← spanFrom start) left (rest.map (·.1)) (rest.map (·.2))

def inversion (inner : Goal → Parser Expr) : Parser Expr := do
  let start ← position
  if ← tryKeyword "not" then
    let operand ← inner .inversion
    return .unary (← spanFrom start) .not operand
  comparison inner

def boolChain (word : String) (op : BoolOp) (operand : Parser Expr) : Parser Expr := do
  let start ← position
  let first ← operand
  let rest ← many (keyword word *> operand)
  if rest.isEmpty then return first
  return .boolOp (← spanFrom start) op (first :: rest)

def disjunction (inner : Goal → Parser Expr) : Parser Expr :=
  boolChain "or" .or (boolChain "and" .and (inversion inner))

def lambda (inner : Goal → Parser Expr) : Parser Expr := do
  let start ← position
  keyword "lambda"
  let params ← parameters inner false ":"
  symbol ":"
  let body ← inner .expression
  return .lambda (← spanFrom start) params body

def expression (inner : Goal → Parser Expr) : Parser Expr := do
  if ← nextIsKeyword "lambda" then lambda inner
  else
    let start ← position
    let body ← disjunction inner
    (do
      keyword "if"
      let test ← inner .disjunction
      keyword "else"
      let orelse ← inner .expression
      return .conditional (← spanFrom start) test body orelse) <|> pure body

def named (inner : Goal → Parser Expr) : Parser Expr := do
  if ← nextIsNamed then
    let start ← position
    let id ← name
    let place := Expr.name (← spanFrom start) id .store
    symbol ":="
    let value ← inner .expression
    return .named (← spanFrom start) place value
  let value ← expression inner
  if ← nextIsSymbol ":=" then failure
  return value

end Operators

def level (inner : Goal → Parser Expr) : Goal → Parser Expr
  | .expression => expression inner
  | .named => named inner
  | .starExpressions => starExpressions inner
  | .disjunction => disjunction inner
  | .inversion => inversion inner
  | .bitwiseOr => bitwiseOr inner
  | .factor => factor inner
  | .primary => primary inner

def nested : Nat → Goal → Parser Expr
  | 0, _ => failure
  | depth + 1, goal => level (nested depth) goal

end Grammar

end RefactorAdvice.Code
