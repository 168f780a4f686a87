import RefactorAdvice.Code.Cursor
import RefactorAdvice.Code.Escape

/-!
String literals as expressions. Adjacent literals join; a literal with replacement fields
becomes a joined text whose fields are expressions with their own places in the source.
-/

namespace RefactorAdvice.Code

inductive Piece where
  | text (codes : List Nat)
  | field (value : Expr)

section Pieces

def joinTexts : List Piece → List Piece
  | [] => []
  | .field e :: rest => .field e :: joinTexts rest
  | .text codes :: rest =>
    match joinTexts rest with
    | .text more :: rest => .text (codes ++ more) :: rest
    | rest => if codes.isEmpty then rest else .text codes :: rest

structure Stamp where
  span : Span
  marked : Bool

def pieceExprs (stamp lastStamp : Stamp) : List Piece → List Expr
  | [] => []
  | [.text codes] => [.constant lastStamp.span (.text codes lastStamp.marked)]
  | .text codes :: rest =>
    .constant stamp.span (.text codes stamp.marked) :: pieceExprs stamp lastStamp rest
  | .field e :: rest => e :: pieceExprs stamp lastStamp rest

end Pieces

section Fields

structure Reading where
  rest : List Char
  line : Nat
  column : Nat

def Reading.skip (r : Reading) (taken : List Char) (rest : List Char) : Reading :=
  let (line, column) := advance r.line r.column taken
  ⟨rest, line, column⟩

structure Stretch where
  taken : List Char
  rest : List Char
  doubled : Bool

def endStretch (outermost : Bool) (taken : List Char) (brace : Char) (rest : List Char) :
    Option Stretch :=
  if outermost then
    if rest.head? == some brace then some ⟨(brace :: taken).reverse, rest.drop 1, true⟩
    else if brace == '\x7d' then none
    else some ⟨taken.reverse, brace :: rest, false⟩
  else some ⟨taken.reverse, brace :: rest, false⟩

def isBrace (c : Char) : Bool := c == '\x7b' || c == '\x7d'

/--
Text up to the next brace. At the outermost level a doubled brace stands for one, and a
closing brace alone is refused. The braces of a character name (`inName`) belong to its
escape.
-/
def stretch (raw outermost inName : Bool) (taken : List Char) : List Char → Option Stretch
  | [] => some ⟨taken.reverse, [], false⟩
  | '\\' :: c :: rest =>
    if inName then stretch raw outermost true ('\\' :: taken) (c :: rest)
    else if raw then stretch raw outermost false ('\\' :: taken) (c :: rest)
    else if c == 'N' then
      stretch raw outermost (rest.head? == some '\x7b') (c :: '\\' :: taken) rest
    else if isBrace c then endStretch outermost ('\\' :: taken) c rest
    else stretch raw outermost false (c :: '\\' :: taken) rest
  | c :: rest =>
    if inName then stretch raw outermost (c != '\x7d') (c :: taken) rest
    else if isBrace c then endStretch outermost taken c rest
    else stretch raw outermost false (c :: taken) rest

def isFieldMark (c : Char) : Bool :=
  c == '!' || c == ':' || c == '\x7d' || c == '=' || c == '<' || c == '>'

structure OpenQuote where
  quote : Char
  long : Bool

/--
The expression of a replacement field, up to the `!`, `:`, `=` or brace that ends it outside
of brackets and strings. No backslash and no comment may stand in it. `skip` counts
characters already looked at.
-/
def fieldRun (taken : List Char) (skip : Nat) (inside : Option OpenQuote) (brackets : List Char) :
    List Char → Option (List Char × List Char)
  | [] => none
  | c :: rest =>
    if 0 < skip then fieldRun (c :: taken) (skip - 1) inside brackets rest
    else if c == '\\' then none
    else
      let tripled := rest.take 2 == [c, c]
      match inside with
      | some string =>
        if c == string.quote then
          if string.long then
            if tripled then fieldRun (c :: taken) 2 none brackets rest
            else fieldRun (c :: taken) 0 inside brackets rest
          else fieldRun (c :: taken) 0 none brackets rest
        else fieldRun (c :: taken) 0 inside brackets rest
      | none =>
        if c == '\'' || c == '"' then
          fieldRun (c :: taken) (if tripled then 2 else 0) (some ⟨c, tripled⟩) brackets rest
        else if c == '(' || c == '[' || c == '\x7b' then
          if bracketLimit ≤ brackets.length then none
          else fieldRun (c :: taken) 0 none (c :: brackets) rest
        else if c == '#' then none
        else if brackets.isEmpty && isFieldMark c then
          if rest.head? == some '=' && c != ':' && c != '\x7d' then
            fieldRun (c :: taken) 1 none brackets rest
          else if c == '<' || c == '>' then fieldRun (c :: taken) 0 none brackets rest
          else some (taken.reverse, c :: rest)
        else if c == ')' || c == ']' || c == '\x7d' then
          match brackets with
          | opening :: outer =>
            if closes opening c then fieldRun (c :: taken) 0 none outer rest else none
          | [] => none
        else fieldRun (c :: taken) 0 none brackets rest

def isPlainSpace (c : Char) : Bool :=
  c == ' ' || c == '\t' || c == '\n' || c == '\x0c' || c == '\r' || c == '\x0b'

def parseField (expression : Parser Expr) (names : CharNames) (r : Reading) (body : List Char) :
    Option Expr :=
  if body.all fun c => c == ' ' || c == '\t' || c == '\n' || c == '\x0c' then none
  else do
    let tokens ← tokensAt ⟨r.line, r.column⟩ ('(' :: body ++ [')'])
    let (value, _) ← expression.run (.start names tokens r.line)
    return value

structure JoinedContext where
  expression : Parser Expr
  names : CharNames
  whole : Span
  literal : Span
  raw : Bool
  marked : Bool

def conversionPart (r : Reading) : Option (Option Char × Reading) :=
  match r.rest with
  | '!' :: c :: rest =>
    if c == 's' || c == 'r' || c == 'a' then some (some c, r.skip ['!', c] rest) else none
  | '!' :: [] => none
  | _ => some (none, r)

/--
One replacement field, the reading standing on its brace. `spec` reads a format
specification. The text of a self-describing field precedes it.
-/
def replacement (ctx : JoinedContext) (spec : Reading → Option (List Piece × Reading))
    (r : Reading) : Option (List Piece × Reading) := do
  let start := r.rest.drop 1
  let (body, rest) ← fieldRun [] 0 none [] start
  let value ← parseField ctx.expression ctx.names r body
  let after := r.skip ('\x7b' :: body) rest
  let (shown, after) := match after.rest with
    | '=' :: more =>
      let blanks := more.takeWhile isPlainSpace
      let rest := more.drop blanks.length
      (some (body ++ '=' :: blanks), after.skip ('=' :: blanks) rest)
    | _ => (none, after)
  let (conversion, after) ← conversionPart after
  let (format, after) ← match after.rest with
    | ':' :: rest => do
      if rest.isEmpty then none
      let (pieces, after) ← spec (after.skip [':'] rest)
      let values := pieceExprs ⟨ctx.whole, ctx.marked⟩ ⟨ctx.literal, false⟩ (joinTexts pieces)
      pure (some (Expr.joined ctx.literal values), after)
    | _ => pure (none, after)
  match after.rest with
  | '\x7d' :: rest =>
    let conversion :=
      if shown.isSome && format.isNone && conversion.isNone then some 'r' else conversion
    let text : List Piece := match shown with
      | some cs => [.text (cs.map (·.toNat))]
      | none => []
    some (text ++ [.field (.formatted ctx.whole value conversion format)],
      after.skip ['\x7d'] rest)
  | _ => none

/--
The pieces of a joined text. Fields nest one level deep: a format specification may hold
fields whose own specification holds none. `fuel` is the number of characters.
-/
def joinedPieces (ctx : JoinedContext) : Nat → Nat → Reading → Option (List Piece × Reading)
  | 0, _, _ => none
  | fuel + 1, level, r => do
    let run ← stretch ctx.raw (level == 0) false [] r.rest
    let codes ← decodeText ctx.names ctx.raw run.taken
    let taken := if run.doubled then run.taken ++ ['\x7d'] else run.taken
    let after := r.skip taken run.rest
    if run.doubled then
      let (pieces, after) ← joinedPieces ctx fuel level after
      return (.text codes :: pieces, after)
    match after.rest with
    | '\x7b' :: _ =>
      if 2 ≤ level then none
      let (field, after) ← replacement ctx (joinedPieces ctx fuel (level + 1)) after
      let (pieces, after) ← joinedPieces ctx fuel level after
      return (.text codes :: field ++ pieces, after)
    | [] => if level == 0 then return ([.text codes], after) else none
    | _ => if level == 0 then none else return ([.text codes], after)

end Fields

section Literals

def literalPieces (expression : Parser Expr) (names : CharNames) (whole : Span) (marked : Bool)
    (token : Token) (literal : Literal) : Option (List Piece) :=
  if literal.isFormat then
    let ctx : JoinedContext :=
      { expression, names, whole, marked
        literal := .known token.line token.column token.endLine
        raw := literal.isRaw }
    let start : Reading := ⟨literal.body, token.line, token.column + literal.margin⟩
    (joinedPieces ctx (literal.body.length + 2) 0 start).map (·.1)
  else (decodeText names literal.isRaw literal.body).map fun codes => [.text codes]

def literalExpr (expression : Parser Expr) (names : CharNames)
    (literals : List (Token × Literal)) : Option Expr := do
  let (first, head) ← literals.head?
  let (last, _) ← literals.getLast?
  let span := Span.known first.line first.column last.endLine
  if literals.all (·.2.isBytes) then
    let values ← literals.mapM fun (_, literal) => decodeBytes literal.isRaw literal.body
    return .constant span (.bytes values.flatten)
  if literals.any (·.2.isBytes) then none
  let pieces ← literals.mapM fun (token, literal) =>
    literalPieces expression names span head.marked token literal
  let pieces := joinTexts pieces.flatten
  if literals.any (·.2.isFormat) then
    let stamp : Stamp := ⟨span, head.marked⟩
    return .joined span (pieceExprs stamp stamp pieces)
  match pieces with
  | [.text codes] => return .constant span (.text codes head.marked)
  | _ => return .constant span (.text [] head.marked)

end Literals

end RefactorAdvice.Code
