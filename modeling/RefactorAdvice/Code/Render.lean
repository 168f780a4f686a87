import RefactorAdvice.Code.Tree
import RefactorAdvice.Failure
import RefactorAdvice.Number.Numeral
import RefactorAdvice.Text.Quoted

/-!
Expressions as source text. Parentheses stand only where the grammar needs them, apart from a
few places where they are written to be safe; texts are quoted so that few escapes are needed.
-/

namespace RefactorAdvice.Code

section Precedence

/-- How tightly a form binds, the loosest first. -/
inductive Precedence where
  | named | tuple | yield | test | or | and | not | compare | bitOr | bitXor | bitAnd
  | shift | arith | term | factor | power | await | atom
deriving DecidableEq, Inhabited

def Precedence.rank : Precedence → Nat
  | .named => 0
  | .tuple => 1
  | .yield => 2
  | .test => 3
  | .or => 4
  | .and => 5
  | .not => 6
  | .compare => 7
  | .bitOr => 8
  | .bitXor => 9
  | .bitAnd => 10
  | .shift => 11
  | .arith => 12
  | .term => 13
  | .factor => 14
  | .power => 15
  | .await => 16
  | .atom => 17

def Precedence.next : Precedence → Precedence
  | .named => .tuple
  | .tuple => .yield
  | .yield => .test
  | .test => .or
  | .or => .and
  | .and => .not
  | .not => .compare
  | .compare => .bitOr
  | .bitOr => .bitXor
  | .bitXor => .bitAnd
  | .bitAnd => .shift
  | .shift => .arith
  | .arith => .term
  | .term => .factor
  | .factor => .power
  | .power => .await
  | .await => .atom
  | .atom => .atom

def BinaryOp.precedence : BinaryOp → Precedence
  | .add | .sub => .arith
  | .mult | .matMult | .div | .mod | .floorDiv => .term
  | .leftShift | .rightShift => .shift
  | .bitOr => .bitOr
  | .bitXor => .bitXor
  | .bitAnd => .bitAnd
  | .pow => .power

def UnaryOp.precedence : UnaryOp → Precedence
  | .not => .not
  | _ => .factor

def BoolOp.precedence : BoolOp → Precedence
  | .and => .and
  | .or => .or

def guarded (place own : Precedence) (text : String) : String :=
  if own.rank < place.rank then "(" ++ text ++ ")" else text

end Precedence

section Quoting

def allQuotes : List (List Char) := ["'", "\"", "\"\"\"", "'''"].map String.toList

def codeEscape (code : Nat) : List Char :=
  if code == 92 then ['\\', '\\']
  else if code == 10 then ['\\', 'n']
  else if code == 13 then ['\\', 'r']
  else if code == 9 then ['\\', 't']
  else Text.numberedEscape code

def softEscape (breaks : Bool) (code : Nat) : List Char :=
  if !breaks && (code == 10 || code == 9) then [Char.ofNat code]
  else if code == 92 || !Text.isPrintable code then codeEscape code
  else [Char.ofNat code]

structure QuotedBody where
  body : List Char
  quotes : List (List Char)

/--
A text with as few escapes as possible. Quotes that occur in it are not used; one that ends
it is used last, tripled and with the end escaped. If no quote is left, the plain quoted form
is taken apart.
-/
def softQuoted (quotes : List (List Char)) (breaks : Bool) (codes : List Nat) : QuotedBody :=
  let escaped := codes.flatMap (softEscape breaks)
  let fitting := (if escaped.contains '\n' then quotes.filter (·.length = 3) else quotes).filter
    fun quote => !containsRun quote escaped
  match fitting with
  | [] =>
    let plain := Text.quotedCodes codes
    let quote := plain.take 1
    let chosen := (quotes.find? fun q => q.take 1 == quote).getD quote
    ⟨(plain.drop 1).dropLast, [chosen]⟩
  | fitting =>
    match escaped.getLast? with
    | none => ⟨escaped, fitting⟩
    | some last =>
      let ordered := fitting.filter (·.head? != some last) ++ fitting.filter (·.head? == some last)
      if (ordered.head?.bind List.head?) == some last then
        ⟨escaped.dropLast ++ ['\\', last], ordered⟩
      else ⟨escaped, ordered⟩
where
  containsRun (needle : List Char) : List Char → Bool
    | [] => needle.isEmpty
    | c :: rest => needle.isPrefixOf (c :: rest) || containsRun needle rest

def softQuotedText (codes : List Nat) : String :=
  let found := softQuoted allQuotes false codes
  let quote := found.quotes.head?.getD []
  String.ofList (quote ++ found.body ++ quote)

def joinedBody (parts : List (List Nat × Bool)) : List Char :=
  let rec go (quotes : List (List Char)) (done : List Char) :
      List (List Nat × Bool) → Option (List (List Char) × List Char)
    | [] => some (quotes, done)
    | (codes, plain) :: rest =>
      let found := softQuoted quotes plain codes
      if found.quotes.any quotes.contains then go found.quotes (done ++ found.body) rest else none
  match go allQuotes [] parts with
  | some (quotes, body) =>
    let quote := quotes.head?.getD []
    quote ++ body ++ quote
  | none =>
    -- no one quote fits all parts
    let quote := "'''".toList
    let body := parts.flatMap fun (codes, _) => ((Text.quotedCodes (34 :: codes)).drop 2).dropLast
    quote ++ body ++ quote

end Quoting

section Constants

def Constant.tooLong : Constant → Bool
  | .int n => Nat.pow 10 digitLimit ≤ n.natAbs
  | _ => false
where
  digitLimit : Nat := 4300

def finiteText (x : Binary64) (wholePoint : Bool) : String :=
  match x with
  | .infinite negative => if negative then "-1e309" else "1e309"
  | .nan => "(1e309-1e309)"
  | x => x.numeralWith wholePoint

def Constant.render (avoidEscapes : Bool) (c : Constant) : Except Failure String :=
  if c.tooLong then .error .hugeInteger
  else
    .ok <| match c with
    | .none => "None"
    | .bool b => if b then "True" else "False"
    | .int n => toString n
    | .float x => finiteText x true
    | .imaginary x => finiteText x false ++ "j"
    | .text codes marked =>
      (if marked then "u" else "") ++
        (if avoidEscapes then softQuotedText codes else String.ofList (Text.quotedCodes codes))
    | .bytes values => String.ofList (Text.quotedBytes values)
    | .ellipsis => "..."

end Constants

section Forms

def tupleText : List String → String
  | [item] => item ++ ","
  | items => ", ".intercalate items

def doubleBraces (codes : List Nat) : List Nat :=
  codes.flatMap fun code => if code == 123 || code == 125 then [code, code] else [code]

abbrev Rendering := Bool → Precedence → Expr → Except Failure String

def parameterText (render : Expr → Except Failure String) (p : Parameter Expr) :
    Except Failure String :=
  match p.annotation with
  | none => .ok p.name
  | some annotation => do return p.name ++ ": " ++ (← render annotation)

def withDefault (render : Expr → Except Failure String) (p : Parameter Expr)
    (value : Option Expr) : Except Failure String := do
  let text ← parameterText render p
  match value with
  | none => return text
  | some value => return text ++ "=" ++ (← render value)

def parametersText (render : Expr → Except Failure String) (ps : Parameters Expr) :
    Except Failure String := do
  let positional := ps.positionalOnly ++ ps.regular
  let padding : List (Option Expr) :=
    List.replicate (positional.length - ps.defaults.length) none
  let pairs := positional.zip (padding ++ ps.defaults.map some)
  let plain ← pairs.mapM fun (p, d) => withDefault render p d
  let count := ps.positionalOnly.length
  let positionalTexts :=
    if count = 0 then plain else plain.take count ++ ["/"] ++ plain.drop count
  let star ← match ps.variadic with
    | some p => do pure ["*" ++ (← parameterText render p)]
    | none => pure (if ps.keywordOnly.isEmpty then [] else ["*"])
  let keywords ← (ps.keywordOnly.zip ps.keywordDefaults).mapM fun (p, d) => withDefault render p d
  let last ← match ps.keywordVariadic with
    | some p => do pure ["**" ++ (← parameterText render p)]
    | none => pure []
  return ", ".intercalate (positionalTexts ++ star ++ keywords ++ last)

def clauseText (render : Precedence → Expr → Except Failure String) (c : Clause Expr) :
    Except Failure String := do
  let place ← render .tuple c.target
  let iter ← render Precedence.test.next c.iter
  let conditions ← c.conditions.mapM fun e => do return " if " ++ (← render Precedence.test.next e)
  return (if c.isAsync then " async for " else " for ") ++ place ++ " in " ++ iter ++
    String.join conditions

def clausesText (render : Precedence → Expr → Except Failure String) (cs : List (Clause Expr)) :
    Except Failure String := do
  return String.join (← cs.mapM (clauseText render))

/-- Operands of a boolean operation; each stands one level tighter than the one before. -/
def boolTexts (render : Precedence → Expr → Except Failure String) (place : Precedence) :
    List Expr → Except Failure (List String)
  | [] => .ok []
  | e :: rest => do
    return (← render place.next e) :: (← boolTexts render place.next rest)

def joinedCodes (render : Expr → Except Failure String) :
    Nat → Expr → Except Failure (List Nat)
  | 0, _ => .ok []
  | fuel + 1, e =>
    match e with
    | .joined _ values => do return (← values.mapM (joinedCodes render fuel)).flatten
    | .constant _ (.text codes _) => .ok (doubleBraces codes)
    | .formatted _ value conversion format => do
      let text ← render value
      if text.contains '\\' then throw .backslashInField
      let space := if text.startsWith "\x7b" then " " else ""
      let mark := match conversion with
        | some c => String.ofList ['!', c]
        | none => ""
      let spec ← match format with
        | some spec => do pure (58 :: (← joinedCodes render fuel spec))
        | none => pure []
      let head := "\x7b" ++ space ++ text ++ mark
      return head.toList.map (·.toNat) ++ spec ++ [125]
    | _ => .ok []

def Expr.isPlainText : Expr → Bool
  | .constant .. => true
  | _ => false

def Expr.isIntLike : Expr → Bool
  | .constant _ (.int _) | .constant _ (.bool _) => true
  | _ => false

/--
An expression's text at a place of the given precedence. `avoid` asks for quotes without
backslashes, as inside a replacement field.
-/
def Expr.renderAt : Nat → Rendering
  | 0, _, _, _ => .ok ""
  | fuel + 1, avoid, place, e => do
    let at_ (p : Precedence) (e : Expr) : Except Failure String := Expr.renderAt fuel avoid p e
    let plain (e : Expr) : Except Failure String := at_ .test e
    match e with
    | .boolOp _ op values =>
      let texts ← boolTexts at_ op.precedence values
      return guarded place op.precedence ((" " ++ op.word ++ " ").intercalate texts)
    | .named _ target value =>
      let left ← at_ .atom target
      let right ← at_ .atom value
      return guarded place .named (left ++ " := " ++ right)
    | .binary _ left op right =>
      let own := op.precedence
      let (l, r) := if op = .pow then (own.next, own) else (own, own.next)
      let left ← at_ l left
      let right ← at_ r right
      return guarded place own (left ++ " " ++ op.symbol ++ " " ++ right)
    | .unary _ op operand =>
      let own := op.precedence
      let text ← at_ own operand
      return guarded place own (op.symbol ++ (if op = .not then " " else "") ++ text)
    | .lambda _ params body =>
      let params ← parametersText plain params
      let body ← at_ .test body
      return guarded place .test
        ("lambda" ++ (if params.isEmpty then "" else " " ++ params) ++ ": " ++ body)
    | .conditional _ test body orelse =>
      let body ← at_ Precedence.test.next body
      let test ← at_ Precedence.test.next test
      let orelse ← at_ .test orelse
      return guarded place .test (body ++ " if " ++ test ++ " else " ++ orelse)
    | .dict _ keys values =>
      let entries ← (keys.zip values).mapM fun (key, value) => do
        match key with
        | none => return "**" ++ (← at_ .bitOr value)
        | some key => return (← plain key) ++ ": " ++ (← plain value)
      return "\x7b" ++ ", ".intercalate entries ++ "\x7d"
    | .set _ elements =>
      if elements.isEmpty then return "\x7b*()\x7d"
      let texts ← elements.mapM plain
      return "\x7b" ++ ", ".intercalate texts ++ "\x7d"
    | .listComp _ element clauses =>
      let text ← plain element
      return "[" ++ text ++ (← clausesText at_ clauses) ++ "]"
    | .setComp _ element clauses =>
      let text ← plain element
      return "\x7b" ++ text ++ (← clausesText at_ clauses) ++ "\x7d"
    | .dictComp _ key value clauses =>
      let key ← plain key
      let value ← plain value
      return "\x7b" ++ key ++ ": " ++ value ++ (← clausesText at_ clauses) ++ "\x7d"
    | .generator _ element clauses =>
      let text ← plain element
      return "(" ++ text ++ (← clausesText at_ clauses) ++ ")"
    | .await _ value =>
      let text ← at_ .atom value
      return guarded place .await ("await " ++ text)
    | .yield _ value =>
      match value with
      | none => return guarded place .yield "yield"
      | some value =>
        let text ← at_ .atom value
        return guarded place .yield ("yield " ++ text)
    | .yieldFrom _ value =>
      let text ← at_ .atom value
      return guarded place .yield ("yield from " ++ text)
    | .compare _ left ops comparators =>
      let inside := Precedence.compare.next
      let left ← at_ inside left
      let rest ← (ops.zip comparators).mapM fun (op, e) => do
        return " " ++ op.symbol ++ " " ++ (← at_ inside e)
      return guarded place .compare (left ++ String.join rest)
    | .call _ func args keywords =>
      let func ← at_ .atom func
      let args ← args.mapM plain
      let keywords ← keywords.mapM fun k => do
        match k.name with
        | none => return "**" ++ (← plain k.value)
        | some word => return word ++ "=" ++ (← plain k.value)
      return func ++ "(" ++ ", ".intercalate (args ++ keywords) ++ ")"
    | .formatted .. =>
      let codes ← joinedCodes (Expr.renderAt fuel true Precedence.test.next) (fuel + 1) e
      return String.ofList (codes.map Char.ofNat)
    | .joined _ values =>
      let inside := Expr.renderAt fuel true Precedence.test.next
      let parts ← values.mapM fun value => do
        return (← joinedCodes inside fuel value, value.isPlainText)
      if avoid then return "f" ++ softQuotedText (parts.flatMap (·.1))
      return "f" ++ String.ofList (joinedBody parts)
    | .constant _ value => value.render avoid
    | .attribute _ value attr _ =>
      let text ← at_ .atom value
      return text ++ (if value.isIntLike then " ." else ".") ++ attr
    | .subscript _ value index _ =>
      let text ← at_ .atom value
      let inside ← match index with
        | .tuple _ (first :: rest) _ => do pure (tupleText (← (first :: rest).mapM plain))
        | index => plain index
      return text ++ "[" ++ inside ++ "]"
    | .starred _ value _ => return "*" ++ (← at_ .bitOr value)
    | .name _ id _ => return id
    | .list _ elements _ => return "[" ++ ", ".intercalate (← elements.mapM plain) ++ "]"
    | .tuple _ elements _ =>
      let text := tupleText (← elements.mapM plain)
      if elements.isEmpty then return "(" ++ text ++ ")" else return guarded place .tuple text
    | .slice _ lower upper step =>
      let lower ← lower.elim (pure "") plain
      let upper ← upper.elim (pure "") plain
      let step ← step.elim (pure "") fun e => do return ":" ++ (← plain e)
      return lower ++ ":" ++ upper ++ step

def Expr.render (e : Expr) : Except Failure String := e.renderAt e.tree.height false .test

end Forms

end RefactorAdvice.Code
