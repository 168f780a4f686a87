import RefactorAdvice.Number.Binary64

/-!
Expressions of the checked language, with the parts they are built from: operators,
literal values, call keywords, parameters and comprehension clauses.

A span tells where a piece of source stands. Lines count from one, columns count the UTF-8 bytes
before the first character. A tree built by hand may lack any of the three numbers.
-/

namespace RefactorAdvice.Code

section Spans

structure Span where
  line : Option Int
  column : Option Int
  endLine : Option Int
deriving DecidableEq, Inhabited

def Span.known (line column endLine : Nat) : Span :=
  ⟨some line, some column, some endLine⟩

/-- The line a finding can be placed on: present and at least one. -/
def Span.placed (span : Span) : Option Nat :=
  match span.line with
  | some line => if 1 ≤ line then some line.toNat else none
  | none => none

def Span.columnOrZero (span : Span) : Int :=
  span.column.getD 0

end Spans

inductive Usage where
  | load | store | del
deriving DecidableEq, Inhabited

inductive BoolOp where
  | and | or
deriving DecidableEq, Inhabited

inductive BinaryOp where
  | add | sub | mult | matMult | div | mod | pow
  | leftShift | rightShift | bitOr | bitXor | bitAnd | floorDiv
deriving DecidableEq, Inhabited

inductive UnaryOp where
  | invert | not | plus | minus
deriving DecidableEq, Inhabited

inductive CompareOp where
  | eq | notEq | less | lessEq | greater | greaterEq | same | notSame | member | notMember
deriving DecidableEq, Inhabited

/--
A literal value. A text is kept as code points, since an escape can name half of a
surrogate pair. `marked` tells a text whose first literal is written with a small `u`.
-/
inductive Constant where
  | none
  | bool (value : Bool)
  | int (value : Int)
  | float (value : Binary64)
  | imaginary (value : Binary64)
  | text (codes : List Nat) (marked : Bool)
  | bytes (values : List Nat)
  | ellipsis
deriving DecidableEq, Inhabited

structure Keyword (ε : Type) where
  span : Span
  name : Option String
  value : ε
deriving Inhabited

structure Parameter (ε : Type) where
  span : Span
  name : String
  annotation : Option ε
deriving Inhabited

/--
The parameters of a function. `defaults` belong to the last positional parameters,
`keywordDefaults` has one entry for each keyword-only parameter.
-/
structure Parameters (ε : Type) where
  positionalOnly : List (Parameter ε)
  regular : List (Parameter ε)
  variadic : Option (Parameter ε)
  keywordOnly : List (Parameter ε)
  keywordDefaults : List (Option ε)
  keywordVariadic : Option (Parameter ε)
  defaults : List ε
deriving Inhabited

structure Clause (ε : Type) where
  target : ε
  iter : ε
  conditions : List ε
  isAsync : Bool
deriving Inhabited

inductive Expr where
  | boolOp (span : Span) (op : BoolOp) (values : List Expr)
  | named (span : Span) (target value : Expr)
  | binary (span : Span) (left : Expr) (op : BinaryOp) (right : Expr)
  | unary (span : Span) (op : UnaryOp) (operand : Expr)
  | lambda (span : Span) (params : Parameters Expr) (body : Expr)
  | conditional (span : Span) (test body orelse : Expr)
  | dict (span : Span) (keys : List (Option Expr)) (values : List Expr)
  | set (span : Span) (elements : List Expr)
  | listComp (span : Span) (element : Expr) (clauses : List (Clause Expr))
  | setComp (span : Span) (element : Expr) (clauses : List (Clause Expr))
  | dictComp (span : Span) (key value : Expr) (clauses : List (Clause Expr))
  | generator (span : Span) (element : Expr) (clauses : List (Clause Expr))
  | await (span : Span) (value : Expr)
  | yield (span : Span) (value : Option Expr)
  | yieldFrom (span : Span) (value : Expr)
  | compare (span : Span) (left : Expr) (ops : List CompareOp) (comparators : List Expr)
  | call (span : Span) (func : Expr) (args : List Expr) (keywords : List (Keyword Expr))
  | formatted (span : Span) (value : Expr) (conversion : Option Char) (format : Option Expr)
  | joined (span : Span) (values : List Expr)
  | constant (span : Span) (value : Constant)
  | attribute (span : Span) (value : Expr) (attr : String) (usage : Usage)
  | subscript (span : Span) (value slice : Expr) (usage : Usage)
  | starred (span : Span) (value : Expr) (usage : Usage)
  | name (span : Span) (id : String) (usage : Usage)
  | list (span : Span) (elements : List Expr) (usage : Usage)
  | tuple (span : Span) (elements : List Expr) (usage : Usage)
  | slice (span : Span) (lower upper step : Option Expr)
deriving Inhabited

def Expr.span : Expr → Span
  | .boolOp s .. | .named s .. | .binary s .. | .unary s .. | .lambda s ..
  | .conditional s .. | .dict s .. | .set s .. | .listComp s .. | .setComp s ..
  | .dictComp s .. | .generator s .. | .await s .. | .yield s .. | .yieldFrom s ..
  | .compare s .. | .call s .. | .formatted s .. | .joined s .. | .constant s ..
  | .attribute s .. | .subscript s .. | .starred s .. | .name s .. | .list s ..
  | .tuple s .. | .slice s .. => s

def Expr.isBoolOp : Expr → Bool
  | .boolOp .. => true
  | _ => false

def CompareOp.symbol : CompareOp → String
  | .eq => "=="
  | .notEq => "!="
  | .less => "<"
  | .lessEq => "<="
  | .greater => ">"
  | .greaterEq => ">="
  | .same => "is"
  | .notSame => "is not"
  | .member => "in"
  | .notMember => "not in"

def BinaryOp.symbol : BinaryOp → String
  | .add => "+"
  | .sub => "-"
  | .mult => "*"
  | .matMult => "@"
  | .div => "/"
  | .mod => "%"
  | .pow => "**"
  | .leftShift => "<<"
  | .rightShift => ">>"
  | .bitOr => "|"
  | .bitXor => "^"
  | .bitAnd => "&"
  | .floorDiv => "//"

def UnaryOp.symbol : UnaryOp → String
  | .invert => "~"
  | .not => "not"
  | .plus => "+"
  | .minus => "-"

def BoolOp.word : BoolOp → String
  | .and => "and"
  | .or => "or"

section Literals

-- Truth values count as zero and one, and a number equals an integer whatever its kind.
def Constant.equals (n : Int) : Constant → Bool
  | .bool b => n == if b then 1 else 0
  | .int m => m == n
  | .float x => x.same (.ofInt n)
  | .imaginary x => n == 0 && x.same (.ofInt 0)
  | _ => false

def Constant.isText : Constant → Bool
  | .text .. => true
  | _ => false

end Literals

end RefactorAdvice.Code
