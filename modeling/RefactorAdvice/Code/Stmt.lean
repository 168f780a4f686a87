import RefactorAdvice.Code.Expr

/-!
Statements of the checked language, patterns of a `match`, and the module they make up.
-/

namespace RefactorAdvice.Code

inductive Pattern where
  | value (span : Span) (value : Expr)
  | singleton (span : Span) (value : Constant)
  | sequence (span : Span) (patterns : List Pattern)
  | mapping (span : Span) (keys : List Expr) (patterns : List Pattern) (rest : Option String)
  | shape (span : Span) (cls : Expr) (patterns : List Pattern) (attrs : List String)
      (attrPatterns : List Pattern)
  | star (span : Span) (name : Option String)
  | bind (span : Span) (pattern : Option Pattern) (name : Option String)
  | either (span : Span) (patterns : List Pattern)
deriving Inhabited

structure WithItem where
  context : Expr
  target : Option Expr
deriving Inhabited

structure Alias where
  span : Span
  name : String
  asName : Option String
deriving Inhabited

structure Handler (σ : Type) where
  span : Span
  type : Option Expr
  name : Option String
  body : List σ
deriving Inhabited

structure MatchCase (σ : Type) where
  pattern : Pattern
  guard : Option Expr
  body : List σ
deriving Inhabited

inductive Stmt where
  | function (span : Span) (isAsync : Bool) (name : String) (params : Parameters Expr)
      (body : List Stmt) (decorators : List Expr) (returns : Option Expr)
  | cls (span : Span) (name : String) (bases : List Expr) (keywords : List (Keyword Expr))
      (body : List Stmt) (decorators : List Expr)
  | ret (span : Span) (value : Option Expr)
  | delete (span : Span) (targets : List Expr)
  | assign (span : Span) (targets : List Expr) (value : Expr)
  | augAssign (span : Span) (target : Expr) (op : BinaryOp) (value : Expr)
  | annAssign (span : Span) (target annotation : Expr) (value : Option Expr) (simple : Bool)
  | forLoop (span : Span) (isAsync : Bool) (target iter : Expr) (body orelse : List Stmt)
  | whileLoop (span : Span) (test : Expr) (body orelse : List Stmt)
  | ifElse (span : Span) (test : Expr) (body orelse : List Stmt)
  | withBlock (span : Span) (isAsync : Bool) (items : List WithItem) (body : List Stmt)
  | matchOn (span : Span) (subject : Expr) (cases : List (MatchCase Stmt))
  | raise (span : Span) (exc cause : Option Expr)
  | tryBlock (span : Span) (isStar : Bool) (body : List Stmt) (handlers : List (Handler Stmt))
      (orelse finalbody : List Stmt)
  | assert (span : Span) (test : Expr) (message : Option Expr)
  | imports (span : Span) (names : List Alias)
  | importFrom (span : Span) (module : Option String) (names : List Alias) (level : Nat)
  | global (span : Span) (names : List String)
  | nonlocal (span : Span) (names : List String)
  | expr (span : Span) (value : Expr)
  | pass (span : Span)
  | brk (span : Span)
  | cont (span : Span)
deriving Inhabited

def Stmt.span : Stmt → Span
  | .function s .. | .cls s .. | .ret s .. | .delete s .. | .assign s .. | .augAssign s ..
  | .annAssign s .. | .forLoop s .. | .whileLoop s .. | .ifElse s .. | .withBlock s ..
  | .matchOn s .. | .raise s .. | .tryBlock s .. | .assert s .. | .imports s ..
  | .importFrom s .. | .global s .. | .nonlocal s .. | .expr s .. | .pass s | .brk s
  | .cont s => s

def Stmt.isIf : Stmt → Bool
  | .ifElse .. => true
  | _ => false

def Stmt.isLoop : Stmt → Bool
  | .forLoop .. | .whileLoop .. => true
  | _ => false

structure Module where
  body : List Stmt
deriving Inhabited

end RefactorAdvice.Code
