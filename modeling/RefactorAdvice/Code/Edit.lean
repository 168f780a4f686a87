import RefactorAdvice.Code.Stmt

/-!
Edits of a tree: on every node of a kind, a field is set to a number, to nothing or to an empty
list. Rules can so be tried on trees that no text spells: without positions, or with lists
that are shorter than the grammar allows.
-/

namespace RefactorAdvice.Code

inductive EditValue where
  | nothing
  | number (n : Int)
  | emptyList
deriving DecidableEq, Inhabited

/-- Kind and field are named as in the grammar of the checked language. -/
structure Edit where
  kind : String
  field : String
  value : EditValue
deriving DecidableEq, Inhabited

namespace Edit

def number? : EditValue → Option Int
  | .number n => some n
  | _ => none

def span (e : Edit) (kind : String) (s : Span) : Span :=
  if e.kind != kind || e.value == .emptyList then s
  else
    let n := number? e.value
    match e.field with
    | "lineno" => { s with line := n }
    | "col_offset" => { s with column := n }
    | "end_lineno" => { s with endLine := n }
    | _ => s

def items (e : Edit) (kind field : String) (xs : List α) : List α :=
  if e.kind == kind && e.field == field && e.value == .emptyList then [] else xs

def part (e : Edit) (kind field : String) (x : Option α) : Option α :=
  if e.kind == kind && e.field == field && e.value == .nothing then none else x

def constant (e : Edit) (c : Constant) : Constant :=
  if e.kind == "Constant" && e.field == "value" then
    match e.value with
    | .nothing => .none
    | .number n => .int n
    | .emptyList => c
  else c

section Expressions

mutual
def expr (e : Edit) : Expr → Expr
  | .boolOp s op vs => .boolOp (e.span "BoolOp" s) op (e.items "BoolOp" "values" (exprs e vs))
  | .named s t v => .named (e.span "NamedExpr" s) (expr e t) (expr e v)
  | .binary s l op r => .binary (e.span "BinOp" s) (expr e l) op (expr e r)
  | .unary s op x => .unary (e.span "UnaryOp" s) op (expr e x)
  | .lambda s ps b => .lambda (e.span "Lambda" s) (parameters e ps) (expr e b)
  | .conditional s t b o => .conditional (e.span "IfExp" s) (expr e t) (expr e b) (expr e o)
  | .dict s ks vs =>
    .dict (e.span "Dict" s) (e.items "Dict" "keys" (optionExprs e ks))
      (e.items "Dict" "values" (exprs e vs))
  | .set s es => .set (e.span "Set" s) (e.items "Set" "elts" (exprs e es))
  | .listComp s x cs =>
    .listComp (e.span "ListComp" s) (expr e x) (e.items "ListComp" "generators" (clauses e cs))
  | .setComp s x cs =>
    .setComp (e.span "SetComp" s) (expr e x) (e.items "SetComp" "generators" (clauses e cs))
  | .dictComp s k v cs =>
    .dictComp (e.span "DictComp" s) (expr e k) (expr e v)
      (e.items "DictComp" "generators" (clauses e cs))
  | .generator s x cs =>
    .generator (e.span "GeneratorExp" s) (expr e x)
      (e.items "GeneratorExp" "generators" (clauses e cs))
  | .await s v => .await (e.span "Await" s) (expr e v)
  | .yield s v => .yield (e.span "Yield" s) (e.part "Yield" "value" (optionExpr e v))
  | .yieldFrom s v => .yieldFrom (e.span "YieldFrom" s) (expr e v)
  | .compare s l ops cs =>
    .compare (e.span "Compare" s) (expr e l) (e.items "Compare" "ops" ops)
      (e.items "Compare" "comparators" (exprs e cs))
  | .call s f as ks =>
    .call (e.span "Call" s) (expr e f) (e.items "Call" "args" (exprs e as))
      (e.items "Call" "keywords" (keywords e ks))
  | .formatted s v c f =>
    .formatted (e.span "FormattedValue" s) (expr e v) c
      (e.part "FormattedValue" "format_spec" (optionExpr e f))
  | .joined s vs => .joined (e.span "JoinedStr" s) (e.items "JoinedStr" "values" (exprs e vs))
  | .constant s c => .constant (e.span "Constant" s) (e.constant c)
  | .attribute s v a u => .attribute (e.span "Attribute" s) (expr e v) a u
  | .subscript s v i u => .subscript (e.span "Subscript" s) (expr e v) (expr e i) u
  | .starred s v u => .starred (e.span "Starred" s) (expr e v) u
  | .name s i u => .name (e.span "Name" s) i u
  | .list s es u => .list (e.span "List" s) (e.items "List" "elts" (exprs e es)) u
  | .tuple s es u => .tuple (e.span "Tuple" s) (e.items "Tuple" "elts" (exprs e es)) u
  | .slice s l u t =>
    .slice (e.span "Slice" s) (e.part "Slice" "lower" (optionExpr e l))
      (e.part "Slice" "upper" (optionExpr e u)) (e.part "Slice" "step" (optionExpr e t))

def exprs (e : Edit) : List Expr → List Expr
  | [] => []
  | x :: rest => expr e x :: exprs e rest

def optionExpr (e : Edit) : Option Expr → Option Expr
  | none => none
  | some x => some (expr e x)

def optionExprs (e : Edit) : List (Option Expr) → List (Option Expr)
  | [] => []
  | x :: rest => optionExpr e x :: optionExprs e rest

def clauses (e : Edit) : List (Clause Expr) → List (Clause Expr)
  | [] => []
  | ⟨t, i, cs, a⟩ :: rest =>
    ⟨expr e t, expr e i, e.items "comprehension" "ifs" (exprs e cs), a⟩ :: clauses e rest

def keywords (e : Edit) : List (Keyword Expr) → List (Keyword Expr)
  | [] => []
  | ⟨s, n, v⟩ :: rest =>
    ⟨e.span "keyword" s, e.part "keyword" "arg" n, expr e v⟩ :: keywords e rest

def parameter (e : Edit) : Parameter Expr → Parameter Expr
  | ⟨s, n, a⟩ => ⟨e.span "arg" s, n, e.part "arg" "annotation" (optionExpr e a)⟩

def parameterList (e : Edit) : List (Parameter Expr) → List (Parameter Expr)
  | [] => []
  | p :: rest => parameter e p :: parameterList e rest

def optionParameter (e : Edit) : Option (Parameter Expr) → Option (Parameter Expr)
  | none => none
  | some p => some (parameter e p)

def parameters (e : Edit) : Parameters Expr → Parameters Expr
  | ⟨po, re, va, ko, kd, kv, de⟩ =>
    ⟨e.items "arguments" "posonlyargs" (parameterList e po),
      e.items "arguments" "args" (parameterList e re),
      e.part "arguments" "vararg" (optionParameter e va),
      e.items "arguments" "kwonlyargs" (parameterList e ko),
      e.items "arguments" "kw_defaults" (optionExprs e kd),
      e.part "arguments" "kwarg" (optionParameter e kv),
      e.items "arguments" "defaults" (exprs e de)⟩
end

end Expressions

section Patterns

mutual
def pattern (e : Edit) : Pattern → Pattern
  | .value s v => .value (e.span "MatchValue" s) (expr e v)
  | .singleton s v => .singleton (e.span "MatchSingleton" s) v
  | .sequence s ps =>
    .sequence (e.span "MatchSequence" s) (e.items "MatchSequence" "patterns" (patterns e ps))
  | .mapping s ks ps r =>
    .mapping (e.span "MatchMapping" s) (e.items "MatchMapping" "keys" (exprs e ks))
      (e.items "MatchMapping" "patterns" (patterns e ps)) (e.part "MatchMapping" "rest" r)
  | .shape s c ps as aps =>
    .shape (e.span "MatchClass" s) (expr e c) (e.items "MatchClass" "patterns" (patterns e ps))
      (e.items "MatchClass" "kwd_attrs" as)
      (e.items "MatchClass" "kwd_patterns" (patterns e aps))
  | .star s n => .star (e.span "MatchStar" s) (e.part "MatchStar" "name" n)
  | .bind s p n =>
    .bind (e.span "MatchAs" s) (e.part "MatchAs" "pattern" (optionPattern e p))
      (e.part "MatchAs" "name" n)
  | .either s ps => .either (e.span "MatchOr" s) (e.items "MatchOr" "patterns" (patterns e ps))

def patterns (e : Edit) : List Pattern → List Pattern
  | [] => []
  | p :: rest => pattern e p :: patterns e rest

def optionPattern (e : Edit) : Option Pattern → Option Pattern
  | none => none
  | some p => some (pattern e p)
end

end Patterns

section Statements

def withItem (e : Edit) (item : WithItem) : WithItem :=
  ⟨expr e item.context, e.part "withitem" "optional_vars" (optionExpr e item.target)⟩

def importAlias (e : Edit) (a : Alias) : Alias :=
  ⟨e.span "alias" a.span, a.name, e.part "alias" "asname" a.asName⟩

def variant (isAsync : Bool) (kind : String) : String := if isAsync then "Async" ++ kind else kind

mutual
def stmt (e : Edit) : Stmt → Stmt
  | .function s a n ps b ds r =>
    let kind := variant a "FunctionDef"
    .function (e.span kind s) a n (parameters e ps) (e.items kind "body" (stmts e b))
      (e.items kind "decorator_list" (exprs e ds)) (e.part kind "returns" (optionExpr e r))
  | .cls s n bs ks b ds =>
    .cls (e.span "ClassDef" s) n (e.items "ClassDef" "bases" (exprs e bs))
      (e.items "ClassDef" "keywords" (keywords e ks)) (e.items "ClassDef" "body" (stmts e b))
      (e.items "ClassDef" "decorator_list" (exprs e ds))
  | .ret s v => .ret (e.span "Return" s) (e.part "Return" "value" (optionExpr e v))
  | .delete s ts => .delete (e.span "Delete" s) (e.items "Delete" "targets" (exprs e ts))
  | .assign s ts v =>
    .assign (e.span "Assign" s) (e.items "Assign" "targets" (exprs e ts)) (expr e v)
  | .augAssign s t op v => .augAssign (e.span "AugAssign" s) (expr e t) op (expr e v)
  | .annAssign s t a v p =>
    .annAssign (e.span "AnnAssign" s) (expr e t) (expr e a)
      (e.part "AnnAssign" "value" (optionExpr e v)) p
  | .forLoop s a t i b o =>
    let kind := variant a "For"
    .forLoop (e.span kind s) a (expr e t) (expr e i) (e.items kind "body" (stmts e b))
      (e.items kind "orelse" (stmts e o))
  | .whileLoop s t b o =>
    .whileLoop (e.span "While" s) (expr e t) (e.items "While" "body" (stmts e b))
      (e.items "While" "orelse" (stmts e o))
  | .ifElse s t b o =>
    .ifElse (e.span "If" s) (expr e t) (e.items "If" "body" (stmts e b))
      (e.items "If" "orelse" (stmts e o))
  | .withBlock s a is b =>
    let kind := variant a "With"
    .withBlock (e.span kind s) a (e.items kind "items" (is.map (withItem e)))
      (e.items kind "body" (stmts e b))
  | .matchOn s x cs =>
    .matchOn (e.span "Match" s) (expr e x) (e.items "Match" "cases" (matchCases e cs))
  | .raise s x c =>
    .raise (e.span "Raise" s) (e.part "Raise" "exc" (optionExpr e x))
      (e.part "Raise" "cause" (optionExpr e c))
  | .tryBlock s st b hs o f =>
    let kind := if st then "TryStar" else "Try"
    .tryBlock (e.span kind s) st (e.items kind "body" (stmts e b))
      (e.items kind "handlers" (handlers e hs)) (e.items kind "orelse" (stmts e o))
      (e.items kind "finalbody" (stmts e f))
  | .assert s t m =>
    .assert (e.span "Assert" s) (expr e t) (e.part "Assert" "msg" (optionExpr e m))
  | .imports s ns =>
    .imports (e.span "Import" s) (e.items "Import" "names" (ns.map (importAlias e)))
  | .importFrom s m ns l =>
    .importFrom (e.span "ImportFrom" s) (e.part "ImportFrom" "module" m)
      (e.items "ImportFrom" "names" (ns.map (importAlias e))) l
  | .global s ns => .global (e.span "Global" s) (e.items "Global" "names" ns)
  | .nonlocal s ns => .nonlocal (e.span "Nonlocal" s) (e.items "Nonlocal" "names" ns)
  | .expr s v => .expr (e.span "Expr" s) (expr e v)
  | .pass s => .pass (e.span "Pass" s)
  | .brk s => .brk (e.span "Break" s)
  | .cont s => .cont (e.span "Continue" s)

def stmts (e : Edit) : List Stmt → List Stmt
  | [] => []
  | s :: rest => stmt e s :: stmts e rest

def handlers (e : Edit) : List (Handler Stmt) → List (Handler Stmt)
  | [] => []
  | ⟨s, t, n, b⟩ :: rest =>
    ⟨e.span "ExceptHandler" s, e.part "ExceptHandler" "type" (optionExpr e t),
      e.part "ExceptHandler" "name" n, e.items "ExceptHandler" "body" (stmts e b)⟩ ::
      handlers e rest

def matchCases (e : Edit) : List (MatchCase Stmt) → List (MatchCase Stmt)
  | [] => []
  | ⟨p, g, b⟩ :: rest =>
    ⟨pattern e p, e.part "match_case" "guard" (optionExpr e g),
      e.items "match_case" "body" (stmts e b)⟩ :: matchCases e rest
end

end Statements

end Edit

def Module.edit (m : Module) (e : Edit) : Module := ⟨e.items "Module" "body" (e.stmts m.body)⟩

end RefactorAdvice.Code
