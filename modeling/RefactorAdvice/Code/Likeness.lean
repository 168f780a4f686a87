import RefactorAdvice.Code.Render

/-!
Likeness of expressions: two are alike when they agree in everything but position. Each node
leaves a mark of its kind, its words and the sizes of its parts, and the marks of a tree in
order tell it apart from all unlike trees.
-/

namespace RefactorAdvice.Code

/-- What a node is by itself: kind and words, sizes of its lists of parts, literal value. -/
structure Mark where
  words : List String
  sizes : List Nat
  value : Option Constant
deriving DecidableEq, Inhabited

section Marks

def Usage.word : Usage → String
  | .load => "load"
  | .store => "store"
  | .del => "del"

def present (part : Option α) : Nat := if part.isSome then 1 else 0

def Mark.of (words : List String) (sizes : List Nat) : Mark := ⟨words, sizes, none⟩

def Expr.mark : Expr → Mark
  | .boolOp _ op values => .of ["bool", op.word] [values.length]
  | .named .. => .of ["named"] []
  | .binary _ _ op _ => .of ["binary", op.symbol] []
  | .unary _ op _ => .of ["unary", op.symbol] []
  | .lambda .. => .of ["lambda"] []
  | .conditional .. => .of ["conditional"] []
  | .dict _ keys values => .of ["dict"] (values.length :: keys.map present)
  | .set _ elements => .of ["set"] [elements.length]
  | .listComp _ _ clauses => .of ["list comprehension"] [clauses.length]
  | .setComp _ _ clauses => .of ["set comprehension"] [clauses.length]
  | .dictComp _ _ _ clauses => .of ["dict comprehension"] [clauses.length]
  | .generator _ _ clauses => .of ["generator"] [clauses.length]
  | .await .. => .of ["await"] []
  | .yield _ value => .of ["yield"] [present value]
  | .yieldFrom .. => .of ["yield from"] []
  | .compare _ _ ops comparators => .of ("compare" :: ops.map CompareOp.symbol) [comparators.length]
  | .call _ _ args keywords => .of ["call"] [args.length, keywords.length]
  | .formatted _ _ conversion format =>
    .of ["formatted", (conversion.map Char.toString).getD ""] [present format]
  | .joined _ values => .of ["joined"] [values.length]
  | .constant _ value => ⟨["constant"], [], some value⟩
  | .attribute _ _ attr usage => .of ["attribute", attr, usage.word] []
  | .subscript _ _ _ usage => .of ["subscript", usage.word] []
  | .starred _ _ usage => .of ["starred", usage.word] []
  | .name _ id usage => .of ["name", id, usage.word] []
  | .list _ elements usage => .of ["list", usage.word] [elements.length]
  | .tuple _ elements usage => .of ["tuple", usage.word] [elements.length]
  | .slice _ lower upper step => .of ["slice"] [present lower, present upper, present step]

def Parameters.mark (ps : Parameters Expr) : Mark :=
  .of ["parameters"]
    ([ps.positionalOnly.length, ps.regular.length, present ps.variadic, ps.keywordOnly.length,
      present ps.keywordVariadic, ps.defaults.length] ++ ps.keywordDefaults.map present)

def Node.mark : Node → Mark
  | .expr e => e.mark
  | .clause c => .of ["clause", if c.isAsync then "async" else ""] [c.conditions.length]
  | .parameters ps => ps.mark
  | .parameter p => .of ["parameter", p.name] [present p.annotation]
  | .keyword k => .of ["keyword", k.name.getD ""] [present k.name]
  | _ => .of ["other"] []

end Marks

def Expr.holdsHuge (e : Expr) : Bool :=
  e.tree.preorder.any fun
    | .expr (.constant _ value) => value.tooLong
    | _ => false

/-- The marks of an expression in order. There is none for one with a huge integer. -/
def Expr.signature (e : Expr) : Except Failure (List Mark) :=
  if e.holdsHuge then .error .hugeInteger else .ok (e.tree.preorder.map Node.mark)

end RefactorAdvice.Code
