import RefactorAdvice.Code.Stmt

/-!
A module seen as one tree of nodes. Every part of it that has parts of its own, or a name of
its own in the language's grammar, is a node; the branches of a node are its parts in the
order of that grammar.
-/

namespace RefactorAdvice.Code

inductive Node where
  | module (value : Module)
  | stmt (value : Stmt)
  | expr (value : Expr)
  | pattern (value : Pattern)
  | clause (value : Clause Expr)
  | parameters (value : Parameters Expr)
  | parameter (value : Parameter Expr)
  | keyword (value : Keyword Expr)
  | withItem (value : WithItem)
  | handler (value : Handler Stmt)
  | matchCase (value : MatchCase Stmt)
  | alias (value : Alias)
deriving Inhabited

inductive Tree where
  | node (root : Node) (branches : List Tree)
deriving Inhabited

def Tree.root : Tree → Node
  | .node root _ => root

def Tree.branches : Tree → List Tree
  | .node _ branches => branches

section Expressions

mutual
def Expr.tree : Expr → Tree
  | .boolOp s op vs => .node (.expr (.boolOp s op vs)) (exprTrees vs)
  | .named s t v => .node (.expr (.named s t v)) [t.tree, v.tree]
  | .binary s l op r => .node (.expr (.binary s l op r)) [l.tree, r.tree]
  | .unary s op e => .node (.expr (.unary s op e)) [e.tree]
  | .lambda s ps b => .node (.expr (.lambda s ps b)) [parametersTree ps, b.tree]
  | .conditional s t b o => .node (.expr (.conditional s t b o)) [t.tree, b.tree, o.tree]
  | .dict s ks vs => .node (.expr (.dict s ks vs)) (optionTrees ks ++ exprTrees vs)
  | .set s es => .node (.expr (.set s es)) (exprTrees es)
  | .listComp s e cs => .node (.expr (.listComp s e cs)) (e.tree :: clauseTrees cs)
  | .setComp s e cs => .node (.expr (.setComp s e cs)) (e.tree :: clauseTrees cs)
  | .dictComp s k v cs => .node (.expr (.dictComp s k v cs)) (k.tree :: v.tree :: clauseTrees cs)
  | .generator s e cs => .node (.expr (.generator s e cs)) (e.tree :: clauseTrees cs)
  | .await s v => .node (.expr (.await s v)) [v.tree]
  | .yield s v => .node (.expr (.yield s v)) (optionTree v)
  | .yieldFrom s v => .node (.expr (.yieldFrom s v)) [v.tree]
  | .compare s l ops cs => .node (.expr (.compare s l ops cs)) (l.tree :: exprTrees cs)
  | .call s f as ks => .node (.expr (.call s f as ks)) (f.tree :: exprTrees as ++ keywordTrees ks)
  | .formatted s v c f => .node (.expr (.formatted s v c f)) (v.tree :: optionTree f)
  | .joined s vs => .node (.expr (.joined s vs)) (exprTrees vs)
  | .constant s c => .node (.expr (.constant s c)) []
  | .attribute s v a u => .node (.expr (.attribute s v a u)) [v.tree]
  | .subscript s v i u => .node (.expr (.subscript s v i u)) [v.tree, i.tree]
  | .starred s v u => .node (.expr (.starred s v u)) [v.tree]
  | .name s i u => .node (.expr (.name s i u)) []
  | .list s es u => .node (.expr (.list s es u)) (exprTrees es)
  | .tuple s es u => .node (.expr (.tuple s es u)) (exprTrees es)
  | .slice s l u t => .node (.expr (.slice s l u t)) (optionTree l ++ optionTree u ++ optionTree t)

def exprTrees : List Expr → List Tree
  | [] => []
  | e :: rest => e.tree :: exprTrees rest

def optionTree : Option Expr → List Tree
  | none => []
  | some e => [e.tree]

def optionTrees : List (Option Expr) → List Tree
  | [] => []
  | e :: rest => optionTree e ++ optionTrees rest

def clauseTree : Clause Expr → Tree
  | ⟨t, i, cs, a⟩ => .node (.clause ⟨t, i, cs, a⟩) (t.tree :: i.tree :: exprTrees cs)

def clauseTrees : List (Clause Expr) → List Tree
  | [] => []
  | c :: rest => clauseTree c :: clauseTrees rest

def keywordTree : Keyword Expr → Tree
  | ⟨s, n, v⟩ => .node (.keyword ⟨s, n, v⟩) [v.tree]

def keywordTrees : List (Keyword Expr) → List Tree
  | [] => []
  | k :: rest => keywordTree k :: keywordTrees rest

def parameterTree : Parameter Expr → Tree
  | ⟨s, n, a⟩ => .node (.parameter ⟨s, n, a⟩) (optionTree a)

def parameterTrees : List (Parameter Expr) → List Tree
  | [] => []
  | p :: rest => parameterTree p :: parameterTrees rest

def optionParameter : Option (Parameter Expr) → List Tree
  | none => []
  | some p => [parameterTree p]

def parametersTree : Parameters Expr → Tree
  | ⟨po, re, va, ko, kd, kv, de⟩ =>
    .node (.parameters ⟨po, re, va, ko, kd, kv, de⟩)
      (parameterTrees po ++ parameterTrees re ++ optionParameter va ++ parameterTrees ko ++
        optionTrees kd ++ optionParameter kv ++ exprTrees de)
end

end Expressions

section Statements

mutual
def Pattern.tree : Pattern → Tree
  | .value s v => .node (.pattern (.value s v)) [v.tree]
  | .singleton s v => .node (.pattern (.singleton s v)) []
  | .sequence s ps => .node (.pattern (.sequence s ps)) (patternTrees ps)
  | .mapping s ks ps r => .node (.pattern (.mapping s ks ps r)) (exprTrees ks ++ patternTrees ps)
  | .shape s c ps as aps =>
    .node (.pattern (.shape s c ps as aps)) (c.tree :: patternTrees ps ++ patternTrees aps)
  | .star s n => .node (.pattern (.star s n)) []
  | .bind s p n => .node (.pattern (.bind s p n)) (optionPattern p)
  | .either s ps => .node (.pattern (.either s ps)) (patternTrees ps)

def patternTrees : List Pattern → List Tree
  | [] => []
  | p :: rest => p.tree :: patternTrees rest

def optionPattern : Option Pattern → List Tree
  | none => []
  | some p => [p.tree]
end

def WithItem.tree (item : WithItem) : Tree :=
  .node (.withItem item) (item.context.tree :: optionTree item.target)

def Alias.tree (a : Alias) : Tree := .node (.alias a) []

mutual
def Stmt.tree : Stmt → Tree
  | .function s a n ps b ds r =>
    .node (.stmt (.function s a n ps b ds r))
      (parametersTree ps :: stmtTrees b ++ exprTrees ds ++ optionTree r)
  | .cls s n bs ks b ds =>
    .node (.stmt (.cls s n bs ks b ds))
      (exprTrees bs ++ keywordTrees ks ++ stmtTrees b ++ exprTrees ds)
  | .ret s v => .node (.stmt (.ret s v)) (optionTree v)
  | .delete s ts => .node (.stmt (.delete s ts)) (exprTrees ts)
  | .assign s ts v => .node (.stmt (.assign s ts v)) (exprTrees ts ++ [v.tree])
  | .augAssign s t op v => .node (.stmt (.augAssign s t op v)) [t.tree, v.tree]
  | .annAssign s t a v p => .node (.stmt (.annAssign s t a v p)) (t.tree :: a.tree :: optionTree v)
  | .forLoop s a t i b o =>
    .node (.stmt (.forLoop s a t i b o)) (t.tree :: i.tree :: stmtTrees b ++ stmtTrees o)
  | .whileLoop s t b o => .node (.stmt (.whileLoop s t b o)) (t.tree :: stmtTrees b ++ stmtTrees o)
  | .ifElse s t b o => .node (.stmt (.ifElse s t b o)) (t.tree :: stmtTrees b ++ stmtTrees o)
  | .withBlock s a is b =>
    .node (.stmt (.withBlock s a is b)) (is.map WithItem.tree ++ stmtTrees b)
  | .matchOn s e cs => .node (.stmt (.matchOn s e cs)) (e.tree :: caseTrees cs)
  | .raise s e c => .node (.stmt (.raise s e c)) (optionTree e ++ optionTree c)
  | .tryBlock s st b hs o f =>
    .node (.stmt (.tryBlock s st b hs o f))
      (stmtTrees b ++ handlerTrees hs ++ stmtTrees o ++ stmtTrees f)
  | .assert s t m => .node (.stmt (.assert s t m)) (t.tree :: optionTree m)
  | .imports s ns => .node (.stmt (.imports s ns)) (ns.map Alias.tree)
  | .importFrom s m ns l => .node (.stmt (.importFrom s m ns l)) (ns.map Alias.tree)
  | .global s ns => .node (.stmt (.global s ns)) []
  | .nonlocal s ns => .node (.stmt (.nonlocal s ns)) []
  | .expr s v => .node (.stmt (.expr s v)) [v.tree]
  | .pass s => .node (.stmt (.pass s)) []
  | .brk s => .node (.stmt (.brk s)) []
  | .cont s => .node (.stmt (.cont s)) []

def stmtTrees : List Stmt → List Tree
  | [] => []
  | s :: rest => s.tree :: stmtTrees rest

def handlerTree : Handler Stmt → Tree
  | ⟨s, t, n, b⟩ => .node (.handler ⟨s, t, n, b⟩) (optionTree t ++ stmtTrees b)

def handlerTrees : List (Handler Stmt) → List Tree
  | [] => []
  | h :: rest => handlerTree h :: handlerTrees rest

def caseTree : MatchCase Stmt → Tree
  | ⟨p, g, b⟩ => .node (.matchCase ⟨p, g, b⟩) (p.tree :: optionTree g ++ stmtTrees b)

def caseTrees : List (MatchCase Stmt) → List Tree
  | [] => []
  | c :: rest => caseTree c :: caseTrees rest
end

def Module.tree (module : Module) : Tree := .node (.module module) (stmtTrees module.body)

end Statements

section Kinds

def Node.isFunction : Node → Bool
  | .stmt (.function ..) => true
  | _ => false

def Node.isCallable : Node → Bool
  | .stmt (.function ..) | .expr (.lambda ..) => true
  | _ => false

def Node.isLoop : Node → Bool
  | .stmt s => s.isLoop
  | _ => false

def Node.name? : Node → Option String
  | .expr (.name _ id _) => some id
  | _ => none

end Kinds

section Walks

mutual
def Tree.preorder : Tree → List Node
  | .node root branches => root :: preorders branches

def preorders : List Tree → List Node
  | [] => []
  | t :: rest => t.preorder ++ preorders rest
end

mutual
/-- The nodes reached without entering a node that `stop` holds of; that node is left out too. -/
def Tree.reach (stop : Node → Bool) : Tree → List Node
  | .node root branches => if stop root then [] else root :: reaches stop branches

def reaches (stop : Node → Bool) : List Tree → List Node
  | [] => []
  | t :: rest => t.reach stop ++ reaches stop rest
end

mutual
def Tree.height : Tree → Nat
  | .node _ branches => 1 + heights branches

def heights : List Tree → Nat
  | [] => 0
  | t :: rest => max t.height (heights rest)
end

def levels : Nat → List Tree → List Node
  | 0, _ => []
  | _, [] => []
  | depth + 1, trees => trees.map Tree.root ++ levels depth (trees.flatMap Tree.branches)

def Tree.breadthFirst (t : Tree) : List Node := levels t.height [t]

/-- Coming to a node or leaving it, with the nodes around it, the nearest first. -/
inductive Visit where
  | enter (around : List Node) (node : Node)
  | leave (around : List Node) (node : Node)

mutual
def Tree.visits (around : List Node) : Tree → List Visit
  | .node root branches =>
    .enter around root :: branchVisits (root :: around) branches ++ [.leave around root]

def branchVisits (around : List Node) : List Tree → List Visit
  | [] => []
  | t :: rest => t.visits around ++ branchVisits around rest
end

mutual
def Tree.places (around : List Node) : Tree → List (List Node × Node)
  | .node root branches => (around, root) :: branchPlaces (root :: around) branches

def branchPlaces (around : List Node) : List Tree → List (List Node × Node)
  | [] => []
  | t :: rest => t.places around ++ branchPlaces around rest
end

end Walks

end RefactorAdvice.Code
