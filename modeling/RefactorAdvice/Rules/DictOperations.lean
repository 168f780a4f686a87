import RefactorAdvice.Code.Render
import RefactorAdvice.Rules.Notice

/-!
Roundabout uses of dictionaries: a test before a lookup, a needless `.keys()`, a lookup of the
key being iterated, a dictionary made from a list of pairs.
-/

namespace RefactorAdvice.Rules.DictOperations

open Code

def shortName? : Expr → Option String
  | .name _ id _ => some id
  | .attribute _ _ attr _ => some attr
  | _ => none

section Lookup

/-- `if key in dict: var = dict[key]` with `else: var = default`. -/
structure Lookup where
  var : String
  key : String
  dict : String
  default : Expr

def Lookup.of? : Stmt → Option Lookup
  | .ifElse _ (.compare _ (.name _ key _) [.member] (.name _ dict _ :: _))
      [.assign _ [.name _ var _] (.subscript _ (.name _ dict' _) (.name _ key' _) _)]
      [.assign _ [.name _ var' _] default] =>
    if var == var' && dict == dict' && key == key' then some { var, key, dict, default } else none
  | _ => none

def lookup (s : Stmt) : Option (Except Failure Notice) :=
  (Lookup.of? s).map fun found => do
    let default ← found.default.render
    let var := found.var
    let key := found.key
    let dict := found.dict
    return Rule.lookupWithDefault.notice s.span
      "Consider using dict.get() instead of if/else for key lookup"
      s!"Use '{var} = {dict}.get({key}, {default})' instead of if/else block"

end Lookup

section Keys

def keysOf? : Expr → Option String
  | .call _ (.attribute _ dict "keys" _) _ _ => shortName? dict
  | _ => none

def keysMembership : Expr → Option Notice
  | .compare span _ [.member] (comparator :: _) =>
    (keysOf? comparator).map fun dict =>
      Rule.needlessKeys.notice span "Unnecessary .keys() call in membership test"
        s!"Use 'key in {dict}' instead of 'key in {dict}.keys()'"
  | _ => none

def targetName : Expr → String
  | .name _ id _ => id
  | _ => "item"

def keysIteration (span : Span) (target iter : Expr) : Option Notice :=
  (keysOf? iter).map fun dict =>
    let name := targetName target
    Rule.needlessKeys.notice span "Unnecessary .keys() call when iterating dictionary"
      s!"Use 'for {name} in {dict}:' instead of 'for {name} in {dict}.keys():'"

end Keys

section Items

def isLookup (dict key : String) : Node → Bool
  | .expr (.subscript _ (.name _ d _) (.name _ k _) _) => d == dict && k == key
  | _ => false

def itemsInstead (span : Span) (target iter : Expr) (body : List Stmt) : Option Notice :=
  match target, shortName? iter with
  | .name _ key _, some dict =>
    if (preorders (stmtTrees body)).any (isLookup dict key) then
      some <| Rule.itemsInstead.notice span
        "Consider using .items() to access both keys and values"
        s!"Use 'for {key}, value in {dict}.items():' to avoid repeated dict lookups"
    else none
  | _, _ => none

end Items

def pairs : Expr → Option Notice
  | .call span (.name _ "dict" _) (.listComp _ (.tuple _ [_, _] _) _ :: _) _ =>
    some <| Rule.dictOfPairs.notice span
      "Consider using dictionary comprehension instead of dict()"
      ("Use '\x7bk: v for ...\x7d' instead of 'dict([(k, v) for ...])' " ++
        "for better readability and performance")
  | _ => none

def check : Node → Notices
  | .stmt s@(.ifElse ..) => (lookup s).toList
  | .stmt (.forLoop span false target iter body _) =>
    ((keysIteration span target iter).toList ++
      (itemsInstead span target iter body).toList).map .ok
  | .expr e@(.compare ..) => ((keysMembership e).map .ok).toList
  | .expr e@(.call ..) => ((pairs e).map .ok).toList
  | _ => []

def notices (module : Module) : Notices := module.tree.preorder.flatMap check

end RefactorAdvice.Rules.DictOperations
