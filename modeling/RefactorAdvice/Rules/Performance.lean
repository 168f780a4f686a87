import RefactorAdvice.Code.Likeness
import RefactorAdvice.Rules.Notice
import RefactorAdvice.Settings.Basic
import RefactorAdvice.Text.LetterCase

/-!
Work done again and again: texts and lists grown inside a loop, the same call repeated in a
loop, a needless `list`, the length of a container compared with zero.

A name counts as a text if it sounds like one, or if the function around it has set it to a
text by then.
-/

namespace RefactorAdvice.Rules.Performance

open Code

section Hints

def sounds (hints : List String) (name : String) : Bool :=
  let name := Text.lower name.toList
  hints.any fun hint => Text.contains hint.toList name

def textHints : List String := ["str", "text", "message", "name"]

def listHints : List String := ["list", "items", "results", "array", "collection"]

end Hints

section Scopes

/-- Names set to a text, for each function around, the innermost first. -/
abbrev Scopes := List (List String)

def Scopes.step (scopes : Scopes) : Visit → Scopes
  | .enter _ (.stmt (.function ..)) => [] :: scopes
  | .leave _ (.stmt (.function ..)) => scopes.tail
  | .enter _ (.stmt (.assign _ targets (.constant _ value))) =>
    match scopes with
    | [] => []
    | names :: rest =>
      if value.isText then (targets.filterMap (Node.name? ∘ Node.expr) ++ names) :: rest
      else names :: rest
  | _ => scopes

def Scopes.isText (scopes : Scopes) (name : String) : Bool :=
  (scopes.head?.any (·.contains name)) || sounds textHints name

end Scopes

section Concatenation

/-- A loop's nodes outside the functions and lambdas in it. -/
def loopNodes (loop : Node) : List Node :=
  match loop with
  | .stmt s => s.tree.reach Node.isCallable
  | _ => []

def textGrowth? (scopes : Scopes) : Node → Option Span
  | .stmt (.augAssign span (.name _ id _) .add _) => if scopes.isText id then some span else none
  | _ => none

def concatenation (limits : Settings.Performance) (silent : Span → Rule → Bool)
    (scopes : Scopes) (nodes : List Node) : Option Notice :=
  let places := (nodes.filterMap (textGrowth? scopes)).filter (!silent · .textConcatenation)
  match places.getLast? with
  | none => none
  | some last =>
    let count := places.length
    if limits.minConcatenations ≤ count then
      some <| Rule.textConcatenation.notice last
        s!"String concatenation in loop using += ({count} times) is inefficient"
        "Use str.join() with a list or io.StringIO for better performance"
    else none

def listGrowth (around : List Node) : Node → Option Notice
  | .stmt (.augAssign span (.name _ id _) .add _) =>
    if around.any Node.isLoop && sounds listHints id then
      some <| Rule.listConcatenation.notice span
        "List concatenation in loop using += may be inefficient"
        "Use list.extend() or list comprehension for better performance"
    else none
  | _ => none

end Concatenation

section RepeatedCalls

structure Group where
  signature : List Mark
  first : Span
  count : Nat

/-- A call joins the group of those alike it, or founds one at the end. -/
def join (signature : List Mark) (span : Span) : List Group → List Group
  | [] => [⟨signature, span, 1⟩]
  | group :: rest =>
    if group.signature == signature then { group with count := group.count + 1 } :: rest
    else group :: join signature span rest

def callSpan? : Node → Option (Span × Expr)
  | .expr e@(.call span ..) => some (span, e)
  | _ => none

def groups (calls : List (Span × Expr)) : Except Failure (List Group) :=
  calls.foldlM (fun found (span, call) => do return join (← call.signature) span found) []

def repeatedCalls (limits : Settings.Performance) (silent : Span → Rule → Bool)
    (nodes : List Node) : Notices :=
  let calls := (nodes.filterMap callSpan?).filter fun (span, _) => !silent span .repeatedCall
  match groups calls with
  | .error failure => [.error failure]
  | .ok found =>
    (found.filter fun group => limits.minDuplicateCalls ≤ group.count).map fun group =>
      let count := group.count
      .ok <| Rule.repeatedCall.notice group.first
        s!"Repeated identical call in loop ({count} times); consider caching the result"
        ("Assign the call result to a variable before the loop " ++
          "or cache it on first use inside the loop")

end RepeatedCalls

section Calls

def redundantList : Expr → Option Notice
  | .call span (.name _ "list" _) (.listComp .. :: _) _ =>
    some <| Rule.redundantList.notice span "Redundant list() conversion of list comprehension"
      "List comprehensions already return lists; remove list() wrapper"
  | _ => none

def isZero : Expr → Bool
  | .constant _ value => value.equals 0
  | _ => false

def lenAdvice? (ops : List CompareOp) : Option (Rule × String × String) :=
  if ops.contains .greater || ops.contains .greaterEq then
    some (.lenPositive, "Use truthiness instead of len() > 0",
      "Use 'if container:' instead of 'if len(container) > 0:'")
  else if ops.contains .eq then
    some (.lenZero, "Use truthiness instead of len() == 0",
      "Use 'if not container:' instead of 'if len(container) == 0:'")
  else if ops.contains .notEq then
    some (.lenZero, "Use truthiness instead of len() != 0",
      "Use 'if container:' instead of 'if len(container) != 0:'")
  else none

/-- A call of `len` directly in a comparison that has a zero on its right. -/
def lenComparison (around : List Node) : Expr → Option Notice
  | .call span (.name _ "len" _) _ _ =>
    match around with
    | .expr (.compare _ _ ops comparators) :: _ =>
      if comparators.any isZero then
        (lenAdvice? ops).map fun (rule, message, suggestion) =>
          rule.notice span message suggestion
      else none
    | _ => none
  | _ => none

end Calls

def check (limits : Settings.Performance) (silent : Span → Rule → Bool) (scopes : Scopes) :
    Visit → Notices
  | .enter around node@(.stmt (.augAssign ..)) => ((listGrowth around node).map .ok).toList
  | .enter around (.expr e@(.call ..)) =>
    ((redundantList e).toList ++ (lenComparison around e).toList).map .ok
  | .leave _ node =>
    if node.isLoop then
      let nodes := loopNodes node
      ((concatenation limits silent scopes nodes).map .ok).toList ++
        repeatedCalls limits silent nodes
    else []
  | _ => []

def walk (limits : Settings.Performance) (silent : Span → Rule → Bool) :
    Scopes → List Visit → Notices
  | _, [] => []
  | scopes, visit :: rest =>
    check limits silent scopes visit ++ walk limits silent (scopes.step visit) rest

def notices (limits : Settings.Performance) (silent : Span → Rule → Bool) (module : Module) :
    Notices :=
  walk limits silent [] (module.tree.visits [])

end RefactorAdvice.Rules.Performance
