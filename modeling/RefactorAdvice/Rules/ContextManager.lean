import RefactorAdvice.Code.Tree
import RefactorAdvice.Rules.Notice

/-!
Calls that open a resource outside a `with` block.
-/

namespace RefactorAdvice.Rules.ContextManager

open Code

def openers : List String :=
  ["open", "urlopen", "NamedTemporaryFile", "SpooledTemporaryFile", "TemporaryDirectory",
   "TemporaryFile", "ZipFile", "PyZipFile", "TarFile"]

def openingMethods : List String := ["open"]

def opener? : Expr → Option String
  | .call _ (.name _ id _) _ _ => if openers.contains id then some id else none
  | .call _ (.attribute _ _ attr _) _ _ => if openingMethods.contains attr then some attr else none
  | _ => none

def innerOpener? (value : Expr) : Option String :=
  match opener? value, value with
  | some name, _ => some name
  | none, .call _ (.attribute _ receiver _ _) _ _ => opener? receiver
  | none, _ => none

def Node.isWith : Node → Bool
  | .stmt (.withBlock ..) => true
  | _ => false

/-- Whether a `with` block stands around, up to the nearest function. -/
def sheltered (around : List Node) : Bool :=
  (around.takeWhile fun node => !node.isFunction).any Node.isWith

def opened? : Node → Option (Span × String)
  | .stmt (.assign span _ value) => (opener? value).map (span, ·)
  | .stmt (.expr span value) => (innerOpener? value).map (span, ·)
  | _ => none

def check (around : List Node) (node : Node) : Option Notice :=
  match opened? node with
  | none => none
  | some (span, name) =>
    if sheltered around then none
    else
      some <| Rule.unmanagedResource.notice span
        s!"Resource-allocating operation '{name}' should use 'with' statement"
        s!"Use 'with {name}(...) as resource:' to ensure proper resource cleanup"

def notices (module : Module) : Notices :=
  (module.tree.places []).filterMap fun (around, node) => (check around node).map .ok

end RefactorAdvice.Rules.ContextManager
