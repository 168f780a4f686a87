import RefactorAdvice.Files.Path

/-!
Wildcards: `*` for any run of characters, `?` for one, and a bracket for one of a set. A bracket
that is never closed stands for itself.
-/

namespace RefactorAdvice.Glob

structure Span where
  low : Char
  high : Char
deriving DecidableEq, Inhabited

inductive Token where
  | run
  | one
  | char (c : Char)
  | set (negated : Bool) (spans : List Span)
deriving DecidableEq, Inhabited

section Sets

/--
A bracket's text cut at the hyphens that make ranges. A hyphen does so unless it is the first
character, or directly behind the end of the range before.
-/
def chunks (least : Nat) (done : List Char) : List Char → List (List Char)
  | [] => [done.reverse]
  | c :: rest =>
    if c == '-' && least ≤ done.length then done.reverse :: chunks 2 [] rest
    else chunks least (c :: done) rest

def closeChunks (cs : List (List Char)) : List (List Char) :=
  match cs.reverse with
  | [] :: previous :: earlier => ((previous ++ ['-']) :: earlier).reverse
  | _ => cs

def dropEmpty : List (List Char) → List (List Char)
  | [] => []
  | first :: rest =>
    match dropEmpty rest with
    | [] => [first]
    | next :: later =>
      match first.getLast?, next.head? with
      | some low, some high =>
        if high < low then (first.dropLast ++ next.drop 1) :: later else first :: next :: later
      | _, _ => first :: next :: later

def members : List (List Char) → List Span
  | [] => []
  | first :: rest =>
    let own := first.map fun c => ⟨c, c⟩
    match rest with
    | [] => own
    | next :: _ =>
      match first.getLast?, next.head? with
      | some low, some high => own ++ ⟨low, high⟩ :: members rest
      | _, _ => own ++ ⟨'-', '-'⟩ :: members rest

/--
The set between brackets. An exclamation mark that leads when backward ranges are gone negates
it; one that leads from the start is no lower end of a range.
-/
def setOf (inside : List Char) : Token :=
  let least := if inside.head? == some '!' then 2 else 1
  match dropEmpty (closeChunks (chunks least [] inside)) with
  | ('!' :: first) :: rest => .set true (members (first :: rest))
  | cs => .set false (members cs)

def bracket? (cs : List Char) : Option (List Char × List Char) :=
  let (mark, body) := match cs with
    | '!' :: body => (['!'], body)
    | body => ([], body)
  -- a closing bracket that comes first is a member
  let (first, body) := match body with
    | ']' :: body => ([']'], body)
    | body => ([], body)
  let inside := body.takeWhile (· != ']')
  match body.drop inside.length with
  | _ :: rest => some (mark ++ first ++ inside, rest)
  | [] => none

end Sets

def tokensFrom : Nat → List Char → List Token
  | 0, _ => []
  | _, [] => []
  | fuel + 1, c :: rest =>
    if c == '*' then .run :: tokensFrom fuel rest
    else if c == '?' then .one :: tokensFrom fuel rest
    else if c == '[' then
      match bracket? rest with
      | some (inside, after) => setOf inside :: tokensFrom fuel after
      | none => .char '[' :: tokensFrom fuel rest
    else .char c :: tokensFrom fuel rest

def tokens (pattern : List Char) : List Token := tokensFrom pattern.length pattern

def Token.accepts (c : Char) : Token → Bool
  | .run => false
  | .one => true
  | .char d => c == d
  | .set negated spans => negated != spans.any fun s => s.low ≤ c && c ≤ s.high

def endings : List Char → List (List Char)
  | [] => [[]]
  | c :: rest => (c :: rest) :: endings rest

def matchTokens : List Token → List Char → Bool
  | [], cs => cs.isEmpty
  | .run :: rest, cs => (endings cs).any (matchTokens rest)
  | token :: rest, cs =>
    match cs with
    | [] => false
    | c :: tail => token.accepts c && matchTokens rest tail

def fits (pattern text : String) : Bool := matchTokens (tokens pattern.toList) text.toList

section Paths

inductive PatternFault where
  | empty
deriving DecidableEq, Inhabited

def PatternFault.message : PatternFault → String
  | .empty => "empty pattern"

def fitsFromEnd (patterns names : List String) : Bool :=
  (patterns.reverse.zip names.reverse).all fun (pattern, name) => fits pattern name

/-- A relative pattern is held against the end of a path, an absolute one against all of it. -/
def fitsPath (pattern : String) (path : Path) : Except PatternFault Bool :=
  let wanted := Path.ofText pattern
  let names := path.components
  if wanted.components.isEmpty then .error .empty
  else if wanted.root != "" then
    .ok (wanted.root == path.root && wanted.components.length == names.length &&
      fitsFromEnd wanted.parts names)
  else .ok (wanted.parts.length ≤ names.length && fitsFromEnd wanted.parts names)

def excludes (pattern : String) (path : Path) : Except PatternFault Bool := do
  let pattern := String.ofList (pattern.toList.map fun c => if c == '\\' then '/' else c)
  if ← fitsPath pattern path then return true
  return fits pattern path.text || fits pattern path.name

def excludesAny : List String → Path → Except PatternFault Bool
  | [], _ => .ok false
  | pattern :: rest, path => do
    if ← excludes pattern path then return true
    excludesAny rest path

end Paths

end RefactorAdvice.Glob
