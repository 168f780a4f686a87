import RefactorAdvice.Text.Blank
import RefactorAdvice.Text.LetterCase

/-!
Comments that silence rules. A line can carry `# noqa`, alone or with a list of codes, or
`# pyrefactor: ignore`, alone or with a list. A directive speaks for its own line and the one
below it. Where a line has both kinds, only the first kind counts.
-/

namespace RefactorAdvice.Suppression

open Text

inductive Scope where
  | everything
  | codes (listed : List (List Char))
deriving DecidableEq, Inhabited

def listed (cut : Char → Bool) (cs : List Char) : List (List Char) :=
  (items [] cs).filterMap fun item =>
    let item := strip item
    if item.isEmpty then none else some (upper item)
where
  items (item : List Char) : List Char → List (List Char)
    | [] => [item.reverse]
    | c :: rest => if cut c then item.reverse :: items [] rest else items (c :: item) rest

/-- A list that names no code stands for all of them. -/
def Scope.ofList (codes : List (List Char)) : Scope :=
  if codes.isEmpty then .everything else .codes codes

section Directives

def noqaWord : List Char := "noqa".toList

def afterNoqa? (cs : List Char) : Option (List Char) :=
  if (cs.take 4).map Char.toLower == noqaWord then some (cs.drop 4) else none

/-- The codes behind a colon; without any the directive stands alone. -/
def noqaScope (rest : List Char) : Scope :=
  match rest with
  | ':' :: tail =>
    let codes := (stripLeft tail).takeWhile fun c => !isBlank c && c != '#'
    if codes.isEmpty then .everything
    else .ofList (listed (fun c => c == ',' || c == ';' || isBlank c) codes)
  | _ => .everything

def noqa? : List Char → Option Scope
  | [] => none
  | c :: rest =>
    if c == '#' then
      match afterNoqa? (stripLeft rest) with
      | some tail => some (noqaScope tail)
      | none => noqa? rest
    else noqa? rest

def ignoreMarker : List Char := "# pyrefactor: ignore".toList

def ignore? (line : List Char) : Option Scope :=
  (afterFirst ignoreMarker line).map fun rest =>
    let rest := strip rest
    if rest.isEmpty then .everything else .ofList (listed (fun c => c == ',' || isBlank c) rest)

def directive? (line : List Char) : Option Scope :=
  match noqa? line with
  | some scope => some scope
  | none => ignore? line

end Directives

/-- Whether a scope holds a rule. No rule at all is silenced only together with every rule. -/
def Scope.covers (rule : Option String) : Scope → Bool
  | .everything => true
  | .codes listed =>
    match rule with
    | none => false
    | some code => listed.contains (upper code.toList)

def lineSuppresses (line : String) (rule : Option String) : Bool :=
  match directive? line.toList with
  | none => false
  | some scope => scope.covers rule

end RefactorAdvice.Suppression
