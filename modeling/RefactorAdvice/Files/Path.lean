/-!
Paths as lists of names. Doubled slashes and single dots say nothing and are left out; a double
dot stays, since what it leads to depends on links.
-/

namespace RefactorAdvice

/-- `root` is empty for a relative path and otherwise one slash, or two where just two lead. -/
structure Path where
  root : String
  parts : List String
deriving DecidableEq, Inhabited

namespace Path

def namesFrom (name : List Char) : List Char → List String
  | [] => [String.ofList name.reverse]
  | c :: rest =>
    if c == '/' then String.ofList name.reverse :: namesFrom [] rest
    else namesFrom (c :: name) rest

def isVoid (name : String) : Bool := name == "" || name == "."

def ofText (text : String) : Path :=
  let cs := text.toList
  let slashes := (cs.takeWhile (· == '/')).length
  let root := if slashes = 0 then "" else if slashes = 2 then "//" else "/"
  ⟨root, (namesFrom [] cs).filter fun name => !isVoid name⟩

def text (p : Path) : String :=
  if p.root == "" && p.parts.isEmpty then "." else p.root ++ "/".intercalate p.parts

def name (p : Path) : String := p.parts.getLast?.getD ""

/-- The end of the last name from its last dot on; none if the dot is its first or last
character. -/
def suffix (p : Path) : String :=
  let reversed := p.name.toList.reverse
  let ending := reversed.takeWhile (· != '.')
  let before := (reversed.drop ending.length).drop 1
  if ending.isEmpty || before.isEmpty || ending.length = reversed.length then ""
  else String.ofList ('.' :: ending.reverse)

def child (p : Path) (name : String) : Path := { p with parts := p.parts ++ [name] }

def components (p : Path) : List String := if p.root == "" then p.parts else p.root :: p.parts

def parent (p : Path) : Path := { p with parts := p.parts.dropLast }

end Path

end RefactorAdvice
