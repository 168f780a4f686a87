import RefactorAdvice.Ini.Document

/-!
References in the values of options: `%(name)s` stands for the value of another option of the
same section, with the references in that one resolved in turn, and `%%` for a percent sign.
-/

namespace RefactorAdvice.Ini

inductive Piece where
  | text (cs : List Char)
  | reference (name : String)
  /-- A reference that does not close; the rest of the value is kept. -/
  | openReference (rest : String)
  /-- A percent sign with neither a name nor a percent sign behind it. -/
  | lonePercent (rest : String)
deriving DecidableEq, Inhabited

section Pieces

def reference? (cs : List Char) : Option (List Char × List Char) :=
  match cs with
  | '%' :: '(' :: rest =>
    let name := rest.takeWhile (· != ')')
    match rest.drop name.length with
    | ')' :: 's' :: after => if name.isEmpty then none else some (name, after)
    | _ => none
  | _ => none

def piecesFrom : Nat → List Char → List Piece
  | 0, _ => []
  | fuel + 1, cs =>
    match cs with
    | [] => []
    | '%' :: '%' :: rest => .text ['%'] :: piecesFrom fuel rest
    | '%' :: '(' :: _ =>
      match reference? cs with
      | some (name, rest) =>
        .reference (String.ofList (Text.lower name)) :: piecesFrom fuel rest
      | none => [.openReference (String.ofList cs)]
    | '%' :: _ => [.lonePercent (String.ofList cs)]
    | c :: rest => .text [c] :: piecesFrom fuel rest

def pieces (value : String) : List Piece := piecesFrom value.length value.toList

end Pieces

inductive ReferenceFault where
  | unknown (header option raw name : String)
  | tooDeep (header option raw : String)
  | openReference (rest : String)
  | lonePercent (rest : String)
deriving DecidableEq, Inhabited

def depthLimit : Nat := 10

def ReferenceFault.message : ReferenceFault → String
  | .unknown header option raw name =>
    "Bad value substitution: option " ++ Text.quoted option ++ " in section " ++
      Text.quoted header ++ " contains an interpolation key " ++ Text.quoted name ++
      " which is not a valid option name. Raw value: " ++ Text.quoted raw
  | .tooDeep header option raw =>
    "Recursion limit exceeded in value substitution: option " ++ Text.quoted option ++
      " in section " ++ Text.quoted header ++ " contains an interpolation key which cannot be " ++
      s!"substituted in {depthLimit} steps. Raw value: " ++ Text.quoted raw
  | .openReference rest => "bad interpolation variable reference " ++ Text.quoted rest
  | .lonePercent rest => "'%' must be followed by '%' or '(', found: " ++ Text.quoted rest

structure Asked where
  header : String
  option : String
  raw : String

/-- A value with its references resolved, at most so many deep. -/
def resolve (look : String → Option String) (asked : Asked) :
    Nat → String → Except ReferenceFault String
  | 0, _ => .error (.tooDeep asked.header asked.option asked.raw)
  | depth + 1, value => do
    let parts ← (pieces value).mapM fun
      | .text cs => .ok (String.ofList cs)
      | .openReference rest => .error (.openReference rest)
      | .lonePercent rest => .error (.lonePercent rest)
      | .reference name =>
        match look name with
        | none => .error (.unknown asked.header asked.option asked.raw name)
        | some found =>
          if found.contains '%' then resolve look asked depth found else .ok found
    return String.join parts

def Document.get? (d : Document) (header option : String) :
    Option (Except ReferenceFault String) :=
  (d.raw? header option).map fun raw =>
    resolve (d.raw? header) ⟨header, option, raw⟩ depthLimit raw

end RefactorAdvice.Ini
