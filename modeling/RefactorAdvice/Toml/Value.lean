import RefactorAdvice.Toml.Scalar

/-!
Keys and values of a TOML document, and tables that grow by keys of several names.
-/

namespace RefactorAdvice.Toml

section Tables

abbrev Entries := List (String × Data)

/--
Changes the table behind names; tables on the way that are not there are made. With `lists` a
list of tables stands for its last one. Anything else on the way is an obstacle.
-/
def reach (lists : Bool) (change : Entries → Option Entries) : Key → Entries → Option Entries
  | [], entries => change entries
  | name :: rest, entries => do
    let inner ← match Data.lookup name entries with
      | none => (reach lists change rest []).map Data.table
      | some (.table inner) => (reach lists change rest inner).map Data.table
      | some (.list items) =>
        match lists, items.getLast? with
        | true, some (.table inner) =>
          (reach lists change rest inner).map fun last =>
            Data.list (items.dropLast ++ [.table last])
        | _, _ => none
      | some _ => none
    return Data.assign name inner entries

def nest? (lists : Bool) : Key → Entries → Option Entries
  | [], entries => some entries
  | name :: rest, entries =>
    match Data.lookup name entries with
    | none => some []
    | some (.table inner) => nest? lists rest inner
    | some (.list items) =>
      match lists, items.getLast? with
      | true, some (.table inner) => nest? lists rest inner
      | _, _ => none
    | some _ => none

def coveredBy (keys : List Key) (key : Key) : Bool := keys.any (·.isPrefixOf key)

end Tables

section Keys

def isBareKeyChar (c : Char) : Bool :=
  c.isAlphanum || c == '-' || c == '_'

def keyPart (s : Spot) : Except Fault (String × Spot) :=
  match s.rest with
  | '\'' :: _ => (literal (s.skip 1)).map fun (name, s) => (String.ofList name, s)
  | '"' :: _ => (quoted false (s.skip 1)).map fun (name, s) => (String.ofList name, s)
  | c :: _ =>
    if isBareKeyChar c then
      let name := s.rest.takeWhile isBareKeyChar
      .ok (String.ofList name, s.skip name.length)
    else s.fail .badKey
  | [] => s.fail .badKey

def keyFrom : Nat → Key → Spot → Except Fault (Key × Spot)
  | 0, done, s => .ok (done.reverse, s)
  | fuel + 1, done, s => do
    let (name, s) ← keyPart s
    let s := s.skipSpace
    match s.rest with
    | '.' :: _ => keyFrom fuel (name :: done) (s.skip 1).skipSpace
    | _ => return ((name :: done).reverse, s)

def key (s : Spot) : Except Fault (Key × Spot) := keyFrom (s.rest.length + 1) [] s

def equals (s : Spot) : Except Fault Spot :=
  match s.rest with
  | '=' :: _ => .ok (s.skip 1).skipSpace
  | _ => s.fail .noEquals

end Keys

section Values

def skipFiller : Nat → Spot → Except Fault Spot
  | 0, s => .ok s
  | fuel + 1, s => do
    let after ← skipComment (s.skipWhile fun c => Spot.isSpace c || c == '\n')
    if after.position = s.position then return after else skipFiller fuel after

def filler (s : Spot) : Except Fault Spot := skipFiller (s.rest.length + 1) s

def scalar? (s : Spot) : Option (Except Fault (Data × Spot)) :=
  match text? s with
  | some found => some (found.map fun (cs, s) => (.text (String.ofList cs), s))
  | none =>
    if s.startsWith "true" then some (.ok (.bool true, s.skip 4))
    else if s.startsWith "false" then some (.ok (.bool false, s.skip 5))
    else ((moment? s).or (number? s)).or ((special? s).map .ok)

def isNested : Data → Bool
  | .list _ | .table _ => true
  | _ => false

/-- An inline table on its way: its entries, and the keys behind which nothing may be added. -/
structure Inline where
  entries : Entries := []
  frozen : List Key := []

def Inline.put (t : Inline) (key : Key) (value : Data) (s : Spot) : Except Fault Inline :=
  let above := key.dropLast
  let name := key.getLast?.getD ""
  if coveredBy t.frozen key then s.fail (.frozen key)
  else
    match nest? false above t.entries with
    | none => s.fail .overwrites
    | some inner =>
      if (Data.lookup name inner).isSome then s.fail (.duplicate name)
      else
        match reach false (fun inner => some (inner ++ [(name, value)])) above t.entries with
        | none => s.fail .overwrites
        | some entries =>
          .ok ⟨entries, if isNested value then key :: t.frozen else t.frozen⟩

mutual
def value : Nat → Spot → Except Fault (Data × Spot)
  | 0, s => s.fail .badValue
  | fuel + 1, s =>
    match s.rest with
    | '[' :: _ => do
      let s ← filler (s.skip 1)
      match s.rest with
      | ']' :: _ => return (.list [], s.skip 1)
      | _ => items fuel [] s
    | '\x7b' :: _ =>
      let s := (s.skip 1).skipSpace
      match s.rest with
      | '\x7d' :: _ => .ok (.table [], s.skip 1)
      | _ => pairs fuel {} s
    | _ =>
      match scalar? s with
      | some found => found
      | none => s.fail .badValue

def items : Nat → List Data → Spot → Except Fault (Data × Spot)
  | 0, _, s => s.fail .openArray
  | fuel + 1, done, s => do
    let (item, s) ← value fuel s
    let s ← filler s
    match s.rest with
    | ']' :: _ => return (.list (item :: done).reverse, s.skip 1)
    | ',' :: _ =>
      let s ← filler (s.skip 1)
      match s.rest with
      | ']' :: _ => return (.list (item :: done).reverse, s.skip 1)
      | _ => items fuel (item :: done) s
    | _ => s.fail .openArray

def pairs : Nat → Inline → Spot → Except Fault (Data × Spot)
  | 0, _, s => s.fail .openTable
  | fuel + 1, done, s => do
    let (name, s) ← key s
    let (item, s) ← value fuel (← equals s)
    let done ← done.put name item s
    let s := s.skipSpace
    match s.rest with
    | '\x7d' :: _ => return (.table done.entries, s.skip 1)
    | ',' :: _ => pairs fuel done (s.skip 1).skipSpace
    | _ => s.fail .openTable
end

def keyValue (s : Spot) : Except Fault (Key × Data × Spot) := do
  let (name, s) ← key s
  let s ← equals s
  let (item, s) ← value (s.rest.length + 1) s
  return (name, item, s)

end Values

end RefactorAdvice.Toml
