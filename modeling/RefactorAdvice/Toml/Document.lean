import RefactorAdvice.Toml.Value

/-!
Reading a TOML document: one statement after the other into a table. What has been declared
once, or written down whole, may not be declared or extended again.
-/

namespace RefactorAdvice.Toml

structure Draft where
  entries : Entries := []
  /-- Keys of tables that may not be declared again. -/
  declared : List Key := []
  /-- Keys that join the declared ones when the next table begins. -/
  pending : List Key := []
  /-- Keys of values written down whole: nothing may be added behind them. -/
  frozen : List Key := []
  /-- The table that statements go into. -/
  header : Key := []

namespace Draft

def close (d : Draft) : Draft := { d with declared := d.pending ++ d.declared, pending := [] }

def openTable (d : Draft) (key : Key) (s : Spot) : Except Fault Draft :=
  if d.declared.contains key || coveredBy d.frozen key then s.fail (.declaredTwice key)
  else
    match reach true some key d.entries with
    | none => s.fail .overwrites
    | some entries => .ok { d with entries, declared := key :: d.declared, header := key }

def appendTable (name : String) (entries : Entries) : Option Entries :=
  match Data.lookup name entries with
  | none => some (entries ++ [(name, .list [.table []])])
  | some (.list items) => some (Data.assign name (.list (items ++ [.table []])) entries)
  | some _ => none

/-- Opens one more table of a list of tables; what was declared below it may be declared anew. -/
def openListTable (d : Draft) (key : Key) (s : Spot) : Except Fault Draft :=
  if coveredBy d.frozen key then s.fail (.frozen key)
  else
    let kept (keys : List Key) : List Key := keys.filter fun other => !key.isPrefixOf other
    match reach true (appendTable (key.getLast?.getD "")) key.dropLast d.entries with
    | none => s.fail .overwrites
    | some entries =>
      .ok { d with
        entries, declared := key :: kept d.declared, frozen := kept d.frozen, header := key }

/-- The keys of the tables between the header and the last name of a dotted key. -/
def between (header key : Key) : List Key :=
  ((List.range key.length).drop 1).map fun count => header ++ key.take count

def put (d : Draft) (key : Key) (value : Data) (s : Spot) : Except Fault Draft :=
  let path := between d.header key
  let above := d.header ++ key.dropLast
  let name := key.getLast?.getD ""
  match path.find? d.declared.contains with
  | some taken => s.fail (.redefined taken)
  | none =>
    if !above.isEmpty && coveredBy d.frozen above then s.fail (.frozen above)
    else
      match nest? true above d.entries with
      | none => s.fail .overwrites
      | some inner =>
        if (Data.lookup name inner).isSome then s.fail .overwrites
        else
          match reach true (fun inner => some (inner ++ [(name, value)])) above d.entries with
          | none => s.fail .overwrites
          | some entries =>
            .ok { d with
              entries
              pending := path ++ d.pending
              frozen := if isNested value then (d.header ++ key) :: d.frozen else d.frozen }

end Draft

section Statements

def tableEnd (word : String) (reason : Reason) (s : Spot) : Except Fault Spot :=
  if s.startsWith word then .ok (s.skip word.length) else s.fail reason

def isKeyStart (c : Char) : Bool := isBareKeyChar c || c == '"' || c == '\''

def statement (d : Draft) (s : Spot) : Except Fault (Draft × Spot) :=
  match s.rest with
  | '[' :: '[' :: _ => do
    let (name, s) ← key (s.skip 2).skipSpace
    let d ← d.close.openListTable name s
    return (d, (← tableEnd "]]" .noArrayTableEnd s).skipSpace)
  | '[' :: _ => do
    let (name, s) ← key (s.skip 1).skipSpace
    let d ← d.close.openTable name s
    return (d, (← tableEnd "]" .noTableEnd s).skipSpace)
  | c :: _ =>
    if isKeyStart c then do
      let (name, item, s) ← keyValue s
      let d ← d.put name item s
      return (d, s.skipSpace)
    else if c == '#' then .ok (d, s)
    else s.fail .badStatement
  | [] => .ok (d, s)

def statements : Nat → Draft → Spot → Except Fault Entries
  | 0, d, _ => .ok d.entries
  | fuel + 1, d, s =>
    let s := s.skipSpace
    match s.rest with
    | [] => .ok d.entries
    | '\n' :: _ => statements fuel d (s.skip 1)
    | _ => do
      let (d, s) ← statement d s
      let s ← skipComment s
      match s.rest with
      | [] => return d.entries
      | '\n' :: _ => statements fuel d (s.skip 1)
      | _ => s.fail .noLineEnd

end Statements

def joinBreaks : List Char → List Char
  | '\r' :: '\n' :: rest => '\n' :: joinBreaks rest
  | c :: rest => c :: joinBreaks rest
  | [] => []

def read (text : List Char) : Except Fault Entries :=
  let text := joinBreaks text
  statements (text.length + 1) {} ⟨text, 0⟩

def faultMessage (text : List Char) (fault : Fault) : String := fault.message (joinBreaks text)

end RefactorAdvice.Toml
