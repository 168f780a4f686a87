import RefactorAdvice.Files.Path
import RefactorAdvice.Text.Quoted
import RefactorAdvice.Text.Utf8

/-!
A tree of files: regular files with their bytes, links and folders. Paths are followed name by
name from the folder in which a run takes place.
-/

namespace RefactorAdvice

inductive Entry where
  | file (content : ByteArray)
  | link (target : String)
  | folder
deriving Inhabited

/-- Entries under the names that lead to them, and the full path of the folder they are in. -/
structure Store where
  entries : List (List String × Entry) := []
  home : String := ""
deriving Inhabited

inductive FileFault where
  | missing | notFolder | isFolder | manyLinks | longName
  /-- The path holds a zero character. -/
  | zeroInPath
deriving DecidableEq, Inhabited

namespace FileFault

def number : FileFault → Nat
  | .missing => 2
  | .notFolder => 20
  | .isFolder => 21
  | .longName => 36
  | .manyLinks => 40
  | .zeroInPath => 0

def words : FileFault → String
  | .missing => "No such file or directory"
  | .notFolder => "Not a directory"
  | .isFolder => "Is a directory"
  | .longName => "File name too long"
  | .manyLinks => "Too many levels of symbolic links"
  | .zeroInPath => "embedded null byte"

def message (f : FileFault) (path : String) : String :=
  match f with
  | .zeroInPath => f.words
  | f => "[Errno " ++ toString f.number ++ "] " ++ f.words ++ ": " ++ Text.quoted path

def isAbsence : FileFault → Bool
  | .missing | .notFolder | .manyLinks | .zeroInPath => true
  | _ => false

end FileFault

namespace Store

/-- The entry under names that lead through no link. The empty list leads to the top folder. -/
def entryAt (s : Store) (names : List String) : Option Entry :=
  if names.isEmpty then some .folder else (s.entries.find? (·.1 == names)).map (·.2)

def insert (s : Store) (names : List String) (entry : Entry) : Store :=
  let others := s.entries.filter (·.1 != names)
  let above := ((List.range names.length).drop 1).map names.take
  let missing := above.filter fun names => !others.any (·.1 == names)
  { s with entries := others ++ missing.map (·, .folder) ++ [(names, entry)] }

def linkLimit : Nat := 40

def longestName : Nat := 255

/--
The entry to which names lead from a folder, with the names that lead there without a link.
`links` bounds the links followed, `follow` tells whether a link at the very end is.
-/
def locate (s : Store) (follow : Bool) : Nat → Nat → List String → List String →
    Except FileFault (List String × Entry)
  | 0, _, _, _ => .error .manyLinks
  | _, _, here, [] =>
    match s.entryAt here with
    | some entry => .ok (here, entry)
    | none => .error .missing
  | fuel + 1, links, here, name :: rest =>
    match s.entryAt here with
    | some .folder =>
      if name == "." || name == "" then s.locate follow fuel links here rest
      else if name == ".." then s.locate follow fuel links here.dropLast rest
      else if longestName < name.utf8ByteSize then .error .longName
      else
        let there := here ++ [name]
        match s.entryAt there with
        | none => .error .missing
        | some (.link target) =>
          if rest.isEmpty && !follow then .ok (there, .link target)
          else
            match links with
            | 0 => .error .manyLinks
            | links + 1 =>
              let wanted := Path.ofText target
              if wanted.root != "" then .error .missing
              else s.locate follow fuel links here (wanted.parts ++ rest)
        | some _ => s.locate follow fuel links there rest
    | some _ => .error .notFolder
    | none => .error .missing

def stepLimit (s : Store) (p : Path) : Nat :=
  let longest := s.entries.foldl (fun n (_, entry) =>
    match entry with
    | .link target => max n target.length
    | _ => n) 0
  p.parts.length + (linkLimit + 1) * (longest + 1) + 2

def find (s : Store) (p : Path) : Except FileFault (List String × Entry) :=
  if p.text.contains '\x00' then .error .zeroInPath
  else if p.root != "" then .error .missing
  else s.locate true (s.stepLimit p) linkLimit [] p.parts

def holds (s : Store) (p : Path) (test : Entry → Bool) : Except FileFault Bool :=
  match s.find p with
  | .ok (_, entry) => .ok (test entry)
  | .error fault => if fault.isAbsence then .ok false else .error fault

def exists? (s : Store) (p : Path) : Except FileFault Bool := s.holds p fun _ => true

def isFile (s : Store) (p : Path) : Except FileFault Bool :=
  s.holds p fun
    | .file _ => true
    | _ => false

def isFolder (s : Store) (p : Path) : Except FileFault Bool :=
  s.holds p fun
    | .folder => true
    | _ => false

def read (s : Store) (p : Path) : Except FileFault ByteArray :=
  match s.find p with
  | .ok (_, .file content) => .ok content
  | .ok _ => .error .isFolder
  | .error fault => .error fault

section Writing

/--
The free place to which names lead from a folder: all but the last of them lead to folders, the
last one to nothing. A link that leads to such a place is followed there.
-/
def vacancy (s : Store) : Nat → Nat → List String → List String → Option (List String)
  | 0, _, _, _ => none
  | _, _, _, [] => none
  | fuel + 1, links, here, name :: rest =>
    match s.entryAt here with
    | some .folder =>
      if name == "." || name == "" then s.vacancy fuel links here rest
      else if name == ".." then s.vacancy fuel links here.dropLast rest
      else
        let there := here ++ [name]
        match s.entryAt there, links with
        | none, _ => if rest.isEmpty then some there else none
        | some (.link _), 0 => none
        | some (.link target), links + 1 =>
          let wanted := Path.ofText target
          if wanted.root != "" then none
          else s.vacancy fuel links here (wanted.parts ++ rest)
        | some _, _ => s.vacancy fuel links there rest
    | _ => none

def destination (s : Store) (p : Path) : Except FileFault (List String) :=
  match s.find p with
  | .ok (_, .folder) => .error .isFolder
  | .ok (names, _) => .ok names
  | .error .missing =>
    if p.root != "" then .error .missing
    else
      match s.vacancy (s.stepLimit p) linkLimit [] p.parts with
      | some names => .ok names
      | none => .error .missing
  | .error fault => .error fault

def write (s : Store) (p : Path) (text : String) : Except FileFault Store :=
  (s.destination p).map fun names => s.insert names (.file text.toUTF8)

end Writing

def fullPath (s : Store) (names : List String) : String := "/".intercalate (s.home :: names)

section Walking

def namesIn (s : Store) (folder : List String) : List String :=
  let depth := folder.length
  let names := s.entries.filterMap fun (names, _) =>
    if names.length = depth + 1 && names.take depth == folder then names.getLast? else none
  names.mergeSort fun a b => decide (a ≤ b)

def leadsToFolder (s : Store) (folder : List String) (name : String) : Bool :=
  match s.locate true (s.stepLimit ⟨"", folder ++ [name]⟩) linkLimit [] (folder ++ [name]) with
  | .ok (_, .folder) => true
  | _ => false

def isLink (s : Store) (names : List String) : Bool :=
  match s.entryAt names with
  | some (.link _) => true
  | _ => false

/--
All names of files below a folder, each with the path it is reached by: those of a folder
first, then those of its folders in turn. Links to folders are not entered.
-/
def filesBelow (s : Store) : Nat → List String → Path → List Path
  | 0, _, _ => []
  | fuel + 1, folder, path =>
    let names := s.namesIn folder
    let (folders, files) := names.partition (s.leadsToFolder folder)
    let inner := folders.filter fun name => !s.isLink (folder ++ [name])
    files.map path.child ++
      inner.flatMap fun name => s.filesBelow fuel (folder ++ [name]) (path.child name)

end Walking

end Store

end RefactorAdvice
