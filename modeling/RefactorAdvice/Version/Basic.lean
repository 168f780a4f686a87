import RefactorAdvice.Files.Store
import RefactorAdvice.Settings.Load

/-!
The version of the program: the one a project file states. A packed program may carry a project
file of its own; what has been found once is kept.
-/

namespace RefactorAdvice.Version

def own : String := "1.0.26"

def unknown : String := "unknown"

def ofTable (table : List (String × Data)) : Option String :=
  match (Data.lookup "project" table).bind (·.get? "version") with
  | some (.text version) => if version == "" then none else some version
  | _ => none

structure Surroundings where
  store : Store := {}
  /-- Whether the program is packed. -/
  packed : Bool := false
  /-- The folder a packed program was unpacked to. -/
  unpacked : Option String := none
  /-- The place of the program's own file, if it is not in its usual one. -/
  program : Option String := none
  /-- The version that was found before. -/
  known : Option String := none

namespace Surroundings

/-- A relative path without its double dots; none if they lead out of the folder at hand. -/
def inside? (store : Store) (path : Path) : Option (List String) :=
  match store.find path with
  | .ok (names, _) => some names
  | .error _ =>
    path.parts.foldlM (fun names name =>
      if name == ".." then if names.isEmpty then none else some names.dropLast
      else some (names ++ [name])) []

def carried? (s : Surroundings) : Option Path := do
  guard s.packed
  let path := (Path.ofText (← s.unpacked)).child "pyproject.toml"
  match s.store.isFile path with
  | .ok true => return path
  | _ => none

def above? (s : Surroundings) (program : String) : Option Path := do
  let names ← inside? s.store (Path.ofText program)
  guard (3 ≤ names.length)
  return ⟨"", names.take (names.length - 3) ++ ["pyproject.toml"]⟩

def statedIn (s : Surroundings) (path : Path) : Except Settings.Refusal String :=
  match s.store.isFile path, s.store.read path with
  | .ok true, .ok bytes =>
    match Text.decodeUtf8 bytes with
    | .error fault => .error (.badBytes fault)
    | .ok text =>
      match Toml.read (Text.unifyBreaks text.toList) with
      | .error (.number fault) => .error (.badNumber fault)
      | .error _ => .ok unknown
      | .ok table => .ok ((ofTable table).getD unknown)
  | _, _ => .ok unknown

def found (s : Surroundings) : Except Settings.Refusal String :=
  match s.carried?, s.program with
  | some path, _ => s.statedIn path
  | none, none => .ok own
  | none, some program =>
    match s.above? program with
    | some path => s.statedIn path
    | none => .ok unknown

def version (s : Surroundings) : Except Settings.Refusal (String × Surroundings) :=
  match s.known with
  | some version => .ok (version, s)
  | none => s.found.map fun version => (version, { s with known := some version })

def knownVersion (s : Surroundings) : String := s.known.getD unknown

end Surroundings

end RefactorAdvice.Version
