import RefactorAdvice.Settings.OfSections
import RefactorAdvice.Settings.OfTable

/-!
Settings from files: from one that is named, or from those a folder may hold.
-/

namespace RefactorAdvice.Settings

def content (store : Store) (path : Path) : Except Refusal ByteArray :=
  match store.isFile path with
  | .error fault => .error (.file path.text fault)
  | .ok false => .error (.notFound path.text)
  | .ok true => (store.read path).mapError (.file path.text)

def tableOfBytes (bytes : ByteArray) : Except Refusal (List (String × Data)) :=
  match Text.decodeUtf8 bytes with
  | .error fault => .error (.badBytes fault)
  | .ok text =>
    (Toml.read text.toList).mapError fun fault =>
      match fault with
      | .at .. => .badDocument (Toml.faultMessage text.toList fault)
      | .number fault => .badNumber fault

def blaming (x : Loading α) : Loading α := tryCatch x fun refusal => throw refusal.blame

def ofTomlFile (store : Store) (path : Path) : Loading Settings := do
  let bytes ← liftRefusal (content store path)
  blaming do ofTable (← liftRefusal (tableOfBytes bytes))

def shownPath (path : Path) : String := "PosixPath(" ++ Text.quoted path.text ++ ")"

def documentOf (path : Path) (bytes : ByteArray) : Except Refusal Ini.Document :=
  (Ini.read bytes).mapError fun fault =>
    match fault with
    | .badBytes fault => .badBytes fault
    | fault => .badDocument (fault.message (shownPath path))

def ofIniFile (store : Store) (path : Path) : Loading Settings := do
  let bytes ← liftRefusal (content store path)
  blaming (liftRefusal do ofSections (← documentOf path bytes))

def tomlSuffixes : List String := [".toml", ".tml"]

def ofFile (store : Store) (path : Path) : Loading Settings :=
  if tomlSuffixes.contains (lowered path.suffix) then ofTomlFile store path
  else ofIniFile store path

section Discovery

def projectFile : Path := .ofText "pyproject.toml"

def sectionsFile : Path := .ofText "pyrefactor.ini"

def projectPlace (store : Store) : String :=
  match store.find projectFile with
  | .ok (names, _) => store.fullPath names
  | .error _ => store.fullPath projectFile.parts

def projectTable (opened : Except FileFault ByteArray) : Except Refusal (List (String × Data)) := do
  tableOfBytes (← opened.mapError (.file projectFile.text))

/-- A refusal of the project file after which it counts as not there. -/
def isPassedOver : Refusal → Bool
  | .file .. | .badDocument _ => true
  | _ => false

def passingOver (store : Store) (refusal : Refusal) : String :=
  let place := projectPlace store
  let words := refusal.message
  s!"Failed to read or parse {place} ({words}); " ++
    "using pyrefactor.ini or built-in defaults instead"

def ofSectionsFile (store : Store) : Loading Settings :=
  match store.exists? sectionsFile with
  | .ok true => ofIniFile store sectionsFile
  | .ok false => liftRefusal (checked {})
  | .error fault => throw (.file sectionsFile.text fault)

/-- Settings from the project file if it has any, else from the file of sections; opening the
project file may fail though it is there. -/
def discoverOpening (store : Store) (opened : Except FileFault ByteArray) : Loading Settings :=
  match store.isFile projectFile with
  | .error fault => throw (.file projectFile.text fault)
  | .ok false => ofSectionsFile store
  | .ok true =>
    match projectTable opened with
    | .ok table => if isSetIn table then ofTable table else ofSectionsFile store
    | .error refusal =>
      if isPassedOver refusal then do
        warn (passingOver store refusal)
        ofSectionsFile store
      else throw refusal

def discover (store : Store) : Loading Settings :=
  discoverOpening store (store.read projectFile)

end Discovery

def load (store : Store) : Option Path → Loading Settings
  | some path => ofFile store path
  | none => discover store

end RefactorAdvice.Settings
