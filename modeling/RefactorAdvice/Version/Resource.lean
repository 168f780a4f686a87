import RefactorAdvice.Session
import RefactorAdvice.Version.Basic

/-!
The file that describes a version to a packer of programs: three numbers of the version, and
texts that are shown with the program.
-/

namespace RefactorAdvice.Version

/-- The first three numbers of a version; what is missing is zero. -/
structure Triple where
  major : Int
  minor : Int
  patch : Int
deriving DecidableEq, Inhabited

def triple (version : String) : Except Number.Fault Triple := do
  let parts := version.splitOn "." ++ ["0", "0"]
  return {
    major := ← Number.readInteger (parts.getD 0 "0")
    minor := ← Number.readInteger (parts.getD 1 "0")
    patch := ← Number.readInteger (parts.getD 2 "0") }

section Texts

def labels (version : String) : List (String × String) :=
  [("CompanyName", "tboy1337"),
   ("FileDescription", "PyRefactor - A Python refactoring and optimization linter for Windows"),
   ("FileVersion", version),
   ("InternalName", "PyRefactor"),
   ("LegalCopyright",
    "\\xa9 2026 tboy1337. Licensed under Commercial Restricted License (CRL)."),
   ("OriginalFilename", "PyRefactor.exe"),
   ("ProductName", "PyRefactor"),
   ("ProductVersion", version)]

def labelText : String × String → String
  | (name, value) => "StringStruct(u'" ++ name ++ "', u'" ++ value ++ "')"

def resource (version : String) (t : Triple) : String :=
  let numbers := s!"({t.major}, {t.minor}, {t.patch}, 0)"
  "\n".intercalate
    ["VSVersionInfo(",
     "  ffi=FixedFileInfo(",
     "    filevers=" ++ numbers ++ ",",
     "    prodvers=" ++ numbers ++ ",",
     "    mask=0x3f,",
     "    flags=0x0,",
     "    OS=0x40004,",
     "    fileType=0x1,",
     "    subtype=0x0,",
     "    date=(0, 0)",
     "  ),",
     "  kids=[",
     "    StringFileInfo([",
     "      StringTable(",
     "        u'040904B0',",
     "        [" ++ ",\n        ".intercalate ((labels version).map labelText) ++ "])",
     "    ]),",
     "    VarFileInfo([VarStruct(u'Translation', [1033, 1200])])",
     "  ]",
     ")",
     ""]

def describe (version : String) : Except Number.Fault (Triple × String) := do
  let t ← triple version
  return (t, resource version t)

end Texts

section Command

inductive Fault where
  | noProjectFile
  | noProjectTable
  | noVersion
  | badProjectFile (refusal : Settings.Refusal)
  | badVersion (fault : Number.Fault)
  | notWritten (path : String) (fault : FileFault)
deriving DecidableEq, Inhabited

def Fault.message (home : String) : Fault → String
  | .noProjectFile => s!"Expected pyproject.toml in {home}"
  | .noProjectTable => "Missing [project] table in pyproject.toml"
  | .noVersion => "Missing project.version in pyproject.toml"
  | .badProjectFile refusal => refusal.message
  | .badVersion fault => fault.message
  | .notWritten path fault => fault.message path

def Fault.exitCode : Fault → Nat
  | .noProjectFile => 2
  | _ => 1

def outputPath : Path := .ofText "file_version_info.txt"

def stated (table : List (String × Data)) : Except Fault String :=
  match Data.lookup "project" table with
  | some (.table _) =>
    match ofTable table with
    | some version => .ok version
    | none => .error .noVersion
  | _ => .error .noProjectTable

def writeResource (store : Store) : Except Fault Store := do
  match store.isFile Settings.projectFile, store.read Settings.projectFile with
  | .ok true, .ok bytes =>
    let table ← (Settings.tableOfBytes bytes).mapError .badProjectFile
    let version ← stated table
    let (_, text) ← (describe version).mapError .badVersion
    (store.write outputPath text).mapError (.notWritten (store.fullPath outputPath.parts))
  | _, _ => throw .noProjectFile

def session (store : Store) : Session × Store :=
  match writeResource store with
  | .ok written =>
    ({ ending := .ok 0, out := "Wrote " ++ store.fullPath outputPath.parts ++ "\n" }, written)
  | .error fault =>
    ({ ending := .ok fault.exitCode, err := "ERROR: " ++ fault.message store.home ++ "\n" }, store)

end Command

end RefactorAdvice.Version
