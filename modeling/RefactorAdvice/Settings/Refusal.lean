import RefactorAdvice.Files.Store
import RefactorAdvice.Ini.Interpolation
import RefactorAdvice.Log
import RefactorAdvice.Settings.Basic
import RefactorAdvice.Toml.Document

/-!
Why settings cannot be read.
-/

namespace RefactorAdvice.Settings

inductive Refusal where
  | notFound (path : String)
  | file (path : String) (fault : FileFault)
  | badBytes (fault : Text.Utf8Fault)
  /-- A document that is not well formed, in words. -/
  | badDocument (words : String)
  /-- The table above that of the settings is a value of another kind. -/
  | notTable (kind : String)
  | badSettingsTable
  /-- An infinite number where an integer is wanted. -/
  | infinite
  /-- An integer beyond the largest floating-point number. -/
  | tooLarge
  /-- An integer with more digits than are written out. -/
  | tooLong
  | badNumber (fault : Number.Fault)
  | notBoolean (text : String)
  | badReference (fault : Ini.ReferenceFault)
  | outOfRange (fault : Settings.Fault)
  /-- A refusal of what stands in a settings file. -/
  | inFile (cause : Refusal)
deriving DecidableEq, Inhabited

namespace Refusal

def kind : Refusal → FailureKind
  | .file .. => .system
  | .badBytes _ => .encoding
  | .notTable _ => .attribute
  | .infinite | .tooLarge => .overflow
  | _ => .value

def message : Refusal → String
  | .notFound path => s!"Configuration file not found: {path}"
  | .file path fault => fault.message path
  | .badBytes fault => fault.message
  | .badDocument words => words
  | .notTable kind => "'" ++ kind ++ "' object has no attribute 'get'"
  | .badSettingsTable => "Invalid [tool.pyrefactor] section in configuration"
  | .infinite => "cannot convert float infinity to integer"
  | .tooLarge => "int too large to convert to float"
  | .tooLong => Failure.hugeInteger.message
  | .badNumber fault => fault.message
  | .notBoolean text => s!"Not a boolean: {text}"
  | .badReference fault => fault.message
  | .outOfRange fault => fault.message
  | .inFile cause => "Error loading configuration: " ++ cause.message

/-- What a refusal becomes when a settings file is read: values of the wrong form are blamed on
the file. -/
def blame (r : Refusal) : Refusal :=
  match r.kind with
  | .value | .encoding | .system | .type => .inFile r
  | _ => r

def failure (r : Refusal) : Failure := .raised r.kind r.message

end Refusal

abbrev Loading := LoggingExcept Refusal

def liftRefusal (x : Except Refusal α) : Loading α :=
  match x with
  | .ok value => pure value
  | .error refusal => throw refusal

def checked (s : Settings) : Except Refusal Settings :=
  match s.fault? with
  | some fault => .error (.outOfRange fault)
  | none => .ok s

end RefactorAdvice.Settings
