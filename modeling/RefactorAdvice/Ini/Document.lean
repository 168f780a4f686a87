import RefactorAdvice.Text.Blank
import RefactorAdvice.Text.LetterCase
import RefactorAdvice.Text.Quoted
import RefactorAdvice.Text.Stream

/-!
Reading a file of sections. A section has a head in brackets and options of a name, an equals
sign or a colon, and a value; a line that is indented more deeply than its option goes on with
the value. Names of options are read without regard to case. No section but the one of defaults
and no option of a section may come twice.
-/

namespace RefactorAdvice.Ini

abbrev Options := List (String × List (List Char))

inductive Fault where
  | noSection (line : Nat) (text : String)
  | sectionTwice (line : Nat) (name : String)
  | optionTwice (line : Nat) (header name : String)
  | badLines (lines : List (Nat × String))
  | badBytes (fault : Text.Utf8Fault)
deriving DecidableEq, Inhabited

section Messages

def wideNumber (n : Nat) : String :=
  let digits := toString n
  if digits.length < 2 then " " ++ digits else digits

def Fault.message (file : String) : Fault → String
  | .noSection line text =>
    "File contains no section headers.\nfile: " ++ file ++ ", line: " ++ toString line ++ "\n" ++
      Text.quoted text
  | .sectionTwice line name =>
    "While reading from " ++ file ++ " [line " ++ wideNumber line ++ "]: section " ++
      Text.quoted name ++ " already exists"
  | .optionTwice line header name =>
    "While reading from " ++ file ++ " [line " ++ wideNumber line ++ "]: option " ++
      Text.quoted name ++ " in section " ++ Text.quoted header ++ " already exists"
  | .badLines lines =>
    "Source contains parsing errors: " ++ file ++
      String.join (lines.map fun (line, text) =>
        "\n\t[line " ++ wideNumber line ++ "]: " ++ Text.quoted text)
  | .badBytes fault => fault.message

end Messages

def defaultsName : String := "DEFAULT"

structure Draft where
  defaults : Options := []
  sections : List (String × Options) := []
  /-- The section at hand. -/
  header : Option String := none
  /-- The option that a deeper line goes on with. -/
  option : Option String := none
  indent : Nat := 0
  badLines : List (Nat × String) := []

namespace Draft

def optionsOf (d : Draft) (header : String) : Options :=
  if header == defaultsName then d.defaults
  else ((d.sections.find? (·.1 == header)).map (·.2)).getD []

def change (d : Draft) (header : String) (f : Options → Options) : Draft :=
  if header == defaultsName then { d with defaults := f d.defaults }
  else
    { d with
      sections := d.sections.map fun (name, options) =>
        if name == header then (name, f options) else (name, options) }

def goOn (d : Draft) (line : List Char) : Draft :=
  match d.header, d.option with
  | some header, some option =>
    d.change header fun options =>
      options.map fun (name, lines) =>
        if name == option then (name, lines ++ [line]) else (name, lines)
  | _, _ => d

def openSection (d : Draft) (number : Nat) (name : String) : Except Fault Draft :=
  if name == defaultsName then .ok { d with header := some name, option := none }
  else if d.sections.any (·.1 == name) then .error (.sectionTwice number name)
  else
    .ok { d with
      sections := d.sections ++ [(name, [])]
      header := some name
      option := none }

/-- Sets an option of the section at hand. One without a name is noted as a bad line as well. -/
def setOption (d : Draft) (number : Nat) (line : List Char) (header : String)
    (written value : List Char) : Except Fault Draft :=
  let d := if written.isEmpty then
      { d with badLines := d.badLines ++ [(number, String.ofList line)] } else d
  let name := String.ofList (Text.lower written)
  if (d.optionsOf header).any (·.1 == name) then .error (.optionTwice number header name)
  else
    let d := d.change header fun options => options ++ [(name, [value])]
    .ok { d with option := if name == "" then none else some name }

end Draft

section Lines

def heading? (text : List Char) : Option String :=
  match text with
  | '[' :: rest =>
    let name := ((rest.reverse.dropWhile (· != ']')).drop 1).reverse
    if name.isEmpty then none else some (String.ofList name)
  | _ => none

/-- The name and the value of an option, around the first equals sign or colon. -/
def option? (text : List Char) : Option (List Char × List Char) :=
  let isSign (c : Char) : Bool := c == '=' || c == ':'
  let before := text.takeWhile fun c => !isSign c
  match text.drop before.length with
  | _ :: rest => some (Text.stripRight before, Text.strip rest)
  | [] => none

def isComment (text : List Char) : Bool :=
  match text with
  | c :: _ => c == '#' || c == ';'
  | [] => false

def freshLine (d : Draft) (number : Nat) (line text : List Char) : Except Fault Draft :=
  match heading? text with
  | some name => d.openSection number name
  | none =>
    match d.header with
    | none => .error (.noSection number (String.ofList line))
    | some header =>
      match option? text with
      | some (written, value) => d.setOption number line header written value
      | none => .ok { d with badLines := d.badLines ++ [(number, String.ofList line)] }

def readLine (d : Draft) (number : Nat) (line : List Char) : Except Fault Draft :=
  let text := Text.strip line
  if isComment text then .ok d
  else if text.isEmpty then .ok (d.goOn [])
  else
    let indent := (line.takeWhile Text.isBlank).length
    if d.option.isSome && d.indent < indent then .ok (d.goOn text)
    else freshLine { d with indent } number line text

def readLines (d : Draft) (number : Nat) : List (List Char) → Except Fault Draft
  | [] => .ok d
  | line :: rest => do
    let d ← readLine d number line
    readLines d (number + 1) rest

end Lines

abbrev Values := List (String × String)

structure Document where
  defaults : Values
  sections : List (String × Values)
deriving DecidableEq, Inhabited

def joined (lines : List (List Char)) : String :=
  String.ofList (Text.stripRight (List.intercalate ['\n'] lines))

def valuesOf (options : Options) : Values := options.map fun (name, lines) => (name, joined lines)

def read (bytes : ByteArray) : Except Fault Document :=
  let (lines, bad) := Text.streamLines bytes
  match readLines {} 1 lines, bad with
  | .error fault, _ => .error fault
  | .ok _, some fault => .error (.badBytes fault)
  | .ok d, none =>
    if d.badLines.isEmpty then
      .ok ⟨valuesOf d.defaults, d.sections.map fun (name, options) => (name, valuesOf options)⟩
    else .error (.badLines d.badLines)

namespace Document

def find? (values : Values) (name : String) : Option String :=
  (values.find? (·.1 == name)).map (·.2)

/-- The value of an option as it is written; one that a section does not set has its default. -/
def raw? (d : Document) (header name : String) : Option String :=
  match d.sections.find? (·.1 == header) with
  | some (_, values) => (find? values name).or (find? d.defaults name)
  | none => none

end Document

end RefactorAdvice.Ini
