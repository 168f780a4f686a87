import RefactorAdvice.Files.Path
import RefactorAdvice.Number.Reading
import RefactorAdvice.Report.Text

/-!
The words behind the command's name. A word that begins with a dash is a flag, unless it spells a
negative number or has a blank in it; a long name may be cut short as long as one name is left
that begins so, short names may be run together, and a value may stand in the flag's own word.
The first run of other words holds the paths. All words are told apart before any of them is
acted on, so a flag that is not clear is refused first.
-/

namespace RefactorAdvice.Cli

inductive Flag where
  | help | config | grouping | format | leastSeverity | jobs | verbose | failOnParseErrors
  | version
deriving DecidableEq, Inhabited

namespace Flag

def all : List Flag :=
  [.help, .config, .grouping, .format, .leastSeverity, .jobs, .verbose, .failOnParseErrors,
   .version]

def short? : Flag → Option Char
  | .help => some 'h'
  | .config => some 'c'
  | .grouping => some 'g'
  | .jobs => some 'j'
  | .verbose => some 'v'
  | _ => none

def long : Flag → String
  | .help => "--help"
  | .config => "--config"
  | .grouping => "--group-by"
  | .format => "--format"
  | .leastSeverity => "--min-severity"
  | .jobs => "--jobs"
  | .verbose => "--verbose"
  | .failOnParseErrors => "--fail-on-parse-errors"
  | .version => "--version"

def names (f : Flag) : List String :=
  match f.short? with
  | some c => [String.ofList ['-', c], f.long]
  | none => [f.long]

def choices : Flag → List String
  | .grouping => ["file", "severity"]
  | .format => ["text", "json"]
  | .leastSeverity => ["info", "low", "medium", "high"]
  | _ => []

def valueName? (f : Flag) : Option String :=
  match f with
  | .config => some "CONFIG"
  | .jobs => some "JOBS"
  | .grouping | .format | .leastSeverity =>
    some ("\x7b" ++ ",".intercalate f.choices ++ "\x7d")
  | .help | .verbose | .failOnParseErrors | .version => none

def takesValue (f : Flag) : Bool := f.valueName?.isSome

def ofShort? (c : Char) : Option Flag := all.find? fun f => f.short? == some c

def ofName? (name : String) : Option Flag := all.find? fun f => f.names.contains name

def shown (f : Flag) : String := "/".intercalate f.names

end Flag

inductive Fault where
  | unclear (word : String) (flags : List Flag)
  /-- A flag that takes no value has one, or letters behind it that are no flags. -/
  | needless (flag : Flag) (value : String)
  | missing (flag : Flag)
  | noChoice (flag : Flag) (value : String)
  | noInteger (flag : Flag) (value : String)
  | unknown (words : List String)
  /-- Two dashes as the value of a flag are dropped, and no value is left. -/
  | dropped
deriving DecidableEq, Inhabited

def Fault.message : Fault → String
  | .unclear word flags =>
    let names := ", ".intercalate (flags.map Flag.long)
    s!"ambiguous option: {word} could match {names}"
  | .needless flag value =>
    "argument " ++ flag.shown ++ ": ignored explicit argument " ++ Text.quoted value
  | .missing flag => "argument " ++ flag.shown ++ ": expected one argument"
  | .noChoice flag value =>
    "argument " ++ flag.shown ++ ": invalid choice: " ++ Text.quoted value ++ " (choose from " ++
      ", ".intercalate (flag.choices.map Text.quoted) ++ ")"
  | .noInteger flag value =>
    "argument " ++ flag.shown ++ ": invalid int value: " ++ Text.quoted value
  | .unknown words => "unrecognized arguments: " ++ " ".intercalate words
  | .dropped => "not enough values to unpack (expected 1, got 0)"

section Words

inductive Word where
  | plain (text : String)
  /-- Two dashes: every word behind them is plain. -/
  | separator
  /-- A flag, whether it was given by its short name, and the value in the same word. -/
  | flag (flag : Flag) (short : Bool) (value : Option String)
  | unknown (text : String)
deriving DecidableEq, Inhabited

def cut (word : List Char) : List Char × Option (List Char) :=
  match word.dropWhile (· != '=') with
  | [] => (word, none)
  | _ :: value => (word.takeWhile (· != '='), some value)

def isDigit (c : Char) : Bool := (Text.digitValue? c).isSome

/-- Whether a word spells a negative number: digits, or digits with a point before the last of
them. A line break may end it. -/
def isNegative (word : List Char) : Bool :=
  match word with
  | '-' :: body =>
    let body := if body.getLast? == some '\n' then body.dropLast else body
    match body.dropWhile isDigit with
    | [] => !body.isEmpty
    | '.' :: fraction => !fraction.isEmpty && fraction.all isDigit
    | _ => false
  | _ => false

def meant (word : List Char) : List Flag :=
  Flag.all.filter fun f => (cut word).1.isPrefixOf f.long.toList

/-- What a word is that begins with a dash and is neither a flag's name nor names one before an
equals sign. -/
def guess (word : List Char) : Except Fault Word :=
  let text := String.ofList word
  let fallback : Word :=
    if isNegative word || word.contains ' ' then .plain text else .unknown text
  match word with
  | '-' :: '-' :: _ =>
    match meant word with
    | [] => .ok fallback
    | [flag] => .ok (.flag flag false ((cut word).2.map String.ofList))
    | flags => .error (.unclear text flags)
  | '-' :: c :: rest =>
    match Flag.ofShort? c with
    | some flag => .ok (.flag flag true (some (String.ofList rest)))
    | none => .ok fallback
  | _ => .ok (.plain text)

def isShort (name : String) : Bool := name.length = 2

def sort (text : String) : Except Fault Word :=
  let word := text.toList
  if word.head? != some '-' then .ok (.plain text)
  else
    match Flag.ofName? text with
    | some flag => .ok (.flag flag (isShort text) none)
    | none =>
      let (name, value) := cut word
      let name := String.ofList name
      match value, Flag.ofName? name with
      | some value, some flag => .ok (.flag flag (isShort name) (some (String.ofList value)))
      | _, _ => guess word

def sortAll : List String → Except Fault (List Word)
  | [] => .ok []
  | text :: rest =>
    if text == "--" then .ok (.separator :: rest.map .plain)
    else do
      let word ← sort text
      return word :: (← sortAll rest)

/-- The flags that one word holds: those without a value, and the last one with the value that
stands behind it. -/
def cluster (flag : Flag) (short : Bool) :
    List Char → Except Fault (List Flag × Flag × Option String)
  | [] => if flag.takesValue then .ok ([], flag, some "") else .error (.needless flag "")
  | c :: rest =>
    let value := String.ofList (c :: rest)
    if flag.takesValue then .ok ([], flag, some value)
    else if !short then .error (.needless flag value)
    else
      match Flag.ofShort? c with
      | none => .error (.needless flag value)
      | some next =>
        if rest.isEmpty then .ok ([flag], next, none)
        else do
          let (flags, last, value) ← cluster next true rest
          return (flag :: flags, last, value)

end Words

inductive Format where
  | text | json
deriving DecidableEq, Inhabited

structure Request where
  paths : List Path := []
  config : Option Path := none
  grouping : Report.Grouping := .byFile
  format : Format := .text
  least : Severity := .info
  jobs : Int := 4
  verbose : Bool := false
  failOnParseErrors : Bool := false
  version : Bool := false

namespace Request

def assign (r : Request) (flag : Flag) (value : String) : Except Fault Request :=
  if value == "--" then .error .dropped
  else if !flag.choices.isEmpty && !flag.choices.contains value then
    .error (.noChoice flag value)
  else
    match flag with
    | .config => .ok { r with config := some (Path.ofText value) }
    | .grouping => .ok { r with grouping := if value == "severity" then .bySeverity else .byFile }
    | .format => .ok { r with format := if value == "json" then .json else .text }
    | .leastSeverity => .ok { r with least := (Severity.ofName? value).getD .info }
    | .jobs =>
      match Number.readInteger value with
      | .ok jobs => .ok { r with jobs }
      | .error _ => .error (.noInteger flag value)
    | .help | .verbose | .failOnParseErrors | .version => .ok r

def raise (r : Request) : Flag → Request
  | .verbose => { r with verbose := true }
  | .failOnParseErrors => { r with failOnParseErrors := true }
  | .version => { r with version := true }
  | _ => r

end Request

inductive Order where
  | help
  | run (request : Request)

inductive PathRun where
  | ahead | here | over
deriving DecidableEq, Inhabited

structure Progress where
  request : Request := {}
  pathRun : PathRun := .ahead
  unknown : List String := []

namespace Progress

def take (p : Progress) (text : String) : Progress :=
  match p.pathRun with
  | .over => { p with unknown := p.unknown ++ [text] }
  | .ahead | .here =>
    { p with
      request := { p.request with paths := p.request.paths ++ [Path.ofText text] }
      pathRun := .here }

def divide (p : Progress) : Progress :=
  match p.pathRun with
  | .over => { p with unknown := p.unknown ++ ["--"] }
  | .ahead | .here => { p with pathRun := .here }

def interrupt (p : Progress) : Progress :=
  { p with pathRun := if p.pathRun = .ahead then .ahead else .over }

def finish (p : Progress) : Except Fault Order :=
  if p.unknown.isEmpty then .ok (.run p.request) else .error (.unknown p.unknown)

/-- Flags without a value, taken in turn; none of them is left if help was asked for. -/
def raiseAll (p : Progress) : List Flag → Option Progress
  | [] => some p
  | .help :: _ => none
  | flag :: rest => raiseAll { p with request := p.request.raise flag } rest

end Progress

def follow (p : Progress) : List Word → Except Fault Order
  | [] => p.finish
  | .plain text :: rest => follow (p.take text) rest
  | .separator :: rest => follow p.divide rest
  | .unknown text :: rest =>
    let p := p.interrupt
    follow { p with unknown := p.unknown ++ [text] } rest
  | .flag flag short value :: rest => do
    let p := p.interrupt
    let (flags, last, value) ← match value with
      | some value => cluster flag short value.toList
      | none => .ok ([], flag, none)
    if last.takesValue then
      match value, rest with
      | some value, rest =>
        match p.raiseAll flags with
        | none => return .help
        | some p =>
          let request ← p.request.assign last value
          follow { p with request } rest
      | none, .plain value :: rest =>
        match p.raiseAll flags with
        | none => return .help
        | some p =>
          let request ← p.request.assign last value
          follow { p with request } rest
      | none, _ => throw (.missing last)
    else
      match p.raiseAll (flags ++ [last]) with
      | none => return .help
      | some p => follow p rest

def read (words : List String) : Except Fault Order := do
  follow {} (← sortAll words)

end RefactorAdvice.Cli
