import RefactorAdvice.Data.Basic
import RefactorAdvice.Toml.Fault

/-!
Texts, numbers, dates and times of a TOML document.
-/

namespace RefactorAdvice.Toml

section Endings

def isControl (c : Char) : Bool := (c.toNat < 32 || c.toNat == 127) && c != '\t'

def isControlInLines (c : Char) : Bool := isControl c && c != '\n'

def before? (ending : List Char) (done : List Char) : List Char → Option (List Char)
  | [] => none
  | c :: rest =>
    if ending.isPrefixOf (c :: rest) then some done.reverse else before? ending (c :: done) rest

def checkCharacters (forbidden : Char → Bool) (s : Spot) (taken : List Char) :
    Except Fault Unit :=
  let fine := taken.takeWhile fun c => !forbidden c
  match taken.drop fine.length with
  | [] => .ok ()
  | c :: _ => (s.skip fine.length).fail (.foundCharacter c)

def upTo (ending : String) (forbidden : Char → Bool) (s : Spot) :
    Except Fault (List Char × Spot) :=
  match before? ending.toList [] s.rest with
  | none => (s.skip s.rest.length).fail (.missing ending)
  | some taken => do
    checkCharacters forbidden s taken
    return (taken, s.skip taken.length)

def skipComment (s : Spot) : Except Fault Spot :=
  match s.rest with
  | '#' :: _ => do
    let inside := s.skip 1
    let taken := inside.rest.takeWhile (· != '\n')
    checkCharacters isControl inside taken
    return inside.skip taken.length
  | _ => .ok s

end Endings

section Texts

def hexValue? (c : Char) : Option Nat :=
  if c.isDigit then some (c.toNat - 48)
  else if 'a' ≤ c && c ≤ 'f' then some (c.toNat - 87)
  else if 'A' ≤ c && c ≤ 'F' then some (c.toNat - 55)
  else none

def hexCharacter (count : Nat) (s : Spot) : Except Fault (List Char × Spot) :=
  let digits := (s.rest.take count).filterMap hexValue?
  if digits.length ≠ count then s.fail .badHex
  else
    let code := digits.foldl (fun n d => n * 16 + d) 0
    if code.isValidChar then .ok ([Char.ofNat code], s.skip count)
    else (s.skip count).fail .notCharacter

def plainEscape? : Char → Option Char
  | 'b' => some '\x08'
  | 't' => some '\t'
  | 'n' => some '\n'
  | 'f' => some '\x0c'
  | 'r' => some '\r'
  | '"' => some '"'
  | '\\' => some '\\'
  | _ => none

/-- A backslash at the end of a line swallows the break and the blanks after it. -/
def lineEscape (c : Char) (s : Spot) : Except Fault (List Char × Spot) :=
  let swallow (s : Spot) := s.skipWhile fun c => Spot.isSpace c || c == '\n'
  if c == '\n' then .ok ([], swallow s)
  else
    let s := s.skipSpace
    match s.rest with
    | [] => .ok ([], s)
    | '\n' :: _ => .ok ([], swallow (s.skip 1))
    | _ => s.fail .badEscape

def escape (lines : Bool) (s : Spot) : Except Fault (List Char × Spot) :=
  let after := s.skip 2
  match s.rest with
  | _ :: c :: _ =>
    if lines && (c == ' ' || c == '\t' || c == '\n') then lineEscape c after
    else if c == 'u' then hexCharacter 4 after
    else if c == 'U' then hexCharacter 8 after
    else
      match plainEscape? c with
      | some c => .ok ([c], after)
      | none => after.fail .badEscape
  | _ => after.fail .badEscape

def quotedFrom (lines : Bool) : Nat → List Char → Spot → Except Fault (List Char × Spot)
  | 0, _, s => s.fail .openText
  | fuel + 1, done, s =>
    match s.rest with
    | [] => s.fail .openText
    | '"' :: _ =>
      if !lines then .ok (done.reverse, s.skip 1)
      else if s.startsWith "\"\"\"" then .ok (done.reverse, s.skip 3)
      else quotedFrom lines fuel ('"' :: done) (s.skip 1)
    | '\\' :: _ => do
      let (more, s) ← escape lines s
      quotedFrom lines fuel (more.reverse ++ done) s
    | c :: rest =>
      if if lines then isControlInLines c else isControl c then s.fail (.illegalCharacter c)
      else quotedFrom lines fuel (c :: done) ⟨rest, s.position + 1⟩

def quoted (lines : Bool) (s : Spot) : Except Fault (List Char × Spot) :=
  quotedFrom lines (s.rest.length + 1) [] s

def literal (s : Spot) : Except Fault (List Char × Spot) := do
  let (taken, s) ← upTo "'" isControl s
  return (taken, s.skip 1)

/-- Up to two quotes directly behind the closing ones belong to the text. -/
def extraQuotes (quote : Char) (taken : List Char) (s : Spot) : List Char × Spot :=
  let extra := (s.rest.take 2).takeWhile (· == quote)
  (taken ++ extra, s.skip extra.length)

def severalLines (quote : Char) (s : Spot) : Except Fault (List Char × Spot) := do
  let s := if s.rest.head? == some '\n' then s.skip 1 else s
  let (taken, s) ←
    if quote == '"' then quoted true s
    else do
      let (taken, s) ← upTo "'''" isControlInLines s
      pure (taken, s.skip 3)
  return extraQuotes quote taken s

def text? (s : Spot) : Option (Except Fault (List Char × Spot)) :=
  match s.rest with
  | '"' :: _ =>
    if s.startsWith "\"\"\"" then some (severalLines '"' (s.skip 3))
    else some (quoted false (s.skip 1))
  | '\'' :: _ =>
    if s.startsWith "'''" then some (severalLines '\'' (s.skip 3)) else some (literal (s.skip 1))
  | _ => none

end Texts

section Numbers

def digitRun (accept : Char → Bool) : Nat → List Char → List Char × Nat
  | 0, _ => ([], 0)
  | fuel + 1, cs =>
    match cs with
    | '_' :: c :: rest =>
      if accept c then
        let (digits, count) := digitRun accept fuel rest
        (c :: digits, count + 2)
      else ([], 0)
    | c :: rest =>
      if accept c then
        let (digits, count) := digitRun accept fuel rest
        (c :: digits, count + 1)
      else ([], 0)
    | [] => ([], 0)

def digits (accept : Char → Bool) (cs : List Char) : List Char × Nat :=
  if (cs.head?.map accept).getD false then digitRun accept cs.length cs else ([], 0)

def based? (cs : List Char) : Option (Nat × Nat) :=
  let read (base : Nat) (rest : List Char) : Option (Nat × Nat) :=
    let accept (c : Char) : Bool := ((hexValue? c).map (decide <| · < base)).getD false
    let (run, count) := digits accept rest
    if run.isEmpty then none
    else some ((run.filterMap hexValue?).foldl (fun n d => n * base + d) 0, count + 2)
  match cs with
  | '0' :: 'x' :: rest => read 16 rest
  | '0' :: 'b' :: rest => read 2 rest
  | '0' :: 'o' :: rest => read 8 rest
  | _ => none

def fraction (cs : List Char) : List Char × Nat :=
  match cs with
  | '.' :: rest =>
    let (run, count) := digits Char.isDigit rest
    if run.isEmpty then ([], 0) else (run, count + 1)
  | _ => ([], 0)

def exponent (cs : List Char) : Int × Nat :=
  match cs with
  | c :: rest =>
    if c == 'e' || c == 'E' then
      let (negative, body) := Number.signed rest
      let (run, count) := digits Char.isDigit body
      if run.isEmpty then (0, 0)
      else
        let size : Int := Number.digitsValue run
        (if negative then -size else size, 1 + (rest.length - body.length) + count)
    else (0, 0)
  | [] => (0, 0)

def decimal? (s : Spot) : Option (Except Fault (Data × Spot)) :=
  let (negative, body) := Number.signed s.rest
  let signs := s.rest.length - body.length
  let (whole, wholeCount) := match body with
    | '0' :: _ => (['0'], 1)
    | body => digits Char.isDigit body
  if whole.isEmpty then none
  else
    let (behind, behindCount) := fraction (body.drop wholeCount)
    let (power, powerCount) := exponent (body.drop (wholeCount + behindCount))
    let after := s.skip (signs + wholeCount + behindCount + powerCount)
    if behindCount = 0 && powerCount = 0 then
      if Number.digitLimit < whole.length then
        some (.error (.number (.manyDigits whole.length)))
      else
        let size : Int := Number.digitsValue whole
        some (.ok (.int (if negative then -size else size), after))
    else some (.ok (.float (Number.ofParts negative whole behind power), after))

def number? (s : Spot) : Option (Except Fault (Data × Spot)) :=
  match based? s.rest with
  | some (value, count) => some (.ok (.int value, s.skip count))
  | none => decimal? s

def specialNumbers : List (String × Binary64) :=
  [("inf", .infinite false), ("nan", .nan), ("-inf", .infinite true), ("+inf", .infinite false),
   ("-nan", .nan), ("+nan", .nan)]

def special? (s : Spot) : Option (Data × Spot) :=
  (specialNumbers.find? fun (word, _) => s.startsWith word).map fun (word, value) =>
    (.float value, s.skip word.length)

end Numbers

section Moments

def fixedDigits? (count : Nat) (cs : List Char) : Option (Nat × List Char) :=
  let run := cs.take count
  if run.length = count && run.all Char.isDigit then
    some (Number.digitsValue run, cs.drop count)
  else none

def expect? (c : Char) (cs : List Char) : Option (List Char) :=
  if cs.head? == some c then some (cs.drop 1) else none

def within (low high : Nat) (found : Option (Nat × List Char)) : Option (Nat × List Char) :=
  found.filter fun (n, _) => low ≤ n && n ≤ high

/-- Microseconds of the digits behind a point; digits after the sixth are passed over. -/
def subsecond (cs : List Char) : Nat × List Char :=
  match cs with
  | '.' :: rest =>
    let run := rest.takeWhile Char.isDigit
    if run.isEmpty then (0, cs)
    else
      let six := run.take 6
      (Number.digitsValue (six ++ List.replicate (6 - six.length) '0'), rest.drop run.length)
  | cs => (0, cs)

def clock? (cs : List Char) : Option (Clock × List Char) := do
  let (hour, cs) ← within 0 23 (fixedDigits? 2 cs)
  let cs ← expect? ':' cs
  let (minute, cs) ← within 0 59 (fixedDigits? 2 cs)
  let cs ← expect? ':' cs
  let (second, cs) ← within 0 59 (fixedDigits? 2 cs)
  let (microsecond, cs) := subsecond cs
  return (⟨hour, minute, second, microsecond⟩, cs)

def date? (cs : List Char) : Option (Date × List Char) := do
  let (year, cs) ← fixedDigits? 4 cs
  let cs ← expect? '-' cs
  let (month, cs) ← within 1 12 (fixedDigits? 2 cs)
  let cs ← expect? '-' cs
  let (day, cs) ← within 1 31 (fixedDigits? 2 cs)
  return (⟨year, month, day⟩, cs)

def offsetSize? (cs : List Char) : Option (Int × List Char) := do
  let (hours, cs) ← within 0 23 (fixedDigits? 2 cs)
  let cs ← expect? ':' cs
  let (minutes, cs) ← within 0 59 (fixedDigits? 2 cs)
  return ((hours * 60 + minutes : Nat), cs)

def offset (cs : List Char) : Option Int × List Char :=
  match cs with
  | 'Z' :: rest | 'z' :: rest => (some 0, rest)
  | '+' :: rest =>
    match offsetSize? rest with
    | some (minutes, rest) => (some minutes, rest)
    | none => (none, cs)
  | '-' :: rest =>
    match offsetSize? rest with
    | some (minutes, rest) => (some (-minutes), rest)
    | none => (none, cs)
  | cs => (none, cs)

def daysIn (year month : Nat) : Nat :=
  if month = 2 then
    if year % 4 = 0 && (year % 100 ≠ 0 || year % 400 = 0) then 29 else 28
  else if [4, 6, 9, 11].contains month then 30 else 31

def isDay (d : Date) : Bool := 1 ≤ d.year && d.day ≤ daysIn d.year d.month

def timeOfDay? (cs : List Char) : Option (Clock × List Char) :=
  match cs with
  | c :: rest => if c == 'T' || c == 't' || c == ' ' then clock? rest else none
  | [] => none

def moment? (s : Spot) : Option (Except Fault (Data × Spot)) :=
  let finish (moment : Moment) (rest : List Char) : Data × Spot :=
    (.moment moment, ⟨rest, s.position + (s.rest.length - rest.length)⟩)
  match date? s.rest with
  | some (date, rest) =>
    if !isDay date then some (s.fail .badDate)
    else
      match timeOfDay? rest with
      | some (time, rest) =>
        let (minutes, rest) := offset rest
        some (.ok (finish (.both date time minutes) rest))
      | none => some (.ok (finish (.date date) rest))
  | none =>
    match clock? s.rest with
    | some (time, rest) => some (.ok (finish (.time time) rest))
    | none => none

end Moments

end RefactorAdvice.Toml
