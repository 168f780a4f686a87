import RefactorAdvice.Data.Basic

/-!
Reading JSON. Besides the standard, `NaN`, `Infinity` and `-Infinity` are numbers. A number with
a point or an exponent is a floating-point number, any other an integer of any size. Of equal
keys in an object the last value counts.
-/

namespace RefactorAdvice.Json

structure Fault where
  reason : String
  position : Nat
deriving DecidableEq, Inhabited

def Fault.message (text : List Char) (f : Fault) : String :=
  let before := text.take f.position
  let line := before.count '\n' + 1
  let column := (before.reverse.takeWhile (· != '\n')).length + 1
  let position := f.position
  let reason := f.reason
  s!"{reason}: line {line} column {column} (char {position})"

structure Spot where
  rest : List Char
  position : Nat

namespace Spot

def fail (s : Spot) (reason : String) : Except Fault α := .error ⟨reason, s.position⟩

def skip (s : Spot) (count : Nat) : Spot := ⟨s.rest.drop count, s.position + count⟩

def isSpace (c : Char) : Bool := c == ' ' || c == '\t' || c == '\n' || c == '\r'

def skipSpace (s : Spot) : Spot := s.skip (s.rest.takeWhile isSpace).length

end Spot

section Texts

def hexValue? (c : Char) : Option Nat :=
  if c.isDigit then some (c.toNat - 48)
  else if 'a' ≤ c && c ≤ 'f' then some (c.toNat - 87)
  else if 'A' ≤ c && c ≤ 'F' then some (c.toNat - 55)
  else none

def fourHex? (cs : List Char) : Option Nat :=
  match cs.take 4 with
  | [a, b, c, d] => do
    let a ← hexValue? a
    let b ← hexValue? b
    let c ← hexValue? c
    let d ← hexValue? d
    return ((a * 16 + b) * 16 + c) * 16 + d
  | _ => none

def plainEscape? : Char → Option Char
  | '"' => some '"'
  | '\\' => some '\\'
  | '/' => some '/'
  | 'b' => some '\x08'
  | 'f' => some '\x0c'
  | 'n' => some '\n'
  | 'r' => some '\r'
  | 't' => some '\t'
  | _ => none

def isHigh (code : Nat) : Bool := 0xd800 ≤ code && code ≤ 0xdbff

def isLow (code : Nat) : Bool := 0xdc00 ≤ code && code ≤ 0xdfff

/-- The low half of a surrogate pair behind a high one. -/
def lowHalf? (cs : List Char) : Option Nat :=
  match cs with
  | '\\' :: 'u' :: rest =>
    match fourHex? rest with
    | some code => if isLow code then some code else none
    | none => none
  | _ => none

def escape (start : Nat) (s : Spot) : Except Fault (Char × Nat) :=
  match s.rest with
  | [] => .error ⟨"Unterminated string starting at", start⟩
  | 'u' :: digits =>
    if digits.length ≤ 4 then .error ⟨"Invalid \\uXXXX escape", s.position⟩
    else
      match fourHex? digits with
      | none => .error ⟨"Invalid \\uXXXX escape", s.position⟩
      | some code =>
        if isHigh code then
          match lowHalf? (digits.drop 4) with
          | some low => .ok (Char.ofNat (0x10000 + (code - 0xd800) * 0x400 + (low - 0xdc00)), 11)
          | none => .ok (Char.ofNat 0xfffd, 5)
        else if isLow code then .ok (Char.ofNat 0xfffd, 5)
        else .ok (Char.ofNat code, 5)
  | c :: _ =>
    match plainEscape? c with
    | some e => .ok (e, 1)
    | none => .error ⟨"Invalid \\escape", s.position - 1⟩

/-- The rest of a text whose opening quote stands at `start`; `done` holds it backwards. -/
def textFrom (start : Nat) : Nat → List Char → Spot → Except Fault (String × Spot)
  | 0, _, _ => .error ⟨"Unterminated string starting at", start⟩
  | fuel + 1, done, s =>
    match s.rest with
    | [] => .error ⟨"Unterminated string starting at", start⟩
    | '"' :: _ => .ok (String.ofList done.reverse, s.skip 1)
    | '\\' :: _ =>
      match escape start (s.skip 1) with
      | .error fault => .error fault
      | .ok (c, used) => textFrom start fuel (c :: done) (s.skip (1 + used))
    | c :: rest =>
      if c.toNat ≤ 0x1f then s.fail "Invalid control character at"
      else textFrom start fuel (c :: done) ⟨rest, s.position + 1⟩

def readText (s : Spot) : Except Fault (String × Spot) :=
  textFrom (s.position - 1) (s.rest.length + 1) [] s

end Texts

section Numbers

def wholeDigits (cs : List Char) : List Char :=
  match cs with
  | '0' :: _ => ['0']
  | cs => cs.takeWhile Char.isDigit

def fractionDigits (cs : List Char) : List Char :=
  match cs with
  | '.' :: rest => rest.takeWhile Char.isDigit
  | _ => []

def exponentPart (cs : List Char) : Nat × Bool × List Char :=
  match cs with
  | c :: rest =>
    if c == 'e' || c == 'E' then
      let (negative, signed, tail) := match rest with
        | '-' :: tail => (true, 1, tail)
        | '+' :: tail => (false, 1, tail)
        | tail => (false, 0, tail)
      let digits := tail.takeWhile Char.isDigit
      if digits.isEmpty then (0, false, []) else (1 + signed + digits.length, negative, digits)
    else (0, false, [])
  | [] => (0, false, [])

def digitsValue (cs : List Char) : Nat :=
  cs.foldl (fun n c => n * 10 + (c.toNat - 48)) 0

def readNumber (s : Spot) : Except Fault (Data × Spot) :=
  let negative := s.rest.head? == some '-'
  let signed := if negative then 1 else 0
  let body := s.rest.drop signed
  let whole := wholeDigits body
  if whole.isEmpty then s.fail "Expecting value"
  else
    let rest := body.drop whole.length
    let fraction := fractionDigits rest
    let fractionLength := if fraction.isEmpty then 0 else fraction.length + 1
    let (exponentLength, negativeExponent, exponent) := exponentPart (rest.drop fractionLength)
    let after := s.skip (signed + whole.length + fractionLength + exponentLength)
    if fractionLength = 0 ∧ exponentLength = 0 then
      let n : Int := digitsValue whole
      .ok (.int (if negative then -n else n), after)
    else
      let e : Int := digitsValue exponent
      let e := (if negativeExponent then -e else e) - fraction.length
      .ok (.float (.ofDecimal negative (digitsValue (whole ++ fraction)) e), after)

end Numbers

section Values

def words : List (List Char × Data) :=
  [("null".toList, .none), ("true".toList, .bool true), ("false".toList, .bool false),
   ("NaN".toList, .float .nan), ("Infinity".toList, .float (.infinite false)),
   ("-Infinity".toList, .float (.infinite true))]

mutual
def value : Nat → Spot → Except Fault (Data × Spot)
  | 0, s => s.fail "Expecting value"
  | fuel + 1, s =>
    match s.rest with
    | '"' :: _ => do
      let (text, after) ← readText (s.skip 1)
      return (.text text, after)
    | '\x7b' :: _ =>
      let inside := (s.skip 1).skipSpace
      match inside.rest with
      | '\x7d' :: _ => .ok (.table [], inside.skip 1)
      | _ => do
        let (entries, after) ← members fuel [] inside
        return (.table entries, after)
    | '[' :: _ =>
      let inside := (s.skip 1).skipSpace
      match inside.rest with
      | ']' :: _ => .ok (.list [], inside.skip 1)
      | _ => do
        let (items, after) ← elements fuel [] inside
        return (.list items, after)
    | _ =>
      match words.find? fun (word, _) => word.isPrefixOf s.rest with
      | some (word, found) => .ok (found, s.skip word.length)
      | none => readNumber s

def members : Nat → List (String × Data) → Spot → Except Fault (List (String × Data) × Spot)
  | 0, _, s => s.fail "Expecting value"
  | fuel + 1, done, s =>
    match s.rest with
    | '"' :: _ => do
      let (key, s) ← readText (s.skip 1)
      let s := s.skipSpace
      if s.rest.head? != some ':' then s.fail "Expecting ':' delimiter"
      else
        let (item, s) ← value fuel (s.skip 1).skipSpace
        let done := Data.assign key item done
        let s := s.skipSpace
        match s.rest with
        | '\x7d' :: _ => return (done, s.skip 1)
        | ',' :: _ => members fuel done (s.skip 1).skipSpace
        | _ => s.fail "Expecting ',' delimiter"
    | _ => s.fail "Expecting property name enclosed in double quotes"

def elements : Nat → List Data → Spot → Except Fault (List Data × Spot)
  | 0, _, s => s.fail "Expecting value"
  | fuel + 1, done, s => do
    let (item, s) ← value fuel s
    let s := s.skipSpace
    match s.rest with
    | ']' :: _ => return ((item :: done).reverse, s.skip 1)
    | ',' :: _ => elements fuel (item :: done) (s.skip 1).skipSpace
    | _ => s.fail "Expecting ',' delimiter"
end

end Values

def read (text : List Char) : Except Fault Data :=
  if text.head? == some (Char.ofNat 0xfeff) then
    .error ⟨"Unexpected UTF-8 BOM (decode using utf-8-sig)", 0⟩
  else
    match value (text.length + 1) (Spot.skipSpace ⟨text, 0⟩) with
    | .error fault => .error fault
    | .ok (found, after) =>
      let after := after.skipSpace
      if after.rest.isEmpty then .ok found else after.fail "Extra data"

end RefactorAdvice.Json
