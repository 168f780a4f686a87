import RefactorAdvice.Number.Binary64
import RefactorAdvice.Text.Blank
import RefactorAdvice.Text.Quoted
import RefactorAdvice.Text.WordChar

/-!
Numbers read from whole texts. Decimal digits of every script count, a single underscore may
stand between two of them, and blanks may stand around the number.
-/

namespace RefactorAdvice.Number

inductive Fault where
  | notInteger (text : String)
  | notNumber (text : String)
  | manyDigits (count : Nat)
deriving DecidableEq, Inhabited

def digitLimit : Nat := 4300

def Fault.message : Fault → String
  | .notInteger text => "invalid literal for int() with base 10: " ++ Text.quoted text
  | .notNumber text => "could not convert string to float: " ++ Text.quoted text
  | .manyDigits count =>
    s!"Exceeds the limit ({digitLimit} digits) for integer string conversion: " ++
      s!"value has {count} digits; use sys.set_int_max_str_digits() to increase the limit"

section Characters

/-- A blank that may stand before or behind a number: the four separators of ASCII may not. -/
def isMargin (c : Char) : Bool := Text.isBlank c && !(0x1c ≤ c.toNat && c.toNat ≤ 0x1f)

def plainDigit (c : Char) : Char :=
  match Text.digitValue? c with
  | some value => Char.ofNat (48 + value)
  | none => c

def core (text : String) : List Char :=
  let cs := (text.toList.dropWhile isMargin).reverse.dropWhile isMargin
  cs.reverse.map plainDigit

def signed : List Char → Bool × List Char
  | '-' :: rest => (true, rest)
  | '+' :: rest => (false, rest)
  | cs => (false, cs)

def digitsValue (cs : List Char) : Nat :=
  cs.foldl (fun n c => n * 10 + (c.toNat - 48)) 0

end Characters

section Integers

/-- Whether every underscore has a digit on both sides; `before` tells whether a digit precedes. -/
def underscoresFit (before : Bool) : List Char → Bool
  | [] => true
  | '_' :: c :: rest => before && c.isDigit && underscoresFit false (c :: rest)
  | ['_'] => false
  | c :: rest => underscoresFit c.isDigit rest

def readInteger (text : String) : Except Fault Int :=
  let (negative, body) := signed (core text)
  let run := body.takeWhile fun c => c.isDigit || c == '_'
  let digits := run.filter Char.isDigit
  if !underscoresFit false run then .error (.notInteger text)
  else if digitLimit < digits.length then .error (.manyDigits digits.length)
  else if digits.isEmpty || run.length < body.length then .error (.notInteger text)
  else
    let size : Int := digitsValue digits
    .ok (if negative then -size else size)

end Integers

section Decimals

def exponent? (cs : List Char) : Option (Int × List Char) :=
  match cs with
  | c :: rest =>
    if c == 'e' || c == 'E' then
      let (negative, rest) := signed rest
      let digits := rest.takeWhile Char.isDigit
      if digits.isEmpty then none
      else
        let size : Int := digitsValue digits
        some (if negative then -size else size, rest.drop digits.length)
    else none
  | [] => none

def ofParts (negative : Bool) (whole fraction : List Char) (exponent : Int) : Binary64 :=
  .ofDecimal negative (digitsValue (whole ++ fraction)) (exponent - fraction.length)

def decimal? (negative : Bool) (cs : List Char) : Option Binary64 :=
  let whole := cs.takeWhile Char.isDigit
  let rest := cs.drop whole.length
  let (fraction, rest) := match rest with
    | '.' :: rest =>
      let fraction := rest.takeWhile Char.isDigit
      (fraction, rest.drop fraction.length)
    | rest => ([], rest)
  if whole.isEmpty && fraction.isEmpty then none
  else
    let (exponent, rest) := (exponent? rest).getD (0, rest)
    if rest.isEmpty then some (ofParts negative whole fraction exponent) else none

def special? (negative : Bool) (cs : List Char) : Option Binary64 :=
  match String.ofList (cs.map Char.toLower) with
  | "inf" | "infinity" => some (.infinite negative)
  | "nan" => some .nan
  | _ => none

def readFloat (text : String) : Except Fault Binary64 :=
  let cs := core text
  let (negative, body) := signed (cs.filter (· != '_'))
  let found := if underscoresFit false cs then
      (special? negative body).or (decimal? negative body)
    else none
  match found with
  | some value => .ok value
  | none => .error (.notNumber text)

end Decimals

end RefactorAdvice.Number
