import RefactorAdvice.Code.Expr

/-!
Number literals: which characters belong to one, what may not follow it, and its value.
-/

namespace RefactorAdvice.Code

section Digits

def isHexDigit (c : Char) : Bool :=
  c.isDigit || ('a' ≤ c && c ≤ 'f') || ('A' ≤ c && c ≤ 'F')

def isOctalDigit (c : Char) : Bool := '0' ≤ c && c ≤ '7'

def isBinaryDigit (c : Char) : Bool := c == '0' || c == '1'

def digitOf (c : Char) : Nat :=
  if c.isDigit then c.toNat - '0'.toNat
  else if 'a' ≤ c && c ≤ 'z' then c.toNat - 'a'.toNat + 10
  else c.toNat - 'A'.toNat + 10

def valueOf (base : Nat) (digits : List Char) : Nat :=
  digits.foldl (fun n c => n * base + digitOf c) 0

/--
Digits with single underscores between them. `taken` holds the digits read so far,
backwards; an underscore without a digit behind it is refused.
-/
def digitRun (accept : Char → Bool) (taken : List Char) :
    List Char → Option (List Char × List Char)
  | '_' :: c :: rest => if accept c then digitRun accept (c :: taken) rest else none
  | ['_'] => none
  | c :: rest =>
    if accept c then digitRun accept (c :: taken) rest else some (taken.reverse, c :: rest)
  | [] => some (taken.reverse, [])

end Digits

section Ending

def isWordChar (c : Char) : Bool :=
  c.isAlphanum || c == '_' || 128 ≤ c.toNat

def joiningWords : List (List Char) :=
  ["and", "else", "for", "if", "in", "is", "not", "or"].map String.toList

/-- A number ends before anything but a letter, unless a joining word starts there. -/
def endsNumber (rest : List Char) : Bool :=
  match rest with
  | [] => true
  | c :: _ => joiningWords.any (·.isPrefixOf rest) || !isWordChar c

end Ending

def digitLimit : Nat := 4300

structure NumberRead where
  value : Constant
  rest : List Char

section Reading

def baseNumber (accept : Char → Bool) (base : Nat) (cs : List Char) : Option NumberRead :=
  match digitRun accept [] cs with
  | some (digits, rest) =>
    if digits.isEmpty || !endsNumber rest then none
    else if rest.head?.any Char.isDigit then none
    else some ⟨.int (valueOf base digits), rest⟩
  | none => none

def startsExponent : List Char → Bool
  | '-' :: c :: _ | '+' :: c :: _ => c.isDigit
  | c :: _ => c.isDigit
  | [] => false

def exponentPart (cs : List Char) : Option (Int × List Char) :=
  let (negative, digits) : Bool × List Char := match cs with
    | '-' :: rest => (true, rest)
    | '+' :: rest => (false, rest)
    | _ => (false, cs)
  (digitRun Char.isDigit [] digits).map fun (run, rest) =>
    let size : Int := valueOf 10 run
    (if negative then -size else size, rest)

def startsWithSign : List Char → Bool
  | '-' :: _ | '+' :: _ => true
  | _ => false

def finishFloat (whole fraction cs : List Char) : Option NumberRead :=
  let mantissa := valueOf 10 (whole ++ fraction)
  let places : Int := fraction.length
  let build (exponent : Int) (rest : List Char) : Option NumberRead :=
    let number := Binary64.ofDecimal false mantissa (exponent - places)
    match rest with
    | 'j' :: rest | 'J' :: rest => if endsNumber rest then some ⟨.imaginary number, rest⟩ else none
    | rest => if endsNumber rest then some ⟨.float number, rest⟩ else none
  match cs with
  | 'e' :: rest | 'E' :: rest =>
    if startsExponent rest then
      match exponentPart rest with
      | some (exponent, rest) => build exponent rest
      | none => none
    else if startsWithSign rest || !endsNumber cs then none
    else some ⟨.float (Binary64.ofDecimal false mantissa (-places)), cs⟩
  | _ => build 0 cs

def afterPoint (whole cs : List Char) : Option NumberRead :=
  match cs with
  | c :: _ =>
    if c.isDigit then
      match digitRun Char.isDigit [] cs with
      | some (fraction, rest) => finishFloat whole fraction rest
      | none => none
    else finishFloat whole [] cs
  | [] => finishFloat whole [] cs

def decimalNumber (digits rest : List Char) : Option NumberRead :=
  match rest with
  | '.' :: rest => afterPoint digits rest
  | 'e' :: more | 'E' :: more =>
    if startsExponent more || startsWithSign more then finishFloat digits [] rest
    else wholeNumber digits rest
  | 'j' :: _ | 'J' :: _ => finishFloat digits [] rest
  | _ => wholeNumber digits rest
where
  wholeNumber (digits rest : List Char) : Option NumberRead :=
    let padded := digits.head? == some '0' && digits.any (· != '0')
    if padded || digitLimit < digits.length || !endsNumber rest then none
    else some ⟨.int (valueOf 10 digits), rest⟩

def readNumber (cs : List Char) : Option NumberRead :=
  match cs with
  | '0' :: 'x' :: rest | '0' :: 'X' :: rest => baseNumber isHexDigit 16 rest
  | '0' :: 'o' :: rest | '0' :: 'O' :: rest => baseNumber isOctalDigit 8 rest
  | '0' :: 'b' :: rest | '0' :: 'B' :: rest => baseNumber isBinaryDigit 2 rest
  | _ =>
    match digitRun Char.isDigit [] cs with
    | some (digits, rest) => decimalNumber digits rest
    | none => none

end Reading

end RefactorAdvice.Code
