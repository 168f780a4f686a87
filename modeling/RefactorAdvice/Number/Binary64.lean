/-!
Binary floating-point numbers with 53 significant bits, kept as integers: a finite number is
`± mantissa · 2 ^ exponent`. Every operation rounds the exact result to the nearest such
number, and of two equally near ones to the even mantissa.
-/

namespace RefactorAdvice

inductive Binary64 where
  | finite (negative : Bool) (mantissa : Nat) (exponent : Int)
  | infinite (negative : Bool)
  | nan
deriving DecidableEq, Inhabited

namespace Binary64

def leastExponent : Int := -1074

def greatestExponent : Int := 971

def zero (negative : Bool) : Binary64 := .finite negative 0 leastExponent

/-- The quotient of two naturals to the nearest natural, a half going to the even one. -/
def roundQuotient (numerator denominator : Nat) : Nat :=
  let quotient := numerator / denominator
  let twice := 2 * (numerator % denominator)
  if twice < denominator then quotient
  else if denominator < twice then quotient + 1
  else if quotient % 2 = 0 then quotient else quotient + 1

section Rounding

def scaled (numerator denominator : Nat) (exponent : Int) : Nat × Nat :=
  match exponent with
  | .ofNat n => (numerator, denominator * Nat.pow 2 n)
  | .negSucc n => (numerator * Nat.pow 2 (n + 1), denominator)

def exponentOf (numerator denominator : Nat) : Int :=
  let guess : Int := (numerator.log2 : Int) - (denominator.log2 : Int) - 52
  let (n, d) := scaled numerator denominator guess
  let exact := if n < d * Nat.pow 2 52 then guess - 1 else guess
  max exact leastExponent

def ofRatio (negative : Bool) (numerator denominator : Nat) : Binary64 :=
  if numerator = 0 then zero negative
  else
    let exponent := exponentOf numerator denominator
    let (n, d) := scaled numerator denominator exponent
    let mantissa := roundQuotient n d
    let (mantissa, exponent) :=
      if mantissa = Nat.pow 2 53 then (Nat.pow 2 52, exponent + 1) else (mantissa, exponent)
    if mantissa = 0 then zero negative
    else if greatestExponent < exponent then .infinite negative
    else .finite negative mantissa exponent

/--
The number nearest to `digits · 10 ^ exponent`. Far outside the range of the format the
answer does not depend on the digits, so no huge power is formed.
-/
def ofDecimal (negative : Bool) (digits : Nat) (exponent : Int) : Binary64 :=
  if digits = 0 then zero negative
  else
    let magnitude := (digits.log2 : Int) * 3 / 10 + exponent
    if 320 < magnitude then .infinite negative
    else if magnitude < -400 then zero negative
    else
      match exponent with
      | .ofNat n => ofRatio negative (digits * Nat.pow 10 n) 1
      | .negSucc n => ofRatio negative digits (Nat.pow 10 (n + 1))

def ofInt (value : Int) : Binary64 :=
  ofRatio (value < 0) value.natAbs 1

end Rounding

section Value

def fraction? : Binary64 → Option (Int × Nat)
  | .finite negative mantissa exponent =>
    let (n, d) := scaled 1 1 exponent
    let top : Int := mantissa * d
    some (if negative then -top else top, n)
  | _ => none

def ofFraction (top : Int) (bottom : Nat) : Binary64 :=
  ofRatio (top < 0) top.natAbs bottom

def negate : Binary64 → Binary64
  | .finite negative m e => .finite (!negative) m e
  | .infinite negative => .infinite (!negative)
  | .nan => .nan

def less : Binary64 → Binary64 → Bool
  | .nan, _ | _, .nan => false
  | .infinite a, .infinite b => a && !b
  | .infinite a, .finite .. => a
  | .finite .., .infinite b => !b
  | x@(.finite ..), y@(.finite ..) =>
    match x.fraction?, y.fraction? with
    | some (p, q), some (r, s) => p * s < r * q
    | _, _ => false

/-- Equality of values: the two zeros agree, and `nan` differs from itself. -/
def same : Binary64 → Binary64 → Bool
  | .nan, _ | _, .nan => false
  | .infinite a, .infinite b => a == b
  | .infinite _, .finite .. | .finite .., .infinite _ => false
  | x@(.finite ..), y@(.finite ..) =>
    match x.fraction?, y.fraction? with
    | some (p, q), some (r, s) => p * s == r * q
    | _, _ => false

def lessEq (x y : Binary64) : Bool := x.less y || x.same y

def truncate? (x : Binary64) : Option Int :=
  x.fraction?.map fun (top, bottom) => Int.tdiv top bottom

end Value

section Arithmetic

def sub (x y : Binary64) : Binary64 :=
  match x, y with
  | .nan, _ | _, .nan => .nan
  | .infinite a, .infinite b => if a == b then .nan else .infinite a
  | .infinite a, _ => .infinite a
  | _, .infinite b => .infinite (!b)
  | x, y =>
    match x.fraction?, y.fraction? with
    | some (p, q), some (r, s) => ofFraction (p * s - r * q) (q * s)
    | _, _ => .nan

def add (x y : Binary64) : Binary64 := x.sub y.negate

def scale (x : Binary64) (top bottom : Nat) : Binary64 :=
  match x with
  | .finite negative 0 e => .finite negative 0 e
  | x =>
    match x.fraction? with
    | some (p, q) => ofFraction (p * top) (q * bottom)
    | none => x

def quotient (top bottom : Int) : Binary64 :=
  ofRatio ((top < 0) != (bottom < 0)) top.natAbs bottom.natAbs

def scaledInteger (x : Binary64) (places : Nat) : Option Int :=
  x.fraction?.map fun (top, bottom) =>
    let magnitude := roundQuotient (top.natAbs * Nat.pow 10 places) bottom
    if top < 0 then -(magnitude : Int) else magnitude

def roundTo (x : Binary64) (places : Nat) : Binary64 :=
  match x, x.scaledInteger places with
  | .finite negative .., some value =>
    if value = 0 then zero negative else ofRatio negative value.natAbs (Nat.pow 10 places)
  | _, _ => x

end Arithmetic

end Binary64

end RefactorAdvice
