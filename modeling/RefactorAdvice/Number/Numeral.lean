import RefactorAdvice.Number.Binary64

/-!
How a binary floating-point number is written: with the fewest decimal digits that read back
to it, and of those the nearest. Up to sixteen digits before the point and up to three zeros
behind it stand in place, all else has an exponent of at least two digits.
-/

namespace RefactorAdvice.Binary64

section Shortest

def decimalExponent (numerator denominator : Nat) : Int :=
  let guess : Int := ((numerator.log2 : Int) - (denominator.log2 : Int)) * 30103 / 100000 - 1
  let reaches (e : Int) : Bool :=
    match e with
    | .ofNat n => denominator * Nat.pow 10 n ≤ numerator
    | .negSucc n => denominator ≤ numerator * Nat.pow 10 (n + 1)
  if reaches (guess + 3) then guess + 3
  else if reaches (guess + 2) then guess + 2
  else if reaches (guess + 1) then guess + 1
  else guess

/-- The reals that round to a number, as three fractions over one denominator: low, value, high. -/
structure Interval where
  low : Nat
  value : Nat
  high : Nat
  denominator : Nat
  closed : Bool

def interval (mantissa : Nat) (exponent : Int) : Interval :=
  -- below a power of two the neighbours are half as far apart
  let step := if mantissa = Nat.pow 2 52 ∧ leastExponent < exponent then 1 else 2
  let shift := exponent - 2
  let (_, up) := scaled 1 1 shift
  let (down, _) := scaled 1 1 shift
  { low := (4 * mantissa - step) * up
    value := 4 * mantissa * up
    high := (4 * mantissa + 2) * up
    denominator := down
    closed := mantissa % 2 = 0 }

def Interval.holds (i : Interval) (top bottom : Nat) : Bool :=
  let x := top * i.denominator
  if i.closed then i.low * bottom ≤ x && x ≤ i.high * bottom
  else i.low * bottom < x && x < i.high * bottom

/-- The better of the two neighbours with `count` digits, if one of them lies in the interval. -/
def candidate (i : Interval) (exponent : Int) (count : Nat) : Option (Nat × Int) :=
  let unit := exponent - count + 1
  let (top, bottom) : Nat × Nat := match unit with
    | .ofNat n => (Nat.pow 10 n, 1)
    | .negSucc n => (1, Nat.pow 10 (n + 1))
  let below := i.value * bottom / (i.denominator * top)
  let above := below + 1
  let fitsBelow := i.holds (below * top) bottom
  let fitsAbove := i.holds (above * top) bottom
  let gapBelow := i.value * bottom - below * top * i.denominator
  let gapAbove := above * top * i.denominator - i.value * bottom
  if fitsBelow && fitsAbove then
    if gapBelow < gapAbove || (gapBelow == gapAbove && below % 2 == 0) then some (below, unit)
    else some (above, unit)
  else if fitsBelow then some (below, unit)
  else if fitsAbove then some (above, unit)
  else none

def shortestFrom (i : Interval) (exponent : Int) : Nat → Nat → Nat × Int
  | count, 0 => (i.value / i.denominator, 0 * (count : Int))
  | count, fuel + 1 =>
    match candidate i exponent count with
    | some found => found
    | none => shortestFrom i exponent (count + 1) fuel

def shortest (mantissa : Nat) (exponent : Int) : Nat × Int :=
  let i := interval mantissa exponent
  shortestFrom i (decimalExponent i.value i.denominator) 1 17

end Shortest

section Writing

def trimZeros : List Char → List Char
  | digits => (digits.reverse.dropWhile (· == '0')).reverse

def place (digits : List Char) (point : Int) (wholePoint : Bool) : List Char :=
  let count : Int := digits.length
  if point ≤ -4 ∨ 16 < point then
    let power := point - 1
    let size := toString power.natAbs
    let padded := if size.length < 2 then "0" ++ size else size
    let head := match digits with
      | [] => []
      | [d] => [d]
      | d :: rest => d :: '.' :: rest
    head ++ ['e', if power < 0 then '-' else '+'] ++ padded.toList
  else if point ≤ 0 then
    '0' :: '.' :: List.replicate (-point).toNat '0' ++ digits
  else if count ≤ point then
    digits ++ List.replicate (point - count).toNat '0' ++ (if wholePoint then ['.', '0'] else [])
  else
    digits.take point.toNat ++ '.' :: digits.drop point.toNat

def numeralWith (wholePoint : Bool) : Binary64 → String
  | .nan => "nan"
  | .infinite negative => if negative then "-inf" else "inf"
  | .finite negative 0 _ =>
    (if negative then "-" else "") ++ (if wholePoint then "0.0" else "0")
  | .finite negative mantissa exponent =>
    let (digits, unit) := shortest mantissa exponent
    let all := (toString digits).toList
    let point : Int := all.length + unit
    (if negative then "-" else "") ++ String.ofList (place (trimZeros all) point wholePoint)

def numeral (x : Binary64) : String := x.numeralWith true

def fixed (places : Nat) (x : Binary64) : String :=
  match x, x.scaledInteger places with
  | .finite negative .., some value =>
    let digits := toString value.natAbs
    let digits := String.ofList (List.replicate (places + 1 - digits.length) '0') ++ digits
    let whole := digits.toList.take (digits.length - places)
    let rest := digits.toList.drop (digits.length - places)
    (if negative then "-" else "") ++ String.ofList whole ++
      (if places = 0 then "" else "." ++ String.ofList rest)
  | .infinite negative, _ => if negative then "-inf" else "inf"
  | _, _ => "nan"

end Writing

end RefactorAdvice.Binary64
