import RefactorAdvice.Code.Numeral

/-!
The value of a string literal's body: escapes in texts and in bytes. A broken escape has no
value; a backslash before any other character stands for itself. A text may name its characters,
so that what it spells depends on the names there are.
-/

namespace RefactorAdvice.Code

/-- The code points of characters by their names. -/
abbrev CharNames := List Char → Option Nat

def noNames : CharNames := fun _ => none

section Parts

def plainEscape? : Char → Option Nat
  | '\\' => some 92
  | '\'' => some 39
  | '"' => some 34
  | 'a' => some 7
  | 'b' => some 8
  | 'f' => some 12
  | 'n' => some 10
  | 'r' => some 13
  | 't' => some 9
  | 'v' => some 11
  | _ => none

def hexCode (count : Nat) (cs : List Char) : Option Nat :=
  let digits := cs.take count
  if digits.length = count && digits.all isHexDigit then some (valueOf 16 digits) else none

def octalRun (cs : List Char) : List Char := (cs.take 3).takeWhile isOctalDigit

end Parts

/--
Code points of a text with escapes. A name stands in braces; `skip` counts characters that an
escape has already taken.
-/
def decodeTextFrom (names : CharNames) : Nat → List Char → List Nat → Option (List Nat)
  | _, [], done => some done.reverse
  | skip + 1, _ :: rest, done => decodeTextFrom names skip rest done
  | 0, '\\' :: rest, done =>
    match rest with
    | [] => some (92 :: done).reverse
    | c :: more =>
      if c == '\n' then decodeTextFrom names 1 rest done
      else if isOctalDigit c then
        let run := octalRun rest
        decodeTextFrom names run.length rest (valueOf 8 run :: done)
      else if c == 'x' || c == 'u' || c == 'U' then
        let count := if c == 'x' then 2 else if c == 'u' then 4 else 8
        match hexCode count more with
        | some code =>
          if 0x10ffff < code then none
          else decodeTextFrom names (count + 1) rest (code :: done)
        | none => none
      else if c == 'N' then
        match more with
        | '\x7b' :: named =>
          let name := named.takeWhile (· != '\x7d')
          if name.length = named.length then none
          else
            match names name with
            | some code => decodeTextFrom names (name.length + 3) rest (code :: done)
            | none => none
        | _ => none
      else
        match plainEscape? c with
        | some code => decodeTextFrom names 1 rest (code :: done)
        | none => decodeTextFrom names 0 rest (92 :: done)
  | 0, c :: rest, done => decodeTextFrom names 0 rest (c.toNat :: done)

def decodeText (names : CharNames) (raw : Bool) (body : List Char) : Option (List Nat) :=
  if raw then some (body.map (·.toNat)) else decodeTextFrom names 0 body []

def decodeBytesFrom : Nat → List Char → List Nat → Option (List Nat)
  | _, [], done => some done.reverse
  | skip + 1, _ :: rest, done => decodeBytesFrom skip rest done
  | 0, '\\' :: rest, done =>
    match rest with
    | [] => none
    | c :: more =>
      if c == '\n' then decodeBytesFrom 1 rest done
      else if isOctalDigit c then
        let run := octalRun rest
        decodeBytesFrom run.length rest (valueOf 8 run % 256 :: done)
      else if c == 'x' then
        match hexCode 2 more with
        | some code => decodeBytesFrom 3 rest (code :: done)
        | none => none
      else
        match plainEscape? c with
        | some code => decodeBytesFrom 1 rest (code :: done)
        | none => decodeBytesFrom 0 rest (92 :: done)
  | 0, c :: rest, done => decodeBytesFrom 0 rest (c.toNat :: done)

def decodeBytes (raw : Bool) (body : List Char) : Option (List Nat) :=
  if body.any (128 ≤ ·.toNat) then none
  else if raw then some (body.map (·.toNat))
  else decodeBytesFrom 0 body []

end RefactorAdvice.Code
