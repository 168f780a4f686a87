import RefactorAdvice.Text.Printable

/-!
Texts and bytes in quotes. Single quotes are used unless the text holds a single quote and no
double quote; what is not printable is written by its code.
-/

namespace RefactorAdvice.Text

section Hexadecimal

def hexDigits (width n : Nat) : List Char :=
  let digits := Nat.toDigits 16 n
  List.replicate (width - digits.length) '0' ++ digits

def numberedEscape (code : Nat) : List Char :=
  if code < 0x100 then '\\' :: 'x' :: hexDigits 2 code
  else if code < 0x10000 then '\\' :: 'u' :: hexDigits 4 code
  else '\\' :: 'U' :: hexDigits 8 code

end Hexadecimal

section Quotes

def quoteFor (codes : List Nat) : Char :=
  if codes.contains 39 && !codes.contains 34 then '"' else '\''

def escapeCode (quote : Char) (code : Nat) : List Char :=
  if code == quote.toNat || code == 92 then ['\\', Char.ofNat code]
  else if code == 10 then ['\\', 'n']
  else if code == 13 then ['\\', 'r']
  else if code == 9 then ['\\', 't']
  else if isPrintable code then [Char.ofNat code]
  else numberedEscape code

def quotedCodes (codes : List Nat) : List Char :=
  let quote := quoteFor codes
  quote :: codes.flatMap (escapeCode quote) ++ [quote]

def quoted (s : String) : String :=
  String.ofList (quotedCodes (s.toList.map (·.toNat)))

def escapeByte (quote : Char) (byte : Nat) : List Char :=
  if byte == quote.toNat || byte == 92 then ['\\', Char.ofNat byte]
  else if byte == 10 then ['\\', 'n']
  else if byte == 13 then ['\\', 'r']
  else if byte == 9 then ['\\', 't']
  else if 0x20 ≤ byte && byte < 0x7f then [Char.ofNat byte]
  else '\\' :: 'x' :: hexDigits 2 byte

def quotedBytes (bytes : List Nat) : List Char :=
  let quote := quoteFor bytes
  'b' :: quote :: bytes.flatMap (escapeByte quote) ++ [quote]

end Quotes

end RefactorAdvice.Text
