import RefactorAdvice.Number.Reading
import RefactorAdvice.Text.Quoted

/-!
Places in a TOML document and what can be wrong there.
-/

namespace RefactorAdvice.Toml

abbrev Key := List String

def spelledKey (key : Key) : String :=
  match key with
  | [name] => "(" ++ Text.quoted name ++ ",)"
  | names => "(" ++ ", ".intercalate (names.map Text.quoted) ++ ")"

inductive Reason where
  | badStatement | badValue | badDate | badKey
  | noLineEnd | noEquals | noTableEnd | noArrayTableEnd
  | openArray | openTable | openText
  | badEscape | badHex | notCharacter
  | overwrites
  | declaredTwice (key : Key)
  | redefined (key : Key)
  | frozen (key : Key)
  | duplicate (name : String)
  | missing (ending : String)
  | foundCharacter (c : Char)
  | illegalCharacter (c : Char)
deriving DecidableEq, Inhabited

def spelledChar (c : Char) : String := Text.quoted (String.singleton c)

def Reason.words : Reason → String
  | .badStatement => "Invalid statement"
  | .badValue => "Invalid value"
  | .badDate => "Invalid date or datetime"
  | .badKey => "Invalid initial character for a key part"
  | .noLineEnd => "Expected newline or end of document after a statement"
  | .noEquals => "Expected '=' after a key in a key/value pair"
  | .noTableEnd => "Expected ']' at the end of a table declaration"
  | .noArrayTableEnd => "Expected ']]' at the end of an array declaration"
  | .openArray => "Unclosed array"
  | .openTable => "Unclosed inline table"
  | .openText => "Unterminated string"
  | .badEscape => "Unescaped '\\' in a string"
  | .badHex => "Invalid hex value"
  | .notCharacter => "Escaped character is not a Unicode scalar value"
  | .overwrites => "Cannot overwrite a value"
  | .declaredTwice key => "Cannot declare " ++ spelledKey key ++ " twice"
  | .redefined key => "Cannot redefine namespace " ++ spelledKey key
  | .frozen key => "Cannot mutate immutable namespace " ++ spelledKey key
  | .duplicate name => "Duplicate inline table key " ++ Text.quoted name
  | .missing ending => "Expected " ++ Text.quoted ending
  | .foundCharacter c => "Found invalid character " ++ spelledChar c
  | .illegalCharacter c => "Illegal character " ++ spelledChar c

/-- A document is refused at a place, or holds an integer that is too long to be read. -/
inductive Fault where
  | at (reason : Reason) (position : Nat)
  | number (fault : Number.Fault)
deriving DecidableEq, Inhabited

def place (text : List Char) (position : Nat) : String :=
  if text.length ≤ position then "end of document"
  else
    let before := text.take position
    let line := before.count '\n' + 1
    let column := (before.reverse.takeWhile (· != '\n')).length + 1
    s!"line {line}, column {column}"

def Fault.message (text : List Char) : Fault → String
  | .at reason position => reason.words ++ " (at " ++ place text position ++ ")"
  | .number fault => fault.message

structure Spot where
  rest : List Char
  position : Nat

namespace Spot

def fail (s : Spot) (reason : Reason) : Except Fault α := .error (.at reason s.position)

def skip (s : Spot) (count : Nat) : Spot := ⟨s.rest.drop count, s.position + count⟩

def skipWhile (s : Spot) (test : Char → Bool) : Spot := s.skip (s.rest.takeWhile test).length

def isSpace (c : Char) : Bool := c == ' ' || c == '\t'

def skipSpace (s : Spot) : Spot := s.skipWhile isSpace

def startsWith (s : Spot) (word : String) : Bool := word.toList.isPrefixOf s.rest

end Spot

end RefactorAdvice.Toml
