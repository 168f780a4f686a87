import RefactorAdvice.Data.Basic

/-!
Writing JSON in ASCII, on one line or with every entry on a line of its own.
-/

namespace RefactorAdvice.Json

open Text (hexDigits)

section Texts

def unit (code : Nat) : List Char := '\\' :: 'u' :: hexDigits 4 code

/-- A character of a text; outside ASCII by its UTF-16 units. -/
def escaped (c : Char) : List Char :=
  if c == '"' then ['\\', '"']
  else if c == '\\' then ['\\', '\\']
  else if c == '\n' then ['\\', 'n']
  else if c == '\r' then ['\\', 'r']
  else if c == '\t' then ['\\', 't']
  else if c == '\x0c' then ['\\', 'f']
  else if c == '\x08' then ['\\', 'b']
  else
    let n := c.toNat
    if 0x20 ≤ n && n < 0x7f then [c]
    else if n < 0x10000 then unit n
    else unit (0xd800 + (n - 0x10000) / 0x400) ++ unit (0xdc00 + (n - 0x10000) % 0x400)

def quoted (s : String) : String := String.ofList ('"' :: s.toList.flatMap escaped ++ ['"'])

end Texts

def number (x : Binary64) : String :=
  match x with
  | .nan => "NaN"
  | .infinite negative => if negative then "-Infinity" else "Infinity"
  | x => x.numeral

section Layout

inductive Layout where
  | line
  | block (depth : Nat)
deriving DecidableEq

def Layout.inner : Layout → Layout
  | .line => .line
  | .block depth => .block (depth + 1)

def blanks (depth : Nat) : String := String.ofList (List.replicate (2 * depth) ' ')

def enclosed (layout : Layout) (opening closing : String) (entries : List String) : String :=
  if entries.isEmpty then opening ++ closing
  else
    match layout with
    | .line => opening ++ ", ".intercalate entries ++ closing
    | .block depth =>
      let start := "\n" ++ blanks (depth + 1)
      opening ++ start ++ ("," ++ start).intercalate entries ++ "\n" ++ blanks depth ++ closing

mutual
def write (layout : Layout) : Data → String
  | .none => "null"
  | .bool b => if b then "true" else "false"
  | .int n => toString n
  | .float x => number x
  | .text s => quoted s
  | .moment m => quoted m.plain
  | .list items => enclosed layout "[" "]" (writeItems layout.inner items)
  | .table entries => enclosed layout "\x7b" "\x7d" (writeEntries layout.inner entries)

def writeItems (layout : Layout) : List Data → List String
  | [] => []
  | item :: rest => write layout item :: writeItems layout rest

def writeEntries (layout : Layout) : List (String × Data) → List String
  | [] => []
  | (key, item) :: rest => (quoted key ++ ": " ++ write layout item) :: writeEntries layout rest
end

end Layout

end RefactorAdvice.Json
