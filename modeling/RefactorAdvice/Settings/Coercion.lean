import RefactorAdvice.Data.Basic
import RefactorAdvice.Settings.Refusal

/-!
Values of a data file taken as what a setting needs. A value that cannot be taken so is none;
a number that does not fit at all is refused.
-/

namespace RefactorAdvice.Settings

section Words

def trueWords : List String := ["true", "yes", "1", "on"]

def falseWords : List String := ["false", "no", "0", "off"]

def switchWord? (word : String) : Option Bool :=
  if trueWords.contains word then some true
  else if falseWords.contains word then some false
  else none

def lowered (text : String) : String := String.ofList (Text.lower text.toList)

/-- Parts between commas without the blanks around them; empty ones are left out. -/
def commaParts (text : String) : List String :=
  (text.splitOn ",").filterMap fun part =>
    let part := Text.stripped part
    if part == "" then none else some part

end Words

section Values

def asBool? : Data → Option Bool
  | .bool b => some b
  | .int 0 => some false
  | .int 1 => some true
  | .text s => switchWord? (lowered (Text.stripped s))
  | _ => none

def asInt : Data → Except Refusal (Option Int)
  | .bool b => .ok (some (if b then 1 else 0))
  | .int n => .ok (some n)
  | .float (.infinite _) => .error .infinite
  | .float x => .ok x.truncate?
  | .text s => .ok (Number.readInteger s).toOption
  | _ => .ok none

def asFloat : Data → Except Refusal (Option Binary64)
  | .bool b => .ok (some (.ofInt (if b then 1 else 0)))
  | .int n =>
    match Binary64.ofInt n with
    | .infinite _ => .error .tooLarge
    | x => .ok (some x)
  | .float x => .ok (some x)
  | .text s => .ok (Number.readFloat s).toOption
  | _ => .ok none

mutual
def isTooLong : Data → Bool
  | .int n => Nat.pow 10 Number.digitLimit ≤ n.natAbs
  | .list items => anyTooLong items
  | .table entries => entryTooLong entries
  | _ => false

def anyTooLong : List Data → Bool
  | [] => false
  | item :: rest => isTooLong item || anyTooLong rest

def entryTooLong : List (String × Data) → Bool
  | [] => false
  | (_, value) :: rest => isTooLong value || entryTooLong rest
end

def asTexts (items : List Data) : Except Refusal (List String) :=
  if anyTooLong items then .error .tooLong else .ok (items.map Data.plain)

def asList : Data → Except Refusal (Option (List String))
  | .list items => (asTexts items).map some
  | .text s => .ok (some (commaParts s))
  | _ => .ok none

end Values

end RefactorAdvice.Settings
