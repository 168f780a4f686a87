import RefactorAdvice.Data.Moment
import RefactorAdvice.Number.Numeral
import RefactorAdvice.Text.Quoted

/-!
Values of a data file: what a settings file or a record of results can hold. A table keeps its
keys in the order they were first set.
-/

namespace RefactorAdvice

inductive Data where
  | none
  | bool (value : Bool)
  | int (value : Int)
  | float (value : Binary64)
  | text (value : String)
  | moment (value : Moment)
  | list (items : List Data)
  | table (entries : List (String × Data))
deriving Inhabited

namespace Data

section Tables

def lookup (key : String) (entries : List (String × Data)) : Option Data :=
  (entries.find? (·.1 == key)).map (·.2)

def assign (key : String) (value : Data) : List (String × Data) → List (String × Data)
  | [] => [(key, value)]
  | (k, v) :: rest => if k == key then (k, value) :: rest else (k, v) :: assign key value rest

def get? (d : Data) (key : String) : Option Data :=
  match d with
  | .table entries => lookup key entries
  | _ => Option.none

def entries? : Data → Option (List (String × Data))
  | .table entries => some entries
  | _ => Option.none

def items? : Data → Option (List Data)
  | .list items => some items
  | _ => Option.none

def text? : Data → Option String
  | .text s => some s
  | _ => Option.none

def int? : Data → Option Int
  | .int n => some n
  | _ => Option.none

def bool? : Data → Option Bool
  | .bool b => some b
  | _ => Option.none

end Tables

def kindName : Data → String
  | .none => "NoneType"
  | .bool _ => "bool"
  | .int _ => "int"
  | .float _ => "float"
  | .text _ => "str"
  | .moment (.date _) => "datetime.date"
  | .moment (.time _) => "datetime.time"
  | .moment (.both ..) => "datetime.datetime"
  | .list _ => "list"
  | .table _ => "dict"

section Written

mutual
/-- A value written out so that its kind can be told: texts are quoted. -/
def spelled : Data → String
  | .none => "None"
  | .bool b => if b then "True" else "False"
  | .int n => toString n
  | .float x => x.numeral
  | .text s => Text.quoted s
  | .moment m => m.spelled
  | .list items => "[" ++ ", ".intercalate (spelledItems items) ++ "]"
  | .table entries => "\x7b" ++ ", ".intercalate (spelledEntries entries) ++ "\x7d"

def spelledItems : List Data → List String
  | [] => []
  | item :: rest => item.spelled :: spelledItems rest

def spelledEntries : List (String × Data) → List String
  | [] => []
  | (key, value) :: rest => (Text.quoted key ++ ": " ++ value.spelled) :: spelledEntries rest
end

def plain : Data → String
  | .text s => s
  | .moment m => m.plain
  | d => d.spelled

end Written

end Data

end RefactorAdvice
