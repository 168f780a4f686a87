/-!
How much a finding matters. The four levels are ordered from `info` up to `high`.
-/

namespace RefactorAdvice

inductive Severity where
  | info | low | medium | high
deriving DecidableEq, Inhabited

namespace Severity

def rank : Severity → Nat
  | .info => 0
  | .low => 1
  | .medium => 2
  | .high => 3

def all : List Severity := [.info, .low, .medium, .high]

def name : Severity → String
  | .info => "info"
  | .low => "low"
  | .medium => "medium"
  | .high => "high"

def ofName? (s : String) : Option Severity := all.find? (·.name == s)

instance : LT Severity := ⟨fun a b => a.rank < b.rank⟩

instance : LE Severity := ⟨fun a b => a.rank ≤ b.rank⟩

instance (a b : Severity) : Decidable (a < b) := inferInstanceAs (Decidable (a.rank < b.rank))

instance (a b : Severity) : Decidable (a ≤ b) := inferInstanceAs (Decidable (a.rank ≤ b.rank))

end Severity

end RefactorAdvice
