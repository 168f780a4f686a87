import RefactorAdvice.Proofs.DuplicateReports

/-!
The threshold for alike blocks makes no difference as long as it is positive and at most one. Blocks
are compared with the first of their group only, and a group has one normal form: the two are alike
in full, or not at all if the normal form has no words. Either way both thresholds say the same of
every pair, and so the same pairs are reported.
-/

namespace RefactorAdvice

namespace Binary64

theorem less_asymm (x y : Binary64) (below : x.less y = true) : y.lessEq x = false := by
  cases x with
  | nan => cases below
  | infinite a =>
    cases y with
    | nan => cases below
    | infinite b => cases a <;> cases b <;> first | rfl | cases below
    | finite negative mantissa exponent => cases a <;> first | rfl | cases below
  | finite negative mantissa exponent =>
    cases y with
    | nan => cases below
    | infinite b => cases b <;> first | rfl | cases below
    | finite otherNegative otherMantissa otherExponent =>
      simp only [less, fraction?, decide_eq_true_eq] at below
      simp only [lessEq, less, same, fraction?, Bool.or_eq_false_iff, decide_eq_false_iff_not,
        beq_eq_false_iff_ne]
      omega

def InUnit (x : Binary64) : Prop := (ofInt 0).less x = true ∧ x.lessEq (ofInt 1) = true

instance (x : Binary64) : Decidable (InUnit x) :=
  inferInstanceAs (Decidable ((ofInt 0).less x = true ∧ x.lessEq (ofInt 1) = true))

end Binary64

namespace Rules.Duplication

open Code

section Comparing

theorem similarity_wordless (text : String) (bare : Text.words text.toList = []) :
    similarity text text = Binary64.ofInt 0 := by
  simp [similarity, bare]

theorem similarity_whole_or_none (text : String) :
    similarity text text = Binary64.ofInt 1 ∨ similarity text text = Binary64.ofInt 0 := by
  by_cases bare : Text.words text.toList = []
  · exact Or.inr (similarity_wordless text bare)
  · exact Or.inl (similarity_self text bare)

variable {a b : Binary64}

theorem threshold_agrees (first : a.InUnit) (second : b.InUnit) (text : String) :
    a.lessEq (similarity text text) = b.lessEq (similarity text text) := by
  rcases similarity_whole_or_none text with whole | none
  · rw [whole, first.2, second.2]
  · rw [none, Binary64.less_asymm _ _ first.1, Binary64.less_asymm _ _ second.1]

-- Whether a pair is chosen hangs on the ranges taken before it, but these are the same so far.
theorem chosen_congr (l : Listing) (taken : List (Int × Int)) (pairs : List (Block × Block))
    (agree : ∀ pair ∈ pairs, a.lessEq (similarity pair.1.normal pair.2.normal) =
      b.lessEq (similarity pair.1.normal pair.2.normal)) :
    chosen a l taken pairs = chosen b l taken pairs := by
  induction pairs generalizing taken with
  | nil => rfl
  | cons pair rest ih =>
    have here : reports a l pair.1 pair.2 taken = reports b l pair.1 pair.2 taken := by
      rw [reports, reports, agree pair List.mem_cons_self]
    have later := fun taken => ih taken fun other member =>
      agree other (List.mem_cons_of_mem pair member)
    rw [chosen, chosen, here, later, later]

end Comparing

section Searching

variable (bounds : Bounds) (settings : Settings.Duplication) (l : Listing) (file : String)
  (module : Module) {a b : Binary64}

theorem picked_indifferent (first : a.InUnit) (second : b.InUnit) :
    picked bounds { settings with similarityThreshold := a } l module =
      picked bounds { settings with similarityThreshold := b } l module := by
  refine chosen_congr l [] _ fun pair candidate => ?_
  obtain ⟨_, _, same, _⟩ := candidate_repeats _
    (kept_ordered bounds { settings with similarityThreshold := a } l module) pair.1 pair.2
    candidate
  rw [same]
  exact threshold_agrees first second pair.2.normal

theorem group_alike (blocks members : List Block) (listed : members ∈ group blocks) (origin : Block)
    (first : origin ∈ members) (other : Block) (second : other ∈ members) :
    origin.normal = other.normal := by
  rw [group_exact] at listed
  obtain ⟨normal, _, rfl⟩ := List.mem_map.mp listed
  have left := beq_iff_eq.mp (List.mem_filter.mp first).2
  have right := beq_iff_eq.mp (List.mem_filter.mp second).2
  exact left.trans right.symm

/--
For two thresholds above zero and at most one a search comes to the same, and any two blocks of a
group are alike in full or not at all.
-/
theorem threshold_indifferent (first : a.InUnit) (second : b.InUnit) :
    search bounds { settings with similarityThreshold := a } l file module =
        search bounds { settings with similarityThreshold := b } l file module ∧
      ∀ found, search bounds { settings with similarityThreshold := a } l file module = .ok found →
        ∀ members ∈ found.groups, ∀ origin ∈ members, ∀ other ∈ members,
          similarity origin.normal other.normal = Binary64.ofInt 1 ∨
            similarity origin.normal other.normal = Binary64.ofInt 0 := by
  constructor
  · rw [search_exact, search_exact, picked_indifferent bounds settings l module first second]
    rfl
  · intro found searched members listed origin one other two
    rw [(search_ok _ _ _ _ _ found searched).1] at listed
    rw [group_alike _ members listed origin one other two]
    exact similarity_whole_or_none other.normal

def strays : Listing := .ofList ["$", "$", "$", "$", "f(a)", "g(b)", "f(a)", "g(b)"]

theorem threshold_indifferent_strays :
    ∃ found, search usualBounds { minDuplicateLines := 2, similarityThreshold := .ofInt 1 } strays
        "a.py" ⟨[]⟩ = .ok found ∧
      search usualBounds { minDuplicateLines := 2, similarityThreshold := .ofDecimal false 1 (-3) }
        strays "a.py" ⟨[]⟩ = .ok found ∧
      found.findings.map covered = [(7, some 8)] := by
  have same := (threshold_indifferent usualBounds { minDuplicateLines := 2 } strays "a.py" ⟨[]⟩
    (show (Binary64.ofInt 1).InUnit by decide +kernel)
    (show (Binary64.ofDecimal false 1 (-3)).InUnit by decide +kernel)).1
  rcases search_total usualBounds { minDuplicateLines := 2, similarityThreshold := .ofInt 1 } strays
    "a.py" ⟨[]⟩ (by decide) with ⟨_, e, member, _⟩ | ⟨found, searched⟩
  · cases member
  · refine ⟨found, searched, same ▸ searched, ?_⟩
    rw [findings_covered usualBounds _ strays "a.py" ⟨[]⟩ found searched, picked, group_exact]
    decide +kernel

end Searching

end Rules.Duplication

end RefactorAdvice
