import RefactorAdvice.Settings.Basic

/-!
What settings in range promise: every number is at or above its bound, and the threshold is a
number of the unit interval.
-/

namespace RefactorAdvice.Settings

theorem fault_none_iff (s : Settings) :
    s.fault? = none ↔
      (∀ field ∈ s.firstBounds, field.2.1 ≤ field.2.2) ∧ s.thresholdFits = true ∧
        1 ≤ s.booleanLogic.maxBooleanOperators := by
  unfold fault?
  split
  · rename_i name bound value missed
    have below := List.find?_some missed
    have listed := List.mem_of_find?_eq_some missed
    simp only [reduceCtorEq, false_iff, not_and]
    intro bounded
    have above : bound ≤ value := bounded (name, bound, value) listed
    have under : value < bound := of_decide_eq_true below
    omega
  · rename_i missed
    have bounded : ∀ field ∈ s.firstBounds, field.2.1 ≤ field.2.2 := by
      intro field listed
      have kept := List.find?_eq_none.mp missed field listed
      simpa only [decide_eq_true_eq, Int.not_lt] using kept
    cases fits : s.thresholdFits with
    | false => simp
    | true =>
      by_cases few : s.booleanLogic.maxBooleanOperators < 1
      · simp [few]
      · simpa [few, Int.not_lt.mp few] using bounded

theorem usual_valid : fault? {} = none := by decide +kernel

theorem least_lines (s : Settings) (valid : s.fault? = none) :
    2 ≤ s.duplication.minDuplicateLines := by
  obtain ⟨bounded, _, _⟩ := (fault_none_iff s).mp valid
  exact bounded ("duplication.min_duplicate_lines", 2, s.duplication.minDuplicateLines)
    (by simp [firstBounds])

theorem threshold_le_one (s : Settings) (valid : s.fault? = none) :
    s.duplication.similarityThreshold.lessEq (Binary64.ofInt 1) = true := by
  obtain ⟨_, fits, _⟩ := (fault_none_iff s).mp valid
  rw [thresholdFits, Bool.and_eq_true] at fits
  exact fits.2

end RefactorAdvice.Settings
