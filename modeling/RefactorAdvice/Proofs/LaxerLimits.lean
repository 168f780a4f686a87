import Mathlib.Data.List.Forall2
import RefactorAdvice.Code.Grammar.Stmt
import RefactorAdvice.Proofs.Inspector.Walks

/-!
Laxer limits. A limit is looked at where a notice is about to be left and nowhere else: no walk,
no count and no scope depends on one. So what is left under laxer limits is left under the
stricter ones too, in the same order, and what goes is all of rules that a limit decides on.
-/

namespace RefactorAdvice

section Thinning

def limitedCodes : List String :=
  [Rule.longFunction, .manyArguments, .manyLocals, .manyBranches, .deepNesting, .highComplexity,
    .textConcatenation, .repeatedCall, .crowdedBoolean].map Rule.code

/-- Notices less some of limited rules. One of these that stays may tell of another limit. -/
inductive Thinned : Notices → Notices → Prop
  | nil : Thinned [] []
  | same (n : Except Failure Notice) {fewer more : Notices} :
      Thinned fewer more → Thinned (n :: fewer) (n :: more)
  | reworded (n : Notice) (message : String) {fewer more : Notices} :
      n.rule ∈ limitedCodes → Thinned fewer more →
      Thinned (.ok { n with message } :: fewer) (.ok n :: more)
  | dropped (n : Notice) {fewer more : Notices} :
      n.rule ∈ limitedCodes → Thinned fewer more → Thinned fewer (.ok n :: more)

theorem thinned_refl (ns : Notices) : Thinned ns ns := by
  induction ns with
  | nil => exact .nil
  | cons n rest ih => exact .same n ih

theorem thinned_append {fewer more others all : Notices} (first : Thinned fewer more)
    (second : Thinned others all) : Thinned (fewer ++ others) (more ++ all) := by
  induction first with
  | nil => exact second
  | same n _ ih => exact .same n ih
  | reworded n message limited _ ih => exact .reworded n message limited ih
  | dropped n limited _ ih => exact .dropped n limited ih

def Thins (fewer more : Option Notice) : Prop :=
  Thinned (fewer.map Except.ok).toList (more.map Except.ok).toList

theorem thinned_options {fewer more : List (Option Notice)} (each : List.Forall₂ Thins fewer more) :
    Thinned ((fewer.filterMap id).map .ok) ((more.filterMap id).map .ok) := by
  have spelled : ∀ options : List (Option Notice), ((options.filterMap id).map .ok : Notices) =
      options.flatMap fun option => (option.map Except.ok).toList := by
    intro options
    rw [List.map_filterMap, List.filterMap_eq_flatMap_toList]
    rfl
  rw [spelled, spelled]
  induction each with
  | nil => exact .nil
  | cons first _ ih => exact thinned_append first ih

-- A limited notice is said under the laxer condition only where it is under the stricter.
theorem thins_conditional {lax strict : Prop} [Decidable lax] [Decidable strict] (n : Notice)
    (message : String) (limited : n.rule ∈ limitedCodes) (only : lax → strict) :
    Thins (if lax then some { n with message } else none) (if strict then some n else none) := by
  by_cases said : lax
  · rw [if_pos said, if_pos (only said)]
    exact .reworded n message limited .nil
  · rw [if_neg said]
    by_cases dropped : strict
    · rw [if_pos dropped]
      exact .dropped n limited .nil
    · rw [if_neg dropped]
      exact .nil

theorem thinned_filter {α : Type} (said : α → Notice) (lax strict : α → Bool) (items : List α)
    (limited : ∀ item ∈ items, (said item).rule ∈ limitedCodes)
    (only : ∀ item ∈ items, lax item = true → strict item = true) :
    Thinned ((items.filter lax).map fun item => .ok (said item))
      ((items.filter strict).map fun item => .ok (said item)) := by
  induction items with
  | nil => exact .nil
  | cons item rest ih =>
    have later := ih (fun other member => limited other (List.mem_cons_of_mem item member))
      fun other member => only other (List.mem_cons_of_mem item member)
    have here := limited item List.mem_cons_self
    cases kept : lax item with
    | true =>
      rw [List.filter_cons_of_pos kept,
        List.filter_cons_of_pos (only item List.mem_cons_self kept)]
      exact .same _ later
    | false =>
      rw [List.filter_cons_of_neg (by simp [kept])]
      cases gone : strict item with
      | true =>
        rw [List.filter_cons_of_pos gone]
        exact .dropped _ here later
      | false =>
        rw [List.filter_cons_of_neg (by simp [gone])]
        exact later

end Thinning

section Publishing

def Finding.place (f : Finding) : Nat × Nat × String := (f.line, f.column, f.rule)

def Finding.isUnlimited (f : Finding) : Bool := !limitedCodes.contains f.rule

/-- Findings of which some are left: all of rules without a limit, as they were, and of the others
some, in their order and places. -/
structure Pared (left all : List Finding) : Prop where
  placed : (left.map Finding.place).Sublist (all.map Finding.place)
  unlimited : left.filter Finding.isUnlimited = all.filter Finding.isUnlimited

theorem pared_refl (findings : List Finding) : Pared findings findings := ⟨.refl _, rfl⟩

theorem pared_append {left all others whole : List Finding} (first : Pared left all)
    (second : Pared others whole) : Pared (left ++ others) (all ++ whole) := by
  refine ⟨?_, ?_⟩
  · rw [List.map_append, List.map_append]
    exact first.placed.append second.placed
  · rw [List.filter_append, List.filter_append, first.unlimited, second.unlimited]

namespace Listing

variable (l : Listing) (file : String)

theorem publish_limited (n : Notice) (f : Finding) (published : l.publish file n = .ok (some f))
    (limited : n.rule ∈ limitedCodes) : f.isUnlimited = false := by
  obtain ⟨line, _, _, same⟩ := (l.publish_some_iff file n f).mp published
  have ruled : f.rule = n.rule := congrArg Finding.Draft.rule same
  simp [Finding.isUnlimited, ruled, limited]

theorem publish_reworded (n : Notice) (message : String) (found : Option Finding)
    (published : l.publish file n = .ok found) :
    l.publish file { n with message } = .ok (found.map fun f => { f with message }) := by
  cases found with
  | none => exact (l.publish_none_iff file _).mpr ((l.publish_none_iff file n).mp published)
  | some f =>
    obtain ⟨line, placed, heard, same⟩ := (l.publish_some_iff file n f).mp published
    refine (l.publish_some_iff file _ _).mpr ⟨line, placed, heard, ?_⟩
    calc Finding.draft { f with message }
        = { f.draft with message } := by simp only [Finding.draft]
      _ = l.draftOf file { n with message } line := by rw [same, draftOf, draftOf]

-- A notice that fails is a failure on both sides, so the fewer are published where the more are.
theorem publish_all_thinned {fewer more : Notices} (thinned : Thinned fewer more)
    (findings : List Finding) (published : l.publishAll file more = .ok findings) :
    ∃ left, l.publishAll file fewer = .ok left ∧ Pared left findings := by
  induction thinned generalizing findings with
  | nil =>
    cases published
    exact ⟨[], rfl, pared_refl []⟩
  | same n _ ih =>
    obtain ⟨notice, found, others, rfl, here, later, rfl⟩ :=
      (l.publish_all_cons_iff file _ _ _).mp published
    obtain ⟨left, kept, pared⟩ := ih others later
    exact ⟨_, (l.publish_all_cons_iff file _ _ _).mpr ⟨notice, found, left, rfl, here, kept, rfl⟩,
      pared_append (pared_refl _) pared⟩
  | reworded n message limited _ ih =>
    obtain ⟨notice, found, others, made, here, later, rfl⟩ :=
      (l.publish_all_cons_iff file _ _ _).mp published
    cases made
    obtain ⟨left, kept, pared⟩ := ih others later
    have said := l.publish_reworded file n message found here
    refine ⟨_, (l.publish_all_cons_iff file _ _ _).mpr ⟨_, _, left, rfl, said, kept, rfl⟩,
      pared_append ?_ pared⟩
    cases found with
    | none => exact pared_refl []
    | some f =>
      have other := l.publish_limited file n f here limited
      refine ⟨.refl _, ?_⟩
      have also : Finding.isUnlimited { f with message } = false := other
      simp [other, also]
  | dropped n limited _ ih =>
    obtain ⟨notice, found, others, made, here, later, rfl⟩ :=
      (l.publish_all_cons_iff file _ _ _).mp published
    cases made
    obtain ⟨left, kept, pared⟩ := ih others later
    refine ⟨left, kept, pared_append (show Pared [] _ from ?_) pared⟩
    cases found with
    | none => exact pared_refl []
    | some f => exact ⟨List.nil_sublist _, by simp [l.publish_limited file n f here limited]⟩

end Listing

end Publishing

structure Settings.Laxer (lax strict : Settings) : Prop where
  branches : strict.complexity.maxBranches ≤ lax.complexity.maxBranches
  nesting : strict.complexity.maxNestingDepth ≤ lax.complexity.maxNestingDepth
  lines : strict.complexity.maxFunctionLines ≤ lax.complexity.maxFunctionLines
  arguments : strict.complexity.maxArguments ≤ lax.complexity.maxArguments
  locals : strict.complexity.maxLocalVariables ≤ lax.complexity.maxLocalVariables
  cyclomatic :
    strict.complexity.maxCyclomaticComplexity ≤ lax.complexity.maxCyclomaticComplexity
  operators : strict.booleanLogic.maxBooleanOperators ≤ lax.booleanLogic.maxBooleanOperators
  concatenations : strict.performance.minConcatenations ≤ lax.performance.minConcatenations
  calls : strict.performance.minDuplicateCalls ≤ lax.performance.minDuplicateCalls

namespace Rules

open Code

section Walks

theorem excess_thins (f : Complexity.Subject) (rule : Rule) (value : Int)
    (limited : rule.code ∈ limitedCodes) {low high : Int} (higher : low ≤ high)
    (message other suggestion : String) (endLine : Option Int) :
    Thins (Complexity.excess f rule value high other suggestion endLine)
      (Complexity.excess f rule value low message suggestion endLine) :=
  thins_conditional { rule.notice f.span message suggestion with endLine, placeNeeded := true }
    other limited fun above => Int.lt_of_le_of_lt higher above

variable {lax strict : Settings} (laxer : lax.Laxer strict)

include laxer

theorem complexity_check_thinned (f : Complexity.Subject) :
    Thinned ((Complexity.check lax.complexity f).map .ok)
      ((Complexity.check strict.complexity f).map .ok) := by
  refine thinned_options (.cons ?_ (.cons ?_ (.cons ?_ (.cons ?_ (.cons ?_ (.cons ?_ .nil))))))
  · unfold Complexity.lengthNotice
    split
    · exact excess_thins f _ _ (by decide) laxer.lines _ _ _ _
    · exact .nil
  · exact excess_thins f _ _ (by decide) laxer.arguments _ _ _ _
  · exact excess_thins f _ _ (by decide) laxer.locals _ _ _ _
  · exact excess_thins f _ _ (by decide) laxer.branches _ _ _ _
  · exact excess_thins f _ _ (by decide) laxer.nesting _ _ _ _
  · exact excess_thins f _ _ (by decide) laxer.cyclomatic _ _ _ _

theorem boolean_check_thins (inside : Bool) (node : Node) :
    Thins (BooleanLogic.check lax.booleanLogic inside node)
      (BooleanLogic.check strict.booleanLogic inside node) := by
  unfold BooleanLogic.check
  split
  · have limited : Rule.crowdedBoolean.code ∈ limitedCodes := by decide
    exact thins_conditional (Rule.crowdedBoolean.notice _ _ _) _ limited
      fun above => Int.lt_of_le_of_lt laxer.operators above
  all_goals exact thinned_refl _

theorem concatenation_thins (silent : Span → Rule → Bool) (scopes : Performance.Scopes)
    (nodes : List Node) :
    Thins (Performance.concatenation lax.performance silent scopes nodes)
      (Performance.concatenation strict.performance silent scopes nodes) := by
  unfold Performance.concatenation
  dsimp only
  split
  · exact .nil
  · have limited : Rule.textConcatenation.code ∈ limitedCodes := by decide
    exact thins_conditional (Rule.textConcatenation.notice _ _ _) _ limited
      fun enough => Int.le_trans laxer.concatenations enough

theorem repeated_calls_thinned (silent : Span → Rule → Bool) (nodes : List Node) :
    Thinned (Performance.repeatedCalls lax.performance silent nodes)
      (Performance.repeatedCalls strict.performance silent nodes) := by
  unfold Performance.repeatedCalls
  dsimp only
  split
  · exact thinned_refl _
  · have limited : Rule.repeatedCall.code ∈ limitedCodes := by decide
    refine thinned_filter _ _ _ _ (fun _ _ => limited) fun group _ enough => ?_
    exact decide_eq_true (Int.le_trans laxer.calls (of_decide_eq_true enough))

theorem performance_check_thinned (silent : Span → Rule → Bool) (scopes : Performance.Scopes)
    (visit : Visit) :
    Thinned (Performance.check lax.performance silent scopes visit)
      (Performance.check strict.performance silent scopes visit) := by
  unfold Performance.check
  split
  · exact thinned_refl _
  · exact thinned_refl _
  · split
    · exact thinned_append (concatenation_thins laxer silent scopes _)
        (repeated_calls_thinned laxer silent _)
    · exact .nil
  · exact .nil

-- The step of the argument: what is said at a visit, by whichever family, given the same scopes.
theorem spoken_thinned (listing : Listing) (outside : Bool) (scopes : Performance.Scopes)
    (family : Family) (visit : Visit) :
    Thinned (Inspector.spoken lax listing outside scopes family visit)
      (Inspector.spoken strict listing outside scopes family visit) := by
  cases family with
  | complexity =>
    cases visit with
    | enter around node =>
      unfold Inspector.spoken Inspector.remarks
      dsimp only
      split
      · exact complexity_check_thinned laxer _
      · exact .nil
    | leave around node => exact .nil
  | performance => exact performance_check_thinned laxer _ scopes visit
  | booleanLogic =>
    cases visit with
    | enter around node => exact boolean_check_thins laxer _ node
    | leave around node => exact .nil
  | _ => cases visit <;> exact thinned_refl _

theorem said_thinned (listing : Listing) (outside : Bool) (family : Family)
    (scopes : Performance.Scopes) (visits : List Visit) :
    Thinned (Inspector.said lax listing outside family scopes visits)
      (Inspector.said strict listing outside family scopes visits) := by
  induction visits generalizing scopes with
  | nil => exact .nil
  | cons visit rest ih =>
    exact thinned_append (spoken_thinned laxer listing outside scopes family visit) (ih _)

theorem notices_thinned (listing : Listing) (outside : Bool) (m : Module) (family : Family) :
    Thinned (notices lax listing outside m family) (notices strict listing outside m family) := by
  rw [← Inspector.said_notices, ← Inspector.said_notices]
  exact said_thinned laxer listing outside family [] _

end Walks

/--
Under laxer limits a family on the tree answers wherever it does under the stricter ones. What it
then reports was reported at the same place and by the same rule before, in the same order, and
the findings of rules without a limit are the same.
-/
theorem examine_laxer (lax strict : Settings) (laxer : lax.Laxer strict) (sheet : Sheet)
    (outside : Bool) (m : Module) (family : Family) (onTree : family ≠ .duplication)
    (verdict : Verdict) (returned : examine strict sheet outside m family = .ok verdict) :
    ∃ left, examine lax sheet outside m family = .ok left ∧
      (left.findings.map Finding.place).Sublist (verdict.findings.map Finding.place) ∧
      left.findings.filter Finding.isUnlimited = verdict.findings.filter Finding.isUnlimited := by
  rw [examine_eq _ _ _ _ family onTree] at returned ⊢
  obtain ⟨findings, published, same⟩ := (bind_ok_iff _ _ _).mp returned
  cases same
  obtain ⟨left, kept, pared⟩ := sheet.listing.publish_all_thinned sheet.file
    (notices_thinned laxer sheet.listing outside m family) findings published
  exact ⟨{ findings := left }, (bind_ok_iff _ _ _).mpr ⟨left, kept, rfl⟩, pared.placed,
    pared.unlimited⟩

def crowding : Module :=
  (Code.parse Code.noNames "a or b or c or d\nnot (a and b)\na or b or c".toList).getD default

def allowing (operators : Int) : Settings :=
  { booleanLogic := { maxBooleanOperators := operators } }

theorem examine_laxer_crowding :
    (allowing 2).Laxer (allowing 1) ∧ Family.booleanLogic ≠ .duplication ∧
      ∃ verdict left,
        examine (allowing 1) ⟨"a.py", .ofList []⟩ false crowding .booleanLogic = .ok verdict ∧
        verdict.findings.map Finding.place = [(1, 0, "B001"), (2, 0, "B006"), (3, 0, "B001")] ∧
        examine (allowing 2) ⟨"a.py", .ofList []⟩ false crowding .booleanLogic = .ok left ∧
        (left.findings.map Finding.place).Sublist
          [(1, 0, "B001"), (2, 0, "B006"), (3, 0, "B001")] ∧
        (left.findings.filter Finding.isUnlimited).map Finding.place = [(2, 0, "B006")] := by
  have laxer : (allowing 2).Laxer (allowing 1) := by
    constructor <;> decide
  have shown : (examine (allowing 1) ⟨"a.py", .ofList []⟩ false crowding .booleanLogic).toOption.map
      (fun v => (v.findings.map Finding.place,
        (v.findings.filter Finding.isUnlimited).map Finding.place)) =
      some ([(1, 0, "B001"), (2, 0, "B006"), (3, 0, "B001")], [(2, 0, "B006")]) := by decide +kernel
  cases returned : examine (allowing 1) ⟨"a.py", .ofList []⟩ false crowding .booleanLogic with
  | error failure =>
    rw [returned] at shown
    cases shown
  | ok verdict =>
    rw [returned] at shown
    obtain ⟨places, unlimited⟩ := Prod.mk.inj (Option.some.inj shown)
    obtain ⟨left, answered, fewer, same⟩ := examine_laxer (allowing 2) (allowing 1) laxer _ false
      crowding .booleanLogic (by decide) verdict returned
    exact ⟨laxer, by decide, verdict, left, rfl, places, answered, places ▸ fewer,
      by rw [same, unlimited]⟩

end Rules

end RefactorAdvice
