import RefactorAdvice.Proofs.JoinedOperands
import RefactorAdvice.Proofs.LoopReports
import RefactorAdvice.Proofs.SilencingFilter

/-!
What is reported of boolean operations. In a module that was read every notice of the family has a
place to stand, so the examination gives a verdict, and the findings of a rule come from the notices
of that rule. An operation is crowded by the operands that it joins, whichever way they are grouped:
there is a report on each operation that joins too many and is not silenced, and on no other.
-/

namespace RefactorAdvice.Rules.BooleanLogic

open Code
open Performance (alike isOf onLine)

section Family

variable {limits : Settings.BooleanLogic} {inside : Bool} {node : Node} {n : Notice}

theorem crowded_iff (e : Expr) :
    crowded limits e = some n ↔ e.isBoolOp = true ∧
      limits.maxBooleanOperators + 1 < (operands e).length ∧
      n = Rule.crowdedBoolean.notice e.span
        (crowdMessage limits.maxBooleanOperators ((operands e).length - 1))
        "Extract boolean sub-expressions to named variables for clarity" := by
  cases e with
  | boolOp span op values =>
    have more : limits.maxBooleanOperators < operatorCount (.boolOp span op values) ↔
        limits.maxBooleanOperators + 1 < (operands (.boolOp span op values)).length := by
      rw [operator_count_eq]
      omega
    rw [← more, ← operator_count_eq]
    unfold crowded
    dsimp only
    split
    · rename_i many
      rw [Option.some.injEq, eq_comm (a := n)]
      exact ⟨fun same => ⟨rfl, many, same⟩, fun same => same.2.2⟩
    · rename_i few
      exact iff_of_false (by simp) fun same => few same.2.1
  | _ => exact iff_of_false (by simp [crowded]) fun same => by cases same.1

theorem check_crowded {e : Expr} (told : crowded limits e = some n) :
    check limits inside (.expr e) = some n := by
  cases e with
  | boolOp => exact told
  | _ => cases told

variable {names : CharNames} {cs : List Char} {m : Module} {outside : Bool}

theorem notices_eq : notices limits outside m = (m.tree.places []).filterMap fun place =>
    (check limits (insideFunction outside place.1) place.2).map .ok := by
  simp only [notices, placedNotices, List.map_filterMap, Option.map_map]
  rfl

theorem boolean_logic_examined (read : parse names cs = some m) (settings : Settings)
    (sheet : Sheet) (outside : Bool) :
    ∃ verdict, examine settings sheet outside m .booleanLogic = .ok verdict ∧
      sheet.listing.publishAll sheet.file (notices settings.booleanLogic outside m) =
        .ok verdict.findings := by
  obtain ⟨findings, published⟩ : ∃ findings, sheet.listing.publishAll sheet.file
      (notices settings.booleanLogic outside m) = .ok findings := by
    apply sheet.listing.publish_all_defined sheet.file
    intro n member
    rw [notices_eq] at member
    obtain ⟨⟨around, node⟩, listed, told⟩ := List.mem_filterMap.mp member
    obtain ⟨notice, checked, rfl⟩ := Option.map_eq_some_iff.mp told
    obtain ⟨rule, said⟩ := check_said checked
    obtain ⟨span, stands, message, suggestion, rfl⟩ : ∃ span, node.span? = some span ∧
        ∃ message suggestion, notice = rule.notice span message suggestion := by
      cases said <;> exact ⟨_, rfl, _, _, rfl⟩
    have walked : node ∈ m.tree.preorder := by
      rw [← places_preorder [] m.tree]
      exact List.mem_map_of_mem listed
    obtain ⟨line, column, endLine, rfl⟩ := parse_known read node walked span stands
    obtain ⟨found, made⟩ := sheet.listing.publish_total sheet.file
      (rule.notice (.known line column endLine) message suggestion) (Int.natCast_nonneg column) rfl
      fun _ => rfl
    exact ⟨_, found, rfl, made⟩
  refine ⟨⟨findings, []⟩, ?_, published⟩
  rw [examine_eq _ _ _ _ .booleanLogic (by decide)]
  exact (bind_ok_iff _ _ _).mpr ⟨findings, published, rfl⟩

def spoken (limits : Settings.BooleanLogic) (outside : Bool) (rule : Rule)
    (place : List Node × Node) : Option Notice :=
  (check limits (insideFunction outside place.1) place.2).filter (·.rule == rule.code)

theorem spoken_iff {rule : Rule} {place : List Node × Node} :
    spoken limits outside rule place = some n ↔
      check limits (insideFunction outside place.1) place.2 = some n ∧ n.rule = rule.code := by
  rw [spoken, Option.filter_eq_some_iff, beq_iff_eq]

/-- The findings of a rule come from the notices of that rule. -/
theorem rule_published (rule : Rule) {l : Listing} {file : String} {findings : List Finding}
    (published : l.publishAll file (notices limits outside m) = .ok findings) :
    l.publishAll file ((m.tree.places []).filterMap fun place =>
        (spoken limits outside rule place).map .ok) =
      .ok (findings.filter (·.rule == rule.code)) := by
  have chosen := l.publish_all_filter file (isOf rule) (·.rule == rule.code)
    (fun n f made => congrArg (· == rule.code) (congrArg Sign.rule (publish_sign made))) published
  rw [notices_eq, List.filter_filterMap] at chosen
  simp only [Option.filter_map] at chosen
  exact chosen

end Family

section Reports

def operation? : Node → Option Expr
  | .expr e => if e.isBoolOp then some e else none
  | _ => none

theorem operation_iff (node : Node) (e : Expr) :
    operation? node = some e ↔ node = .expr e ∧ e.isBoolOp = true := by
  cases node with
  | expr other => grind [operation?]
  | _ => simp [operation?]

def booleans (m : Module) : List Expr := m.tree.preorder.filterMap operation?

theorem mem_booleans_iff (m : Module) (e : Expr) :
    e ∈ booleans m ↔ .expr e ∈ m.tree.preorder ∧ e.isBoolOp = true := by
  rw [booleans, List.mem_filterMap]
  constructor
  · rintro ⟨node, listed, is⟩
    obtain ⟨rfl, operation⟩ := (operation_iff node e).mp is
    exact ⟨listed, operation⟩
  · rintro ⟨listed, operation⟩
    exact ⟨_, listed, (operation_iff _ e).mpr ⟨rfl, operation⟩⟩

variable (limits : Settings.BooleanLogic)

/-- An operation that joins too many operands, where its rule is not silenced. -/
def reportable (l : Listing) (e : Expr) : Bool :=
  decide (limits.maxBooleanOperators + 1 < (operands e).length) &&
    !l.silencesAt e.span (some "B001")

def label (e : Expr) : (Nat × Nat) × String :=
  (e.span.spot, crowdMessage limits.maxBooleanOperators ((operands e).length - 1))

theorem crowded_spoken (outside : Bool) :
    spoken limits outside .crowdedBoolean =
      fun place => (operation? place.2).bind (crowded limits) := by
  funext ⟨around, node⟩
  apply Option.ext
  intro n
  rw [spoken_iff, Option.bind_eq_some_iff]
  constructor
  · rintro ⟨checked, own⟩
    cases said_of_code (by decide) checked own with
    | crowd => exact ⟨_, rfl, checked⟩
  · rintro ⟨e, is, told⟩
    obtain ⟨rfl, _⟩ := (operation_iff node e).mp is
    exact ⟨check_crowded told, by rw [((crowded_iff e).mp told).2.2]; rfl⟩

variable {names : CharNames} {cs : List Char} {m : Module} {l : Listing} {file : String}

/-- An operation of a module that was read has a line for its report. -/
theorem crowded_shown_iff (read : parse names cs = some m) {e : Expr} (listed : e ∈ booleans m) :
    ((crowded limits e).bind (Performance.shown l file)).isSome = reportable limits l e := by
  obtain ⟨walked, operation⟩ := (mem_booleans_iff m e).mp listed
  rw [Bool.eq_iff_iff, reportable, Bool.and_eq_true, decide_eq_true_eq, Bool.not_eq_true']
  by_cases many : limits.maxBooleanOperators + 1 < (operands e).length
  · rw [(crowded_iff e).mpr ⟨operation, many, rfl⟩, Option.bind_some,
      Performance.node_notice_shown_iff read l file walked rfl]
    obtain ⟨line, column, endLine, known, first⟩ := parse_operation_known read walked operation
    have stands : onLine e.span = true := by rw [onLine, known, known_placed first]; rfl
    exact and_congr (iff_of_true stands many) Iff.rfl
  · have none : crowded limits e = none := by
      rw [Option.eq_none_iff_forall_ne_some]
      exact fun n told => many ((crowded_iff e).mp told).2.1
    rw [none]
    exact iff_of_false (by simp) fun both => many both.1

theorem crowded_labels (read : parse names cs = some m) {outside : Bool} {findings : List Finding}
    (published : l.publishAll file (notices limits outside m) = .ok findings) :
    (findings.filter (·.rule == "B001")).map (fun f => (f.spot, f.message)) =
      ((booleans m).filter (reportable limits l)).map (label limits) := by
  have chosen := Performance.publish_all_shown l file
    (rule_published .crowdedBoolean published)
  have walked : findings.filter (·.rule == "B001") =
      (booleans m).filterMap fun e => (crowded limits e).bind (Performance.shown l file) := by
    rw [booleans, List.filterMap_filterMap, ← places_preorder [] m.tree, List.filterMap_map]
    simp only [Function.comp_def, ← Option.bind_assoc]
    rw [crowded_spoken] at chosen
    exact chosen
  rw [walked]
  apply Performance.filter_map_labels
  · exact fun e listed => crowded_shown_iff limits read listed
  · intro e _ f told
    obtain ⟨n, given, made⟩ := Option.bind_eq_some_iff.mp told
    obtain ⟨_, _, rfl⟩ := (crowded_iff e).mp given
    have sign := (Performance.shown_alike made).1
    exact congrArg₂ Prod.mk (congrArg Sign.spot sign) (congrArg Sign.message sign)

-- A message tells how many operands there are, so it is enough that one operation has it.
theorem reported_iff {findings : List Finding} {e : Expr}
    (labels : (findings.filter (·.rule == "B001")).map (fun f => (f.spot, f.message)) =
      ((booleans m).filter (reportable limits l)).map (label limits))
    (listed : e ∈ booleans m) (heard : l.silencesAt e.span (some "B001") = false) :
    (∃ f ∈ findings, f.rule = "B001" ∧ (f.spot, f.message) = label limits e) ↔
      limits.maxBooleanOperators + 1 < (operands e).length := by
  constructor
  · rintro ⟨f, member, own, told⟩
    have tagged : label limits e ∈
        (findings.filter (·.rule == "B001")).map (fun f => (f.spot, f.message)) :=
      List.mem_map.mpr ⟨f, List.mem_filter.mpr ⟨member, beq_iff_eq.mpr own⟩, told⟩
    rw [labels] at tagged
    obtain ⟨other, kept, same⟩ := List.mem_map.mp tagged
    have counts := crowd_message_injective (congrArg Prod.snd same)
    have many := of_decide_eq_true ((Bool.and_eq_true _ _).mp (List.mem_filter.mp kept).2).1
    omega
  · intro many
    have kept : e ∈ (booleans m).filter (reportable limits l) :=
      List.mem_filter.mpr ⟨listed, by simp [reportable, many, heard]⟩
    have tagged : label limits e ∈ _ := List.mem_map_of_mem kept
    rw [← labels] at tagged
    obtain ⟨f, member, told⟩ := List.mem_map.mp tagged
    obtain ⟨inside, own⟩ := List.mem_filter.mp member
    exact ⟨f, inside, beq_iff_eq.mp own, told⟩

/--
The count of operators takes one turn for each operation, and has then found one operator less than
there are operands. The same operands give the same count, whichever way they are grouped. So in a
module that was read there is a report on each boolean operation that joins more operands than one
above the limit and is not silenced, one after the other, and on no other operation.
-/
theorem crowded_operations_reported :
    (∀ e : Expr, e.isBoolOp = true →
      Count.turn^[operations e] ⟨0, [e]⟩ = ⟨(operands e).length - 1, []⟩ ∧
        operatorCount e = (operands e).length - 1) ∧
    (∀ e other : Expr, List.Forall₂ (alike · ·) (operands e) (operands other) →
      operatorCount e = operatorCount other) ∧
    ∀ names cs m, parse names cs = some m → ∀ settings sheet outside, ∃ verdict,
      examine settings sheet outside m .booleanLogic = .ok verdict ∧
      (verdict.findings.filter (·.rule == "B001")).map (fun f => (f.spot, f.message)) =
        ((booleans m).filter (reportable settings.booleanLogic sheet.listing)).map
          (label settings.booleanLogic) ∧
      ∀ e ∈ booleans m, sheet.listing.silencesAt e.span (some "B001") = false →
        ((∃ f ∈ verdict.findings, f.rule = "B001" ∧
            (f.spot, f.message) = label settings.booleanLogic e) ↔
          settings.booleanLogic.maxBooleanOperators + 1 < (operands e).length) := by
  refine ⟨fun e operation => ⟨?_, operator_count_eq e⟩, fun e other same => ?_,
    fun _ cs m read settings sheet outside => ?_⟩
  · have proper : Count.Proper ⟨0, [e]⟩ := by simpa [Count.Proper] using operation
    rw [Count.turns_end (operations e) ⟨0, [e]⟩ proper (by simp)]
    simp [Count.outcome]
  · rw [operator_count_eq, operator_count_eq, same.length_eq]
  · obtain ⟨verdict, examined, published⟩ := boolean_logic_examined read settings sheet outside
    have labels := crowded_labels settings.booleanLogic read published
    exact ⟨verdict, examined, labels, fun e listed heard => reported_iff _ labels listed heard⟩

section Instances

def pairs : List Char := "if (a and b) or c and d or (e and f):\n    pass\n".toList

def groupedFirst : Expr :=
  .boolOp default .and [.boolOp default .or [.name default "a" .load, .name default "b" .load],
    .name default "c" .load]

def groupedLast : Expr :=
  .boolOp default .or [.name default "a" .load,
    .boolOp default .and [.name default "b" .load, .name default "c" .load]]

theorem crowded_operations_reported_pairs :
    Count.turn^[2] ⟨0, [groupedFirst]⟩ = ⟨2, []⟩ ∧
    operatorCount groupedFirst = operatorCount groupedLast ∧
    ∃ m verdict f, parse noNames pairs = some m ∧
      examine {} ⟨"a.py", .ofList []⟩ false m .booleanLogic = .ok verdict ∧
      verdict.findings.filter (·.rule == "B001") = [f] ∧ f.spot = (1, 3) ∧
      f.message = "Complex boolean expression with 5 operators (max 3)" := by
  have self : ∀ e : Expr, alike e e = true := fun e => (Performance.alike_iff e e).mpr rfl
  have same : List.Forall₂ (alike · ·) (operands groupedFirst) (operands groupedLast) :=
    .cons (self _) (.cons (self _) (.cons (self _) .nil))
  refine ⟨(crowded_operations_reported.1 groupedFirst rfl).1,
    crowded_operations_reported.2.1 _ _ same, ?_⟩
  have spelled : (parse noNames pairs).any (fun m =>
      ((booleans m).filter (reportable {} (.ofList []))).map (label {}) ==
        [((1, 3), crowdMessage 3 5)]) = true := by decide +kernel
  obtain ⟨m, parsed, holds⟩ := (Option.any_eq_true _ _).mp spelled
  obtain ⟨verdict, examined, labels, _⟩ :=
    crowded_operations_reported.2.2 _ _ m parsed {} ⟨"a.py", .ofList []⟩ false
  rw [show List.map (label {}) _ = _ from beq_iff_eq.mp holds, List.map_eq_singleton_iff] at labels
  obtain ⟨f, alone, told⟩ := labels
  exact ⟨m, verdict, f, parsed, examined, alone, congrArg Prod.fst told,
    (congrArg Prod.snd told).trans (by decide +kernel)⟩

end Instances

end Reports

end RefactorAdvice.Rules.BooleanLogic
