import RefactorAdvice.Proofs.AdvisedForms
import RefactorAdvice.Proofs.NegatedTexts

/-!
Advice that can be pasted in. A comparison with a truth value is advised to be written as its other
side or as the negation of that. What is quoted reads as it should, wherever the text of the other
side reads as the other side, but for operations that bind less tightly than `not`: behind it, they
are read as something else or not at all.
-/

namespace RefactorAdvice.Rules

open Code Comparisons

section Quotes

def quoted (value negated : Bool) (text : String) : String :=
  if value = negated then "not " ++ text else text

def quoteEnd (value negated : Bool) : String :=
  match value, negated with
  | true, false => " directly instead of comparing with True"
  | true, true => " instead of '!= True'"
  | false, false => " instead of comparing with False"
  | false, true => " directly instead of '!= False'"

theorem bool_suggestion_quotes (value negated : Bool) (text : String) :
    boolSuggestion value negated text =
      "Use '" ++ quoted value negated text ++ "'" ++ quoteEnd value negated := by
  apply String.toList_inj.mp
  cases value <;> cases negated <;> simp [boolSuggestion, quoted, quoteEnd, toString]

end Quotes

section Reports

/-- What a finding of a comparison with a truth value quotes, in place of the comparison, is the
other side of it or the negation of that: where the text of the other side reads as the other side
and no loose operation is to be negated, what is quoted reads as it should. -/
def Pasteable (m : Module) (f : Finding) : Prop :=
  ∃ span left op right others value e text,
    .expr (.compare span left [op] (right :: others)) ∈ m.tree.preorder ∧ f.spot = span.spot ∧
    (op = .eq ∨ op = .notEq) ∧ singletonSide? left right = some (.bool value, e) ∧
    e.render = .ok text ∧
    f.suggestion = some ("Use '" ++ quoted value (op == .notEq) text ++ "'" ++
      quoteEnd value (op == .notEq)) ∧
    ∀ names, Spells names text e →
      if value = (op == .notEq) then
        e.isLoose = false → ∀ place,
          Spells names (quoted value (op == .notEq) text) (.unary place .not e)
      else Spells names (quoted value (op == .notEq) text) e

variable {m : Module} {n : Notice}

theorem quoted_spelled {value negated : Bool} {text : String} {e : Expr} (names : CharNames)
    (spells : Spells names text e) :
    if value = negated then
      e.isLoose = false → ∀ place, Spells names (quoted value negated text) (.unary place .not e)
    else Spells names (quoted value negated text) e := by
  unfold quoted
  split
  · exact fun tight place => spells_not spells tight place
  · exact spells

/-- A notice of a comparison with a truth value tells of the other side. -/
theorem singleton_notice_found {span : Span} {left right : Expr} {negated : Bool}
    (found : singletonNotice span left right negated = .ok (some n))
    (code : n.rule = Rule.equalsBool.code) :
    ∃ value e text, singletonSide? left right = some (.bool value, e) ∧ e.render = .ok text ∧
      n.span = span ∧ n.suggestion = boolSuggestion value negated text := by
  unfold singletonNotice at found
  split at found
  · cases found
  · cases found
    have other : (noneNotice span negated).rule = Rule.equalsNone.code := rfl
    exact absurd (other.symm.trans code) (by decide)
  · rename_i value e side
    obtain ⟨text, written, same⟩ := (bind_ok_iff _ _ _).mp found
    cases same
    exact ⟨value, e, text, side, written, rfl, rfl⟩

theorem singleton_found {e : Expr} (found : Comparisons.singleton e = .ok (some n))
    (code : n.rule = Rule.equalsBool.code) :
    ∃ span left op right others value other text, e = .compare span left [op] (right :: others) ∧
      (op = .eq ∨ op = .notEq) ∧ singletonSide? left right = some (.bool value, other) ∧
      other.render = .ok text ∧ n.span = span ∧
      n.suggestion = boolSuggestion value (op == .notEq) text := by
  unfold Comparisons.singleton at found
  split at found
  · obtain ⟨value, other, text, told⟩ := singleton_notice_found found code
    exact ⟨_, _, .eq, _, _, value, other, text, rfl, Or.inl rfl, told⟩
  · obtain ⟨value, other, text, told⟩ := singleton_notice_found found code
    exact ⟨_, _, .notEq, _, _, value, other, text, rfl, Or.inr rfl, told⟩
  · cases found

def called : Expr :=
  .call (.known 1 0 1) (.name (.known 1 0 1) "f" .load) [.name (.known 1 2 1) "a" .load] []

theorem called_spelled (names : CharNames) : Spells names "f(a)" called := by
  have cut : tokens "f(a)".toList = some [⟨.name "f", 1, 0, 1⟩, ⟨.symbol "(", 1, 1, 1⟩,
      ⟨.name "a", 1, 2, 1⟩, ⟨.symbol ")", 1, 3, 1⟩, ⟨.newline, 1, 4, 1⟩, ⟨.done, 2, 0, 2⟩] := rfl
  refine ⟨⟨'f', _, rfl, by decide⟩, _, cut, 3, ?_⟩
  rintro depth ⟨rest, endLine, size, _⟩ deep wide rfl standing
  obtain ⟨depth, rfl⟩ := Nat.exists_eq_add_of_le' deep
  obtain ⟨size, rfl⟩ := Nat.exists_eq_add_of_le' wide
  dsimp only [List.map] at standing
  obtain ⟨⟨_, _, _, _⟩, behind, rfl, rfl, later⟩ := List.map_eq_cons_iff.mp standing
  obtain ⟨⟨_, _, _, _⟩, within, rfl, rfl, inner⟩ := List.map_eq_cons_iff.mp later
  obtain ⟨⟨_, _, _, _⟩, last, rfl, rfl, closing⟩ := List.map_eq_cons_iff.mp inner
  obtain ⟨⟨_, _, _, _⟩, layout, rfl, rfl, ends⟩ := List.map_eq_cons_iff.mp closing
  obtain ⟨⟨_, _, _, _⟩, done, rfl, rfl, _⟩ := List.map_eq_cons_iff.mp ends
  exact ⟨_, _, rfl, rfl, ends⟩

def Advises (code advice : String) (m : Module) (verdict : Verdict) (f : Finding) : Prop :=
  parse noNames code.toList = some m ∧
    examine {} ⟨"a.py", .ofList []⟩ false m .comparisons = .ok verdict ∧
    f ∈ verdict.findings ∧ f.rule = "R015" ∧ f.suggestion = some advice

theorem advises_of_any {code advice : String} (shown : (parse noNames code.toList).any (fun m =>
      (examine {} ⟨"a.py", .ofList []⟩ false m .comparisons).toOption.any fun verdict =>
        verdict.findings.any fun f => f.rule == "R015" && f.suggestion == some advice) = true) :
    ∃ m verdict f, Advises code advice m verdict f := by
  obtain ⟨m, parsed, holds⟩ := (Option.any_eq_true _ _).mp shown
  obtain ⟨verdict, examined, holds⟩ := (Option.any_eq_true _ _).mp holds
  obtain ⟨f, reported, holds⟩ := List.any_eq_true.mp holds
  obtain ⟨rule, suggestion⟩ := (Bool.and_eq_true _ _).mp holds
  exact ⟨m, verdict, f, parsed, ok_of_to_option _ _ examined, reported, beq_iff_eq.mp rule,
    beq_iff_eq.mp suggestion⟩

/--
The advice on a comparison with a truth value can be pasted in, wherever it does not negate an
operation that binds less tightly than `not`.
-/
theorem quoted_replacements_read {settings : Settings} {sheet : Sheet} {outside : Bool}
    {verdict : Verdict} (examined : examine settings sheet outside m .comparisons = .ok verdict) :
    ∀ f ∈ verdict.findings, f.rule = "R015" → Pasteable m f := by
  intro f reported code
  obtain ⟨node, listed, n, told, rule, spot, suggestion⟩ :=
    finding_source Comparisons.check (by decide) rfl examined reported
  rw [rule] at code
  cases said_of_check told with
  | equalities _ other => exact absurd (other.symm.trans code) (by decide)
  | instances _ other => exact absurd (other.symm.trans code) (by decide)
  | split _ other => exact absurd (other.symm.trans code) (by decide)
  | types _ other => exact absurd (other.symm.trans code) (by decide)
  | singleton found _ =>
    obtain ⟨span, left, op, right, others, value, e, text, rfl, asked, side, written, here,
      advice⟩ := singleton_found found code
    rw [here] at spot
    rw [advice, bool_suggestion_quotes] at suggestion
    exact ⟨span, left, op, right, others, value, e, text, listed, spot, asked, side, written,
      suggestion, quoted_spelled⟩

theorem quoted_replacements_read_called :
    (∀ names, Spells names "f(a)" called) ∧ ∃ m verdict f,
      Advises "f(a) == False\n" "Use 'not f(a)' instead of comparing with False" m verdict f ∧
      Pasteable m f := by
  obtain ⟨m, verdict, f, parsed, examined, reported, rule, suggestion⟩ : ∃ m verdict f,
      Advises "f(a) == False\n" "Use 'not f(a)' instead of comparing with False" m verdict f :=
    advises_of_any (by decide +kernel)
  exact ⟨called_spelled, m, verdict, f, ⟨parsed, examined, reported, rule, suggestion⟩,
    quoted_replacements_read examined f reported rule⟩

def lone? (text : String) : Option Expr :=
  (parse noNames text.toList).bind fun m => match m.body with
    | [.expr _ e] => some e
    | _ => none

/-- A text that reads as the expression it is the text of, and that is advised to be written behind
`not`, where it does not read as the negation. -/
def Misread (text : String) : Prop :=
  (∃ m verdict f, Advises ("(" ++ text ++ ") == False\n")
    ("Use 'not " ++ text ++ "' instead of comparing with False") m verdict f) ∧
  ∃ e, lone? text = some e ∧ e.render = .ok text ∧
    ∀ read, lone? ("not " ++ text) = some read → read.marks ≠ (Expr.unary e.span .not e).marks

theorem misread_of_unlike {text : String}
    (advised : ∃ m verdict f, Advises ("(" ++ text ++ ") == False\n")
      ("Use 'not " ++ text ++ "' instead of comparing with False") m verdict f)
    (unlike : (lone? text).any (fun e => e.render.toOption == some text &&
      (lone? ("not " ++ text)).all fun read =>
        read.marks != (Expr.unary e.span .not e).marks) = true) : Misread text := by
  obtain ⟨e, alone, holds⟩ := (Option.any_eq_true _ _).mp unlike
  obtain ⟨written, others⟩ := (Bool.and_eq_true _ _).mp holds
  refine ⟨advised, e, alone, ok_of_to_option _ _ (beq_iff_eq.mp written), fun read found => ?_⟩
  rw [found] at others
  exact bne_iff_ne.mp others

/-- None of the loose operations keeps together behind `not`. -/
theorem loose_negations_misread :
    Misread "a or b" ∧ Misread "a if b else c" ∧ Misread "lambda: a" := by
  refine ⟨misread_of_unlike ?_ (by decide +kernel), misread_of_unlike ?_ (by decide +kernel),
    misread_of_unlike ?_ (by decide +kernel)⟩
  · exact advises_of_any (by decide +kernel)
  · exact advises_of_any (by decide +kernel)
  · exact advises_of_any (by decide +kernel)

end Reports

end RefactorAdvice.Rules
