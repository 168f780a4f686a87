import RefactorAdvice.Code.Grammar.Stmt
import RefactorAdvice.Proofs.Publishing

/-!
Silencing is a filter. A family that never asks what is silenced leaves the same notices
whatever the lines are, and the lines come in only when those are published. So its findings on
some lines are its findings on no lines at all, in the same order, less those that the lines
silence, and what is left differs in the quoted line alone.
-/

namespace RefactorAdvice

def Finding.quoting (l : Listing) (f : Finding) : Finding := { f with snippet := l.snippet f.line }

namespace Listing

def admits (l : Listing) (f : Finding) : Bool := !l.silences f.line (some f.rule)

/-- Findings as they are reported on a listing, given those on no lines. -/
def screened (l : Listing) (findings : List Finding) : List Finding :=
  (findings.filter l.admits).map (Finding.quoting l)

section NoLines

theorem no_line (number : Nat) : (ofList []).line number = "" := by
  cases number <;> rfl

theorem no_lines_silence (number : Nat) (rule : Option String) :
    (ofList []).silences number rule = false := by
  have unmarked : Suppression.lineSuppresses "" rule = false := rfl
  simp only [silences, no_line, unmarked, Bool.and_false, Bool.or_false]

theorem no_lines_silence_at (span : Code.Span) (rule : Option String) :
    (ofList []).silencesAt span rule = false := by
  unfold silencesAt
  split
  · rfl
  · exact no_lines_silence _ _

end NoLines

section Publishing

-- Only the place and the rule of a notice decide whether it is silenced, and the finding has both.
theorem publish_screened (l : Listing) (file : String) (n : Notice) (found : Option Finding)
    (plain : (ofList []).publish file n = .ok found) :
    l.publish file n = .ok ((found.filter l.admits).map (Finding.quoting l)) := by
  cases found with
  | none =>
    rcases (publish_none_iff _ file n).mp plain with ⟨unplaced, free⟩ | ⟨line, _, silent⟩
    · exact (publish_none_iff l file n).mpr (Or.inl ⟨unplaced, free⟩)
    · rw [no_lines_silence] at silent
      cases silent
  | some f =>
    obtain ⟨line, placed, _, same⟩ := (publish_some_iff _ file n f).mp plain
    have lineEq : f.line = line := Int.ofNat_inj.mp (congrArg Finding.Draft.line same)
    have ruleEq : f.rule = n.rule := congrArg Finding.Draft.rule same
    cases silent : l.silences line (some n.rule) with
    | true =>
      have dropped : l.admits f = false := by
        rw [admits, lineEq, ruleEq, silent]
        rfl
      simp only [Option.filter_some, dropped, Bool.false_eq_true, ↓reduceIte, Option.map_none]
      exact (publish_none_iff l file n).mpr (Or.inr ⟨line, placed, silent⟩)
    | false =>
      have kept : l.admits f = true := by
        rw [admits, lineEq, ruleEq, silent]
        rfl
      simp only [Option.filter_some, kept, ↓reduceIte, Option.map_some]
      refine (publish_some_iff l file n _).mpr ⟨line, placed, silent, ?_⟩
      calc (f.quoting l).draft
          = { f.draft with snippet := l.snippet f.line } := by
            simp only [Finding.draft, Finding.quoting]
        _ = l.draftOf file n line := by rw [same, lineEq, draftOf, draftOf]

theorem publish_all_screened (l : Listing) (file : String) (ns : Notices) (findings : List Finding)
    (plain : (ofList []).publishAll file ns = .ok findings) :
    l.publishAll file ns = .ok (l.screened findings) := by
  induction ns generalizing findings with
  | nil =>
    cases plain
    rfl
  | cons n rest ih =>
    obtain ⟨notice, made, plain⟩ := (bind_ok_iff _ _ _).mp plain
    obtain ⟨found, here, plain⟩ := (bind_ok_iff _ _ _).mp plain
    obtain ⟨others, later, same⟩ := (bind_ok_iff _ _ _).mp plain
    cases same
    have shown := publish_screened l file notice found here
    refine (bind_ok_iff _ _ _).mpr ⟨notice, made, ?_⟩
    refine (bind_ok_iff _ _ _).mpr ⟨_, shown, ?_⟩
    refine (bind_ok_iff _ _ _).mpr ⟨_, ih others later, ?_⟩
    cases found with
    | none => rfl
    | some f =>
      cases kept : l.admits f <;>
        simp [screened, Option.filter_some, kept, pure, Except.pure]

end Publishing

end Listing

namespace Rules

theorem notices_unlined (settings : Settings) (l : Listing) (outside : Bool) (m : Code.Module)
    (family : Family) (unasking : family ≠ .performance) :
    notices settings l outside m family = notices settings (.ofList []) outside m family := by
  cases family with
  | performance => exact absurd rfl unasking
  | _ => rfl

/--
A family that does not ask what is silenced and does not search the lines reports, on any lines,
what it reports on none, in order, without what the lines silence and with the lines quoted.
-/
theorem examine_screened (settings : Settings) (file : String) (l : Listing) (outside : Bool)
    (m : Code.Module) (family : Family) (unasking : family ≠ .performance)
    (onTree : family ≠ .duplication) (verdict : Verdict)
    (plain : examine settings ⟨file, .ofList []⟩ outside m family = .ok verdict) :
    examine settings ⟨file, l⟩ outside m family =
      .ok { verdict with findings := l.screened verdict.findings } := by
  rw [examine_eq _ _ _ _ family onTree] at plain ⊢
  obtain ⟨findings, published, same⟩ := (bind_ok_iff _ _ _).mp plain
  cases same
  rw [notices_unlined settings l outside m family unasking]
  exact (bind_ok_iff _ _ _).mpr ⟨_, Listing.publish_all_screened l file _ findings published, rfl⟩

def comparing : Code.Module :=
  (Code.parse Code.noNames "a==None\nb==None\n\nc==True".toList).getD default

def comparingLines : Listing :=
  .ofList ["a==None", "b==None # noqa: R014", "", "c==True # noqa: R014"]

theorem examine_screened_comparing :
    Family.comparisons ≠ .performance ∧ Family.comparisons ≠ .duplication ∧
      ∃ verdict heard,
        examine {} ⟨"a.py", .ofList []⟩ false comparing .comparisons = .ok verdict ∧
        verdict.findings.map (fun f => (f.line, f.rule, f.snippet)) =
          [(1, "R014", none), (2, "R014", none), (4, "R015", none)] ∧
        examine {} ⟨"a.py", comparingLines⟩ false comparing .comparisons = .ok heard ∧
        heard.findings.map (fun f => (f.line, f.rule, f.snippet)) =
          [(1, "R014", some "a==None"), (4, "R015", some "c==True # noqa: R014")] := by
  have shown : (examine {} ⟨"a.py", .ofList []⟩ false comparing .comparisons).toOption.map
      (fun v => v.findings.map fun f => (f.line, f.rule, f.snippet)) =
        some [(1, "R014", none), (2, "R014", none), (4, "R015", none)] := by decide +kernel
  have screened : (examine {} ⟨"a.py", .ofList []⟩ false comparing .comparisons).toOption.map
      (fun v => (comparingLines.screened v.findings).map fun f => (f.line, f.rule, f.snippet)) =
        some [(1, "R014", some "a==None"), (4, "R015", some "c==True # noqa: R014")] := by
    decide +kernel
  cases plain : examine {} ⟨"a.py", .ofList []⟩ false comparing .comparisons with
  | error failure =>
    rw [plain] at shown
    cases shown
  | ok verdict =>
    rw [plain] at shown screened
    exact ⟨by decide, by decide, verdict, _, rfl, Option.some.inj shown,
      examine_screened {} "a.py" comparingLines false comparing .comparisons (by decide)
        (by decide) verdict plain, Option.some.inj screened⟩

end Rules

end RefactorAdvice
