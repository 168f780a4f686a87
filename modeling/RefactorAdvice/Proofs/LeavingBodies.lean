import RefactorAdvice.Proofs.SilencingFilter
import RefactorAdvice.Proofs.StatementReports
import RefactorAdvice.Proofs.UnreachedEnds

/-!
How a body is left. One pair of functions tells whether a body is left on every way, taking all
branches of its last statement; another tells by what, taking the first. They agree: a body that is
left has an ending, and it is that of a statement at the tail of the body. So no `else` behind such
a body goes without a report, and what a `try` does when its body has no ending is never done.
-/

namespace RefactorAdvice.Rules.ControlFlow

open Code

section Tails

/-- A statement at the tail of a body: its last one, or one at the tail of a branch of a test, of
the body of a `try` or of a case of a match that is the last one. -/
inductive AtTail : List Stmt → Stmt → Prop
  | last {body : List Stmt} {s : Stmt} : body.getLast? = some s → AtTail body s
  | holds {body inner orelse : List Stmt} {span : Span} {test : Expr} {s : Stmt} :
      body.getLast? = some (.ifElse span test inner orelse) → AtTail inner s → AtTail body s
  | fails {body inner orelse : List Stmt} {span : Span} {test : Expr} {s : Stmt} :
      body.getLast? = some (.ifElse span test inner orelse) → AtTail orelse s → AtTail body s
  | tried {body inner orelse : List Stmt} {span : Span} {handlers : List (Handler Stmt)}
      {s : Stmt} :
      body.getLast? = some (.tryBlock span false inner handlers orelse []) → AtTail inner s →
      AtTail body s
  | took {body : List Stmt} {span : Span} {subject : Expr} {cases : List (MatchCase Stmt)}
      {c : MatchCase Stmt} {s : Stmt} :
      body.getLast? = some (.matchOn span subject cases) → c ∈ cases → AtTail c.body s →
      AtTail body s

def ownEnding? : Stmt → Option Ending
  | .ret .. => some .ret
  | .raise .. => some .raise
  | .brk _ => some .brk
  | .cont _ => some .cont
  | _ => none

theorem last_ending_eq (body : List Stmt) : lastEnding? body = body.getLast?.bind ending? := by
  induction body with
  | nil => rfl
  | cons s rest ih =>
    cases rest with
    | nil => rfl
    | cons second rest =>
      rw [lastEnding?, ih, List.getLast?_cons_cons]
      simp

theorem last_behind {body : List Stmt} {s : Stmt} (front : Stmt) (ends : body.getLast? = some s) :
    (front :: body).getLast? = some s := by
  rw [List.getLast?_cons, ends, Option.getD_some]

theorem tail_behind {body : List Stmt} {s : Stmt} (front : Stmt) (tail : AtTail body s) :
    AtTail (front :: body) s := by
  cases tail with
  | last ends => exact .last (last_behind front ends)
  | holds ends inner => exact .holds (last_behind front ends) inner
  | fails ends inner => exact .fails (last_behind front ends) inner
  | tried ends inner => exact .tried (last_behind front ends) inner
  | took ends listed inner => exact .took (last_behind front ends) listed inner

def EndsBy (body : List Stmt) (ending : Ending) : Prop :=
  lastEnding? body = some ending ∧ ∃ s, AtTail body s ∧ ownEnding? s = some ending

end Tails

section Agreement

-- The check looks at every branch of the last statement, the ending comes from the first: by
-- recursion on the statement, where the first branch is one that was looked at.
mutual
theorem leaves_ends : ∀ (s : Stmt) (body : List Stmt), body.getLast? = some s → leaves s = true →
    ∃ ending, EndsBy body ending
  | .ret span value, body, ends, _ =>
    ⟨.ret, by rw [last_ending_eq, ends]; rfl, _, .last ends, rfl⟩
  | .raise span exc cause, body, ends, _ =>
    ⟨.raise, by rw [last_ending_eq, ends]; rfl, _, .last ends, rfl⟩
  | .brk span, body, ends, _ => ⟨.brk, by rw [last_ending_eq, ends]; rfl, _, .last ends, rfl⟩
  | .cont span, body, ends, _ => ⟨.cont, by rw [last_ending_eq, ends]; rfl, _, .last ends, rfl⟩
  | .ifElse span test inner orelse, body, ends, leave => by
    rw [leaves, Bool.and_eq_true] at leave
    obtain ⟨ending, told, s, tail, own⟩ := last_leaves_ends inner leave.1
    refine ⟨ending, ?_, s, .holds ends tail, own⟩
    rw [last_ending_eq, ends, Option.bind_some, ending?, if_pos leave.1, told]
  | .tryBlock span isStar inner handlers orelse finalbody, body, ends, leave => by
    cases isStar with
    | true => simp [leaves] at leave
    | false =>
      cases finalbody with
      | cons first rest => simp [leaves] at leave
      | nil =>
        have all := leave
        rw [leaves, Bool.and_eq_true, Bool.and_eq_true] at all
        obtain ⟨ending, told, s, tail, own⟩ := last_leaves_ends inner all.1.1
        refine ⟨ending, ?_, s, .tried ends tail, own⟩
        rw [last_ending_eq, ends, Option.bind_some, ending?, if_pos leave, told]
  | .matchOn span subject cases_, body, ends, leave => by
    rw [leaves, Bool.and_eq_true] at leave
    obtain ⟨c, ending, first, told, s, tail, own⟩ := cases_ends cases_ leave.1 leave.2
    refine ⟨ending, ?_, s, .took ends first tail, own⟩
    rw [last_ending_eq, ends, Option.bind_some, ending?, told]
  | .function .., _, _, leave | .cls .., _, _, leave | .delete .., _, _, leave
  | .assign .., _, _, leave | .augAssign .., _, _, leave | .annAssign .., _, _, leave
  | .forLoop .., _, _, leave | .whileLoop .., _, _, leave | .withBlock .., _, _, leave
  | .assert .., _, _, leave | .imports .., _, _, leave | .importFrom .., _, _, leave
  | .global .., _, _, leave | .nonlocal .., _, _, leave | .expr .., _, _, leave
  | .pass .., _, _, leave => by simp [leaves] at leave

theorem last_leaves_ends : ∀ body : List Stmt, lastLeaves body = true → ∃ ending, EndsBy body ending
  | [], leave => by simp [lastLeaves] at leave
  | [s], leave => leaves_ends s [s] rfl leave
  | front :: second :: rest, leave => by
    obtain ⟨ending, told, s, tail, own⟩ := last_leaves_ends (second :: rest) leave
    exact ⟨ending, told, s, tail_behind front tail, own⟩

theorem cases_ends : ∀ cases_ : List (MatchCase Stmt), (!cases_.isEmpty) = true →
    casesLeave cases_ = true → ∃ c ending, c ∈ cases_ ∧ caseEnding? cases_ = some ending ∧
      ∃ s, AtTail c.body s ∧ ownEnding? s = some ending
  | [], some_, _ => by cases some_
  | ⟨pattern, guard, body⟩ :: rest, _, leave => by
    rw [casesLeave, Bool.and_eq_true] at leave
    obtain ⟨ending, told, tail⟩ := last_leaves_ends body leave.1
    exact ⟨⟨pattern, guard, body⟩, ending, List.mem_cons_self, told, tail⟩
end

/-- A `try` that leaves does so as its body: its handlers are not asked. -/
theorem try_ending_eq (span : Span) (body : List Stmt) (handlers : List (Handler Stmt))
    (orelse finalbody : List Stmt) :
    ending? (.tryBlock span false body handlers orelse finalbody) =
      if leaves (.tryBlock span false body handlers orelse finalbody) then lastEnding? body
      else none := by
  rw [ending?]
  by_cases leave : leaves (.tryBlock span false body handlers orelse finalbody) = true
  · rw [if_pos leave, if_pos leave]
    cases finalbody with
    | cons first rest => simp [leaves] at leave
    | nil =>
      rw [leaves, Bool.and_eq_true, Bool.and_eq_true] at leave
      obtain ⟨ending, told, _⟩ := last_leaves_ends body leave.1.1
      rw [told]
  · rw [if_neg leave, if_neg leave]

end Agreement

section Reports

def elseCodes : List String := ["R002", "R003", "R004", "R005"]

theorem rule_listed (ending : Ending) : ending.rule.code ∈ elseCodes := by
  cases ending <;> decide

def elseReports (findings : List Finding) (spot : Nat × Nat) : List Finding :=
  (findings.filter (·.spot = spot)).filter fun f => elseCodes.contains f.rule

theorem check_some (span : Span) (test : Expr) {body orelse : List Stmt} {ending : Ending}
    (more : orelse ≠ []) (leave : lastLeaves body = true) (told : lastEnding? body = some ending) :
    ∃ n, check (.stmt (.ifElse span test body orelse)) = some n ∧ n.rule = ending.rule.code := by
  have both : (!orelse.isEmpty && lastLeaves body) = true := by simpa [leave] using more
  rw [check, if_pos both, told]
  exact ⟨_, rfl, rfl⟩

theorem check_none {span : Span} {test : Expr} {body orelse : List Stmt}
    (stay : ¬ lastLeaves body = true) : check (.stmt (.ifElse span test body orelse)) = none := by
  rw [check, if_neg (by simp [stay])]

theorem of_tests (m : Module) : OfStatements m id check m.tree.preorder where
  walked := List.map_id _
  own := by
    intro node n checked
    unfold check at checked
    split at checked
    · split at checked
      · obtain ⟨ending, _, rfl⟩ := Option.map_eq_some_iff.mp checked
        exact ⟨_, rfl, rfl, rfl⟩
      · cases checked
    · cases checked

/--
Whether a body is left and how it is left are told alike. A body that is left on every way has an
ending, that of a statement at its tail, and a `try` never has to ask its handlers. So of a test
with an `else` that nothing silences there is one report if its body is left and none if it is not,
and the report is of the rule for the ending.
-/
theorem leaving_told_once :
    (∀ body, lastLeaves body = true → ∃ ending, lastEnding? body = some ending ∧
      ∃ s, AtTail body s ∧ ownEnding? s = some ending) ∧
    (∀ span body handlers orelse finalbody,
      ending? (.tryBlock span false body handlers orelse finalbody) =
        if leaves (.tryBlock span false body handlers orelse finalbody) then lastEnding? body
        else none) ∧
    ∀ names cs m, parse names cs = some m → ∀ settings sheet outside, ∃ verdict,
      examine settings sheet outside m .controlFlow = .ok verdict ∧
      ∀ span test body orelse, .stmt (.ifElse span test body orelse) ∈ m.tree.preorder →
        orelse ≠ [] → (∀ code ∈ elseCodes, sheet.listing.silencesAt span (some code) = false) →
        (elseReports verdict.findings span.spot).length = (if lastLeaves body then 1 else 0) ∧
        ∀ f ∈ elseReports verdict.findings span.spot, ∃ ending, lastEnding? body = some ending ∧
          f.rule = ending.rule.code := by
  refine ⟨last_leaves_ends, try_ending_eq, fun _ cs m read settings sheet outside => ?_⟩
  obtain ⟨findings, published, each⟩ :=
    statement_reports read (of_tests m) sheet.listing sheet.file
  refine ⟨⟨findings, []⟩, ?_, fun span test body orelse member more heard => ?_⟩
  · rw [examine_eq _ _ _ _ .controlFlow (by decide)]
    exact (bind_ok_iff _ _ _).mpr ⟨findings, published, rfl⟩
  · have here := each _ member (.ifElse span test body orelse) rfl
    unfold elseReports
    by_cases leave : lastLeaves body = true
    · obtain ⟨ending, told, _⟩ := last_leaves_ends body leave
      obtain ⟨n, checked, rule⟩ := check_some span test more leave told
      obtain ⟨f, _, alone, _, same⟩ :=
        here.heard n checked (rule ▸ heard _ (rule_listed ending))
      have named : f.rule = ending.rule.code := (congrArg Finding.Draft.rule same).trans rule
      have kept : [f].filter (fun f => elseCodes.contains f.rule) = [f] := by
        simpa [named] using rule_listed ending
      rw [show findings.filter (·.spot = span.spot) = [f] from alone, kept, if_pos leave]
      refine ⟨rfl, fun other inside => ⟨ending, told, ?_⟩⟩
      rw [List.mem_singleton.mp inside, named]
    · have nothing : findings.filter (·.spot = span.spot) = [] := here.unnoticed (check_none leave)
      rw [nothing, if_neg leave]
      simp

def leftTwice : String :=
  "for a in b:\n    if a:\n        try:\n            break\n        except c:\n" ++
    "            continue\n    else:\n        d()\n"

def isLeft (ending : Ending) (spot : Nat × Nat) : Node → Bool
  | .stmt (.ifElse span _ body orelse) =>
    decide (span.spot = spot ∧ lastEnding? body = some ending) && lastLeaves body &&
      !orelse.isEmpty
  | _ => false

theorem leaving_told_once_left_twice :
    ∃ m verdict, parse noNames leftTwice.toList = some m ∧
      examine {} ⟨"a.py", .ofList []⟩ false m .controlFlow = .ok verdict ∧
      (elseReports verdict.findings (2, 4)).map (·.rule) = ["R004"] := by
  have spelled : (parse noNames leftTwice.toList).any
      (fun m => m.tree.preorder.any (isLeft .brk (2, 4))) = true := by decide +kernel
  obtain ⟨m, parsed, among⟩ := (Option.any_eq_true _ _).mp spelled
  obtain ⟨node, member, left⟩ := List.any_eq_true.mp among
  obtain ⟨verdict, returned, once⟩ :=
    leaving_told_once.2.2 _ _ m parsed {} ⟨"a.py", .ofList []⟩ false
  refine ⟨m, verdict, parsed, returned, ?_⟩
  unfold isLeft at left
  split at left
  · rename_i span test body orelse
    simp only [Bool.and_eq_true, decide_eq_true_eq, Bool.not_eq_true', List.isEmpty_eq_false_iff]
      at left
    obtain ⟨⟨⟨spot, told⟩, leave⟩, more⟩ := left
    obtain ⟨one, rules⟩ := once span test body orelse member more
      fun code _ => Listing.no_lines_silence_at span (some code)
    rw [if_pos leave, spot] at one
    obtain ⟨f, alone⟩ := List.length_eq_one_iff.mp one
    obtain ⟨ending, ends, rule⟩ := rules f (by rw [spot, alone]; exact List.mem_singleton_self f)
    cases told.symm.trans ends
    rw [alone, List.map_singleton, rule]
    rfl
  · cases left

end Reports

end RefactorAdvice.Rules.ControlFlow
