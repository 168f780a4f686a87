import Mathlib.Data.List.Induction
import RefactorAdvice.Proofs.Inspector.Searches
import RefactorAdvice.Proofs.Inspector.Walks

/-!
An examiner that is used again. Of all that an examination leaves behind, one answer is neither
cleared nor made anew: whether the examiner counts as being in a function. It is wrong after an
examination that stopped inside one, and then there is a module of which the examiner says more
than a new one. In all other cases the two cannot be told apart.
-/

namespace RefactorAdvice.Rules.Inspector

open Code

section Attempts
variable (settings : Settings) (sheet : Sheet) (family : Family)

theorem moves_keep (outside : Bool) (module : Module) :
    ∀ move ∈ moves settings sheet family module,
      ∀ p, Kept family outside p → Kept family outside (reached (move p)) := by
  intro move member p kept
  cases family with
  | duplication => exact search_keeps _ settings.duplication sheet module move member p kept
  | performance | contextManager =>
    rcases List.mem_cons.mp member with rfl | walking
    · exact ⟨kept.aside, kept.elsewhere, kept.unwarned⟩
    · exact walk_keeps settings sheet module move walking p kept
  | _ => exact walk_keeps settings sheet module move member p kept

theorem attempt_keeps (notes : Notes) (unwarned : Unwarned family notes) (a : Attempt) :
    Kept family notes.inFunction (reached (attempt settings sheet family notes a)) := by
  have each := moves_keep settings sheet family notes.inFunction a.module
  refine go_keeps _ _ ?_ _ (kept_begin family notes unwarned)
  intro move member
  unfold Attempt.moves at member
  split at member
  · exact each move member
  · exact each move (List.mem_of_mem_take member)

theorem notes_after_snoc (history : List Attempt) (a : Attempt) :
    notesAfter settings sheet family (history ++ [a]) =
      (reached (attempt settings sheet family (notesAfter settings sheet family history)
        a)).notes := by
  rw [notesAfter, List.foldl_append]
  rfl

theorem notes_after_unwarned (history : List Attempt) :
    Unwarned family (notesAfter settings sheet family history) := by
  induction history using List.reverseRecOn with
  | nil => exact fun _ => rfl
  | append_singleton history a ih =>
    rw [notes_after_snoc]
    exact (attempt_keeps settings sheet family _ ih a).unwarned

/-- An attempt that is over while it is in a function it has gone into. -/
def StopsInside (notes : Notes) (a : Attempt) : Prop :=
  (reached (attempt settings sheet family notes a)).outer ≠ []

theorem stop_answer (notes : Notes) (unwarned : Unwarned family notes) (a : Attempt) :
    (reached (attempt settings sheet family notes a)).notes.inFunction = true ↔
      notes.inFunction = true ∨ StopsInside settings sheet family notes a := by
  have answer := put_aside_answer (attempt_keeps settings sheet family notes unwarned a).aside
  rw [answer, Bool.or_eq_true, Bool.not_eq_true', List.isEmpty_eq_false_iff, StopsInside]

-- The last attempt of a history is the one split off, or is among the later ones.
theorem notes_after_inside (history : List Attempt) :
    (notesAfter settings sheet family history).inFunction = true ↔
      ∃ earlier a later, history = earlier ++ a :: later ∧
        StopsInside settings sheet family (notesAfter settings sheet family earlier) a := by
  induction history using List.reverseRecOn with
  | nil =>
    constructor
    · intro inside
      cases inside
    · rintro ⟨earlier, a, later, split, -⟩
      simp at split
  | append_singleton history last ih =>
    rw [notes_after_snoc, stop_answer settings sheet family _
      (notes_after_unwarned settings sheet family history) last, ih]
    constructor
    · rintro (⟨earlier, a, later, rfl, stops⟩ | stops)
      · exact ⟨earlier, a, later ++ [last], by simp, stops⟩
      · exact ⟨history, last, [], rfl, stops⟩
    · rintro ⟨earlier, a, later, split, stops⟩
      rcases List.eq_nil_or_concat later with rfl | ⟨between, final, rfl⟩
      · obtain ⟨rfl, same⟩ := List.append_inj' split rfl
        cases same
        exact .inr stops
      · rw [List.concat_eq_append, ← List.cons_append, ← List.append_assoc] at split
        obtain ⟨rfl, -⟩ := List.append_inj' split rfl
        exact .inl ⟨earlier, a, between, rfl, stops⟩

theorem stops_inside_family (notes : Notes) (unwarned : Unwarned family notes) (a : Attempt)
    (stops : StopsInside settings sheet family notes a) : family = .booleanLogic := by
  by_contra other
  exact stops ((attempt_keeps settings sheet family notes unwarned a).elsewhere other)

theorem stops_inside_fails (notes : Notes) (module : Module)
    (stops : StopsInside settings sheet .booleanLogic notes { module }) :
    ∃ stopped, attempt settings sheet .booleanLogic notes { module } = .error stopped := by
  cases ended : attempt settings sheet .booleanLogic notes { module } with
  | error stopped => exact ⟨stopped, rfl⟩
  | ok p =>
    rw [StopsInside, ended] at stops
    exact absurd (finished_outside settings sheet notes module p ended) stops

theorem inspect_examines (notes : Notes) (unwarned : Unwarned family notes) (module : Module) :
    inspect settings sheet family notes module =
      examine settings sheet notes.inFunction module family := by
  by_cases onTree : family = .duplication
  · subst onTree
    exact inspect_search settings sheet notes notes.inFunction module
  · exact inspect_walk settings sheet onTree unwarned module

theorem attempt_stays (notes : Notes) (unwarned : Unwarned family notes) (module : Module) :
    (reached (attempt settings sheet family notes { module })).notes.inFunction =
      staysInside settings sheet notes.inFunction module family := by
  by_cases looking : family = .booleanLogic
  · subst looking
    exact attempt_stops settings sheet notes module
  · have kept := attempt_keeps settings sheet family notes unwarned { module }
    have answer := put_aside_answer kept.aside
    rw [kept.elsewhere looking] at answer
    rw [answer]
    cases family with
    | booleanLogic => exact absurd rfl looking
    | _ => exact Bool.or_false _

end Attempts

section Difference
variable (settings : Settings) (sheet : Sheet)

def nested (line : Nat) : Module :=
  let test (body : Stmt) : Stmt :=
    .ifElse (.known line 0 (line + 3)) (.name default "ready" .load) [body] []
  ⟨[test (test (test (.raise default none none)))]⟩

theorem nested_outside (line : Nat) :
    examine settings sheet false (nested line) .booleanLogic = .ok ⟨[], []⟩ := rfl

theorem behind_silences (l : Listing) (rule : Option String) :
    l.silences (l.size + 2) rule = false := by
  have unmarked : Suppression.lineSuppresses "" rule = false := rfl
  have last : l.line (l.size + 2) = "" := by
    simp [Listing.line, Listing.size]
  have before : l.line (l.size + 1) = "" := by
    simp [Listing.line, Listing.size]
  simp [Listing.silences, last, before, unmarked]

-- A line behind the last is silenced by no comment.
theorem nested_inside :
    ∃ f, examine settings sheet true (nested (sheet.listing.size + 2)) .booleanLogic =
      .ok ⟨[f], []⟩ := by
  let line := sheet.listing.size + 2
  let n := Rule.lateExit.notice (.known line 0 (line + 3))
    s!"Deeply nested if statements ({3} levels) with early exit"
    "Use guard clauses with early returns to reduce nesting"
  have noticed : notices settings sheet.listing true (nested line) .booleanLogic = [.ok n] := rfl
  have placed : n.span.placed = some line := by
    simp only [n, Rule.notice, Span.known, Span.placed]
    exact if_pos (by omega)
  let draft := sheet.listing.draftOf sheet.file n line
  have first : 1 ≤ draft.line := by
    simp only [draft, Listing.draftOf, line]
    omega
  have unending : ∀ last, draft.endLine = some last → draft.line ≤ last := by
    intro last ending
    cases ending
  obtain ⟨f, built⟩ := of_draft_defined draft first (Int.le_refl 0) unending
  have published : sheet.listing.publish sheet.file n = .ok (some f) :=
    (Listing.publish_some_iff _ _ _ _).mpr
      ⟨line, placed, behind_silences _ _, ((of_draft_iff _ _).mp built).symm⟩
  have onTree : Family.booleanLogic ≠ .duplication := by decide
  refine ⟨f, ?_⟩
  rw [examine_eq settings sheet true _ _ onTree, noticed]
  simp only [Listing.publishAll, bind, Except.bind, published]
  rfl

end Difference

section Reuse

/--
Whatever an examiner has examined before, and wherever that was broken off, it says of a module
what the examination says that takes its one answer as the answer outside functions, and it keeps
what that examination keeps. A family that does not look for functions says of every module what
a new examiner says. The one that does says so if and only if none of its attempts stopped in a
function it had gone into, and an attempt that is not broken off stops there only by failing.
-/
theorem reused_as_new_iff (settings : Settings) (sheet : Sheet) (family : Family)
    (history : List Attempt) :
    (∀ module,
      inspect settings sheet family (notesAfter settings sheet family history) module =
          examine settings sheet (notesAfter settings sheet family history).inFunction module
            family ∧
        (notesAfter settings sheet family (history ++ [{ module := module }])).inFunction =
          staysInside settings sheet (notesAfter settings sheet family history).inFunction module
            family) ∧
      (family ≠ .booleanLogic → ∀ module,
        inspect settings sheet family (notesAfter settings sheet family history) module =
          inspect settings sheet family {} module) ∧
      ((∀ module,
        inspect settings sheet family (notesAfter settings sheet family history) module =
          inspect settings sheet family {} module) ↔
        ∀ earlier a later, history = earlier ++ a :: later →
          ¬ StopsInside settings sheet family (notesAfter settings sheet family earlier) a) ∧
      ∀ a, StopsInside settings sheet family (notesAfter settings sheet family history) a →
        a.stop = none → ∃ stopped,
          attempt settings sheet family (notesAfter settings sheet family history) a =
            .error stopped := by
  have unwarned := notes_after_unwarned settings sheet family
  have examines := inspect_examines settings sheet family _ (unwarned history)
  have new := inspect_examines settings sheet family {} fun _ => rfl
  have inside := notes_after_inside settings sheet family history
  have alike_iff : (∀ module,
      inspect settings sheet family (notesAfter settings sheet family history) module =
        inspect settings sheet family {} module) ↔
      ∀ earlier a later, history = earlier ++ a :: later →
        ¬ StopsInside settings sheet family (notesAfter settings sheet family earlier) a := by
    constructor
    · intro same earlier a later split stops
      have looking := stops_inside_family settings sheet family _ (unwarned earlier) a stops
      subst looking
      obtain ⟨f, more⟩ := nested_inside settings sheet
      have alike := same (nested (sheet.listing.size + 2))
      rw [examines, new, inside.mpr ⟨earlier, a, later, split, stops⟩, more, nested_outside]
        at alike
      cases alike
    · intro undisturbed module
      have answer : (notesAfter settings sheet family history).inFunction = false := by
        refine Bool.eq_false_iff.mpr fun left => ?_
        obtain ⟨earlier, a, later, split, stops⟩ := inside.mp left
        exact undisturbed earlier a later split stops
      rw [examines, new, answer]
  refine ⟨fun module => ⟨examines module, ?_⟩, ?_, alike_iff, ?_⟩
  · rw [notes_after_snoc]
    exact attempt_stays settings sheet family _ (unwarned history) module
  · intro other
    refine alike_iff.mpr fun earlier a later _ stops => other ?_
    exact stops_inside_family settings sheet family _ (unwarned earlier) a stops
  · rintro ⟨module, stop⟩ stops rfl
    have looking := stops_inside_family settings sheet family _ (unwarned history) _ stops
    subst looking
    exact stops_inside_fails settings sheet _ module stops

def misplaced : Module :=
  ⟨[.function (.known 1 0 2) false "f" ⟨[], [], none, [], [], none, []⟩
    [.ret (.known 2 4 2) (some (.unary ⟨some 2, some (-1), some 2⟩ .not
      (.boolOp (.known 2 16 2) .and
        [.name (.known 2 16 2) "a" .load, .name (.known 2 22 2) "b" .load])))] [] none]⟩

def twoLines : Sheet := ⟨"a.py", .ofList ["def f():", "    return not (a and b)"]⟩

-- The examination of the first module fails in its function, and the next one starts there.
theorem reused_within_function :
    (inspect {} twoLines .booleanLogic
        (notesAfter {} twoLines .booleanLogic [{ module := misplaced }])
        (nested 1)).toOption.map (·.findings.map fun f => (f.rule, f.line)) =
      some [("B005", 1)] ∧
    (inspect {} twoLines .booleanLogic {} (nested 1)).toOption.map (·.findings) = some [] := by
  decide +kernel

end Reuse

end RefactorAdvice.Rules.Inspector
