import RefactorAdvice.Proofs.CrowdedOperations
import RefactorAdvice.Proofs.LoopReach

/-!
Tests one in the other around an early exit. Where each test is all there is in the body of the one
before and only an exit is in the body of the last, the levels of a test are the tests from it on to
the last. In a function the advice to use guard clauses is given on each test but the last two, with
its own number of levels, and on nothing else.
-/

namespace RefactorAdvice

namespace Code

section Branches

theorem branch_root_placed {around : List Node} {part : Tree} {ts : List Tree}
    (listed : part ∈ ts) : (around, part.root) ∈ branchPlaces around ts := by
  induction ts with
  | nil => cases listed
  | cons t rest ih =>
    rw [branchPlaces, List.mem_append]
    rcases List.mem_cons.mp listed with rfl | later
    · obtain ⟨root, branches⟩ := part
      exact Or.inl List.mem_cons_self
    · exact Or.inr (ih later)

mutual
theorem places_branch {above : List Node} : ∀ {t : Tree}, t.Sound → ∀ {around : List Node}
    {node : Node}, (around, node) ∈ t.places above → ∀ part ∈ node.tree.branches,
      (node :: around, part.root) ∈ t.places above
  | .node root branches, .node _ _ whole parts, around, node, member, part, listed => by
    rw [Tree.places, List.mem_cons] at member ⊢
    rcases member with same | inside
    · cases same
      rw [whole] at listed
      exact Or.inr (branch_root_placed listed)
    · exact Or.inr (branch_places_branch parts inside part listed)

theorem branch_places_branch {above : List Node} : ∀ {ts : List Tree}, (∀ t ∈ ts, t.Sound) →
    ∀ {around : List Node} {node : Node}, (around, node) ∈ branchPlaces above ts →
      ∀ part ∈ node.tree.branches, (node :: around, part.root) ∈ branchPlaces above ts
  | [], _, _, _, member, _, _ => by cases member
  | t :: rest, sound, around, node, member, part, listed => by
    rw [branchPlaces, List.mem_append] at member ⊢
    rcases member with first | later
    · exact Or.inl (places_branch (sound t List.mem_cons_self) first part listed)
    · exact Or.inr (branch_places_branch (fun t inside => sound t (List.mem_cons_of_mem _ inside))
        later part listed)
end

end Branches

end Code

namespace Rules.BooleanLogic

open Code

section Levels

def exits : List Stmt → Bool
  | [.ret ..] | [.raise ..] => true
  | _ => false

/-- Tests one in the other, the outermost one and the rest: each is all there is in the body of the
one before. The body of the last one is `innermost`, which is no test alone. -/
inductive Nested (innermost : List Stmt) : Stmt → List Stmt → Prop
  | last (span : Span) (test : Expr) (orelse : List Stmt)
      (whole : ∀ inner, innermost = [inner] → inner.isIf = false) :
      Nested innermost (.ifElse span test innermost orelse) []
  | wrap (span : Span) (test : Expr) (orelse : List Stmt) {inner : Stmt} {rest : List Stmt}
      (inside : Nested innermost inner rest) :
      Nested innermost (.ifElse span test [inner] orelse) (inner :: rest)

variable {innermost : List Stmt} {first s : Stmt} {rest : List Stmt}

theorem exit_levels_nested (nested : Nested innermost first rest) :
    exitLevels? first = if exits innermost then some (rest.length + 1) else none := by
  induction nested with
  | last span test orelse whole =>
    obtain _ | ⟨inner, _ | _⟩ := innermost
    · simp [exitLevels?, exits]
    · have other := whole inner rfl
      cases inner <;> simp_all [exitLevels?, exits, Stmt.isIf]
    · simp [exitLevels?, exits]
  | wrap span test orelse inside ih =>
    have onward : ∀ inner, inner.isIf = true →
        exitLevels? (.ifElse span test [inner] orelse) = (exitLevels? inner).map (· + 1) := by
      intro inner is
      cases inner <;> simp_all [exitLevels?, Stmt.isIf]
    rw [onward _ (by cases inside <;> rfl), ih]
    split <;> simp

/-- Every test is the outermost of some. -/
theorem nested_exists (s : Stmt) (is : s.isIf = true) :
    ∃ innermost rest, Nested innermost s rest := by
  induction s using exitLevels?.induct with
  | case1 span test _ _ orelse => exact ⟨_, _, .last span test orelse (by simp [Stmt.isIf])⟩
  | case2 span test _ _ _ orelse => exact ⟨_, _, .last span test orelse (by simp [Stmt.isIf])⟩
  | case3 span test inner orelse _ _ ih =>
    by_cases another : inner.isIf = true
    · obtain ⟨innermost, rest, inside⟩ := ih another
      exact ⟨innermost, _, .wrap span test orelse inside⟩
    · refine ⟨[inner], _, .last span test orelse ?_⟩
      rintro _ ⟨⟩
      exact Bool.eq_false_iff.mpr another
  | case4 s _ _ other =>
    cases s with
    | ifElse span test body orelse =>
      refine ⟨body, _, .last span test orelse ?_⟩
      rintro inner rfl
      exact (other span test inner orelse rfl).elim
    | _ => cases is

theorem is_if_of_levels {levels : Nat} (found : exitLevels? s = some levels) : s.isIf = true := by
  cases s with
  | ifElse => rfl
  | _ => simp [exitLevels?] at found

/-- Where there are levels to tell, these are the tests from the outermost on. -/
theorem nested_of_levels {levels : Nat} (found : exitLevels? s = some levels) :
    ∃ innermost rest, Nested innermost s rest ∧ exits innermost = true ∧
      levels = rest.length + 1 := by
  obtain ⟨innermost, rest, nested⟩ := nested_exists s (is_if_of_levels found)
  rw [exit_levels_nested nested] at found
  split at found
  · rename_i ends
    exact ⟨innermost, rest, nested, ends, (Option.some.inj found).symm⟩
  · cases found

variable {m : Module} {around : List Node}

/-- From a test on the others are nested too, and what is around it beyond the outermost are tests
only. -/
theorem nested_onward (nested : Nested innermost first rest)
    (member : (around, .stmt first) ∈ m.tree.places []) {k : Nat}
    (inside : (first :: rest)[k]? = some s) :
    Nested innermost s (rest.drop k) ∧ ∃ nearer, (nearer, .stmt s) ∈ m.tree.places [] ∧
      nearer.any Node.isFunction = around.any Node.isFunction := by
  induction nested generalizing around k with
  | last span test orelse whole =>
    cases k with
    | zero =>
      cases inside
      exact ⟨.last span test orelse whole, around, member, rfl⟩
    | succ k => cases inside
  | wrap span test orelse below ih =>
    rename_i inner _
    cases k with
    | zero =>
      cases inside
      exact ⟨.wrap span test orelse below, around, member, rfl⟩
    | succ k =>
      have part : inner.tree ∈ (Stmt.ifElse span test [inner] orelse).tree.branches := by
        simp [Stmt.tree, Tree.branches, stmtTrees]
      have within := places_branch (module_sound m) member inner.tree part
      have root : inner.tree.root = .stmt inner := by cases inner <;> rfl
      rw [root] at within
      exact ih within inside

end Levels

section Advice

variable {limits : Settings.BooleanLogic} {around : List Node} {node : Node} {n : Notice}

theorem late_spoken_iff :
    spoken limits false .lateExit (around, node) = some n ↔
      ∃ s levels, node = .stmt s ∧ around.any Node.isFunction = true ∧
        exitLevels? s = some levels ∧ leastLevels ≤ levels ∧ n = lateNotice s levels := by
  rw [spoken_iff]
  constructor
  · rintro ⟨checked, own⟩
    cases said_of_code (by decide) checked own with
    | late within found enough => exact ⟨_, _, rfl, within, found, enough, rfl⟩
  · rintro ⟨s, levels, rfl, within, found, enough, rfl⟩
    refine ⟨?_, rfl⟩
    cases s with
    | ifElse => simp [check, insideFunction, within, lateExit, lateNotice, found, enough]
    | _ => simp [exitLevels?] at found

/-- On a test around others and an exit in a function there is a notice if they are enough. -/
theorem late_spoken_nested {innermost rest : List Stmt} {s : Stmt}
    (nested : Nested innermost s rest) :
    spoken limits false .lateExit (around, .stmt s) = some n ↔ around.any Node.isFunction = true ∧
      exits innermost = true ∧ 2 ≤ rest.length ∧ n = lateNotice s (rest.length + 1) := by
  rw [late_spoken_iff]
  constructor
  · rintro ⟨_, levels, ⟨⟩, within, found, enough, rfl⟩
    rw [exit_levels_nested nested] at found
    split at found
    · rename_i ends
      cases found
      exact ⟨within, ends, Nat.le_of_succ_le_succ enough, rfl⟩
    · cases found
  · rintro ⟨within, ends, enough, rfl⟩
    have found : exitLevels? s = some (rest.length + 1) := by
      rw [exit_levels_nested nested, if_pos ends]
    exact ⟨s, _, rfl, within, found, Nat.succ_le_succ enough, rfl⟩

theorem of_late_exits (limits : Settings.BooleanLogic) (m : Module) :
    OfStatements m Prod.snd (spoken limits false .lateExit) (m.tree.places []) where
  walked := places_preorder [] m.tree
  own := by
    rintro ⟨around, node⟩ n told
    obtain ⟨s, _, is, _, _, _, rfl⟩ := late_spoken_iff.mp told
    exact ⟨s, is, rfl, rfl⟩

/--
In a module that was read take tests one in the other, each all there is in the body of the one
before. If they stand in a function and only an exit is in the body of the last, each test but the
last two has one report, unless the rule is silenced there, and it tells how many tests there are
from this one on. The others have none, and so has every test that stands in no function or around
something else. There are no reports but those, and every test is the outermost of some.
-/
theorem late_exits_reported (names : CharNames) (cs : List Char) (m : Module)
    (read : parse names cs = some m) (settings : Settings) (sheet : Sheet) :
    ∃ verdict, examine settings sheet false m .booleanLogic = .ok verdict ∧
      (∀ around first rest innermost, (around, .stmt first) ∈ m.tree.places [] →
        Nested innermost first rest → ∀ k s, (first :: rest)[k]? = some s →
          let here := verdict.findings.filter (fun f => f.rule = "B005" ∧ f.spot = s.span.spot)
          let advised := exits innermost = true ∧ (∃ outer ∈ around, outer.isFunction = true) ∧
            k + 2 < (first :: rest).length ∧ sheet.listing.silencesAt s.span (some "B005") = false
          (advised → ∃ f, here = [f] ∧ f.message =
            s!"Deeply nested if statements ({(first :: rest).length - k} levels) with early exit") ∧
          (¬ advised → here = [])) ∧
      (∀ f ∈ verdict.findings, f.rule = "B005" → ∃ around first rest innermost,
        (around, .stmt first) ∈ m.tree.places [] ∧ Nested innermost first rest ∧
        exits innermost = true ∧ (∃ outer ∈ around, outer.isFunction = true) ∧
        2 < (first :: rest).length ∧ f.spot = first.span.spot) ∧
      ∀ s : Stmt, s.isIf = true → ∃ innermost rest, Nested innermost s rest := by
  obtain ⟨verdict, examined, published⟩ := boolean_logic_examined read settings sheet false
  have chosen := rule_published .lateExit published
  obtain ⟨others, same, each⟩ :=
    statement_reports read (of_late_exits settings.booleanLogic m) sheet.listing sheet.file
  cases chosen.symm.trans same
  refine ⟨verdict, examined, ?_, ?_, nested_exists⟩
  · intro around first rest innermost member nested k s inside
    obtain ⟨onward, nearer, listed, within⟩ := nested_onward nested member inside
    have reports := each _ listed s rfl
    have both : (fun f : Finding => decide (f.rule = "B005" ∧ f.spot = s.span.spot)) =
        fun f => decide (f.spot = s.span.spot) && (f.rule == Rule.lateExit.code) := by
      funext f
      rw [Bool.decide_and, Bool.and_comm]
      rfl
    rw [List.filter_filter, ← both] at reports
    have length : (rest.drop k).length + 1 = (first :: rest).length - k := by
      have bound : k < (first :: rest).length := (List.getElem?_eq_some_iff.mp inside).1
      rw [List.length_cons] at bound
      rw [List.length_drop, List.length_cons]
      omega
    constructor
    · rintro ⟨ends, function, deep, heard⟩
      have told : spoken settings.booleanLogic _ _ _ = _ := (late_spoken_nested onward).mpr
        ⟨within.trans (List.any_eq_true.mpr function), ends, by omega, rfl⟩
      obtain ⟨f, _, alone, _, made⟩ := reports.heard _ told heard
      refine ⟨f, alone, ?_⟩
      rw [← length]
      exact congrArg Finding.Draft.message made
    · intro unadvised
      cases told : spoken settings.booleanLogic false .lateExit (nearer, .stmt s) with
      | none => exact reports.unnoticed told
      | some n =>
        obtain ⟨function, ends, deep, rfl⟩ := (late_spoken_nested onward).mp told
        apply reports.silenced _ told
        by_contra heard
        exact unadvised ⟨ends, List.any_eq_true.mp (within.symm.trans function), by omega,
          Bool.eq_false_iff.mpr heard⟩
  · intro f member own
    have kept : f ∈ verdict.findings.filter (·.rule == "B005") :=
      List.mem_filter.mpr ⟨member, beq_iff_eq.mpr own⟩
    obtain ⟨n, noticed, made⟩ := sheet.listing.publish_all_source sheet.file _ _ chosen f kept
    obtain ⟨⟨around, node⟩, listed, told⟩ := List.mem_filterMap.mp noticed
    obtain ⟨_, late, same⟩ := Option.map_eq_some_iff.mp told
    cases same
    obtain ⟨s, levels, rfl, within, found, enough, rfl⟩ := late_spoken_iff.mp late
    obtain ⟨innermost, rest, nested, ends, rfl⟩ := nested_of_levels found
    exact ⟨around, s, rest, innermost, listed, nested, ends, List.any_eq_true.mp within, enough,
      congrArg Sign.spot (publish_sign made)⟩

section Instances

def levelsAt (spot : Nat × Nat) (levels : Nat) (place : List Node × Node) : Bool :=
  match place.2 with
  | .stmt s =>
    decide (s.span.spot = spot) && exitLevels? s == some levels && place.1.any Node.isFunction
  | _ => false

theorem levels_at {spot : Nat × Nat} {levels : Nat} {place : List Node × Node}
    (holds : levelsAt spot levels place = true) :
    ∃ s, place = (place.1, .stmt s) ∧ s.span.spot = spot ∧ exitLevels? s = some levels ∧
      ∃ outer ∈ place.1, outer.isFunction = true := by
  obtain ⟨around, node⟩ := place
  unfold levelsAt at holds
  split at holds
  · rename_i s is
    simp only [Bool.and_eq_true, decide_eq_true_eq, beq_iff_eq, List.any_eq_true] at holds
    exact ⟨s, congrArg (Prod.mk around) is, holds.1.1, holds.1.2, holds.2⟩
  · cases holds

def fourTests : List Char :=
  "def f():\n if a:\n  if b:\n   if c:\n    if d: raise e\n   else: pass\n elif g: pass\n".toList

theorem late_exits_reported_four :
    ∃ m verdict f, parse noNames fourTests = some m ∧
      examine {} ⟨"a.py", .ofList []⟩ false m .booleanLogic = .ok verdict ∧
      verdict.findings.filter (fun f => f.rule = "B005" ∧ f.spot = (2, 1)) = [f] ∧
      f.message = "Deeply nested if statements (4 levels) with early exit" := by
  have spelled : (parse noNames fourTests).any (fun m =>
      (m.tree.places []).any (levelsAt (2, 1) 4)) = true := by decide +kernel
  obtain ⟨m, parsed, among⟩ := (Option.any_eq_true _ _).mp spelled
  obtain ⟨⟨around, node⟩, member, holds⟩ := List.any_eq_true.mp among
  obtain ⟨s, is, spot, found, function⟩ := levels_at holds
  obtain ⟨innermost, rest, nested, ends, length⟩ := nested_of_levels found
  rw [is] at member
  obtain ⟨verdict, examined, each, _⟩ :=
    late_exits_reported _ _ m parsed {} ⟨"a.py", .ofList []⟩
  obtain ⟨f, alone, told⟩ := (each _ s rest innermost member nested 0 s rfl).1
    ⟨ends, function, by rw [List.length_cons]; omega, Listing.no_lines_silence_at s.span _⟩
  rw [List.length_cons, ← length] at told
  exact ⟨m, verdict, f, parsed, examined, spot ▸ alone, told.trans (by decide +kernel)⟩

end Instances

end Advice

end Rules.BooleanLogic

end RefactorAdvice
