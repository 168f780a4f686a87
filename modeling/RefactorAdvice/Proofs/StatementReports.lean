import RefactorAdvice.Proofs.NoticeSubjects
import RefactorAdvice.Proofs.PlacedStatements

/-!
What is reported at a statement. Where every notice is about the statement it is given at, and the
statements were read from a text, all notices can be published, and the findings at the place of a
statement are those that its own notice gives, since no other statement stands there.
-/

namespace RefactorAdvice

open Code

def Finding.spot (f : Finding) : Nat × Nat := (f.line, f.column)

section Listings

variable {α β : Type}

/-- Where what is listed has a cost and there is but one to pay, only the one that pays counts. -/
theorem filter_map_sole (cost : α → Nat) (view : α → Option β) {x : α} (own : 1 ≤ cost x)
    {xs : List α} (member : x ∈ xs) (few : total cost xs ≤ 1)
    (paid : ∀ y ∈ xs, cost y = 0 → view y = none) : xs.filterMap view = (view x).toList := by
  induction xs with
  | nil => cases member
  | cons y rest ih =>
    rw [total_cons] at few
    have later : ∀ z ∈ rest, cost z = 0 → view z = none :=
      fun z inside => paid z (List.mem_cons_of_mem y inside)
    rcases List.mem_cons.mp member with rfl | inside
    · have unpaid : rest.filterMap view = [] := by
        rw [List.filterMap_eq_nil_iff]
        intro z inside
        have least := cost_le_total cost inside
        exact later z inside (by omega)
      rw [List.filterMap_cons, unpaid]
      cases view x <;> rfl
    · have least := cost_le_total cost inside
      rw [List.filterMap_cons_none (paid y List.mem_cons_self (by omega))]
      exact ih inside (by omega) later

end Listings

theorem known_placed {line column endLine : Nat} (first : 1 ≤ line) :
    (Span.known line column endLine).placed = some line := by
  rw [Span.placed, Span.known]
  simp only [Int.toNat_natCast, if_pos (show (1 : Int) ≤ line by omega)]

namespace Listing

variable (l : Listing) (file : String)

theorem publish_defined {n : Notice} {line column endLine : Nat}
    (placed : n.span = .known line column endLine) (first : 1 ≤ line) (bare : n.endLine = none) :
    ∃ found, l.publish file n = .ok found := by
  have onLine : n.span.placed = some line := placed ▸ known_placed first
  apply l.publish_total file n _ bare
  · intro nowhere
    cases onLine.symm.trans nowhere
  · rw [placed]
    exact Int.natCast_nonneg column

theorem publish_all_defined {ns : Notices}
    (each : ∀ n ∈ ns, ∃ notice found, n = .ok notice ∧ l.publish file notice = .ok found) :
    ∃ findings, l.publishAll file ns = .ok findings := by
  have fine : ∀ n, .ok n ∈ ns → ∃ found, l.publish file n = .ok found := by
    intro n member
    obtain ⟨_, found, same, made⟩ := each _ member
    cases same
    exact ⟨found, made⟩
  rcases l.publish_all_ends file fine with ⟨failure, member, _⟩ | ⟨_, published⟩
  · obtain ⟨_, _, same, _⟩ := each _ member
    cases same
  · exact published

def noticedAt (spot : Nat × Nat) (n : Except Failure Notice) : Bool :=
  match n with
  | .ok notice => decide (notice.span.spot = spot)
  | .error _ => false

theorem publish_all_at {ns : Notices} {findings : List Finding}
    (published : l.publishAll file ns = .ok findings) (spot : Nat × Nat) :
    l.publishAll file (ns.filter (noticedAt spot)) = .ok (findings.filter (·.spot = spot)) := by
  apply l.publish_all_filter file _ _ _ published
  intro n f made
  rw [show f.spot = n.span.spot from congrArg Sign.spot (publish_sign made)]
  rfl

end Listing

section Statements

variable {α : Type} {names : CharNames} {cs : List Char} {m : Module}

structure OfStatements (m : Module) (node : α → Node) (check : α → Option Notice) (xs : List α) :
    Prop where
  walked : xs.map node = m.tree.preorder
  own : ∀ x n, check x = some n → ∃ s, node x = .stmt s ∧ n.span = s.span ∧ n.endLine = none

variable {node : α → Node} {check : α → Option Notice} {xs : List α}

section Published

variable (read : parse names cs = some m) (about : OfStatements m node check xs)

include about

theorem subject_listed {x : α} {s : Stmt} (inside : x ∈ xs) (is : node x = .stmt s) :
    .stmt s ∈ m.tree.preorder := about.walked ▸ is ▸ List.mem_map_of_mem inside

theorem noticed_elsewhere {y : α} {spot : Nat × Nat} (free : (node y).own ⟨.stmt, spot⟩ = 0) :
    ((check y).map Except.ok).filter (Listing.noticedAt spot) = none := by
  rw [Option.filter_eq_none_iff]
  intro n told
  obtain ⟨notice, checked, rfl⟩ := Option.map_eq_some_iff.mp told
  obtain ⟨other, is, span, _⟩ := about.own y notice checked
  simp only [Listing.noticedAt, decide_eq_true_eq, span]
  rintro rfl
  have paid := stmt_own other
  rw [← is, free] at paid
  exact Nat.not_succ_le_zero 0 paid

theorem noticed_here {x : α} {s : Stmt} (is : node x = .stmt s) :
    ((check x).map Except.ok).filter (Listing.noticedAt s.span.spot) = (check x).map Except.ok := by
  cases checked : check x with
  | none => rfl
  | some notice =>
    obtain ⟨other, isOther, span, _⟩ := about.own x notice checked
    cases is.symm.trans isOther
    simp [Listing.noticedAt, span]

include read

theorem statement_notices_published (l : Listing) (file : String) :
    ∃ findings, l.publishAll file (xs.filterMap fun x => (check x).map .ok) = .ok findings := by
  apply l.publish_all_defined file
  intro n member
  obtain ⟨x, inside, told⟩ := List.mem_filterMap.mp member
  obtain ⟨notice, checked, rfl⟩ := Option.map_eq_some_iff.mp told
  obtain ⟨s, is, span, bare⟩ := about.own x notice checked
  obtain ⟨line, column, endLine, known, first⟩ :=
    parse_stmt_known read (subject_listed about inside is)
  obtain ⟨found, published⟩ := l.publish_defined file (span.trans known) first bare
  exact ⟨notice, found, rfl, published⟩

/-- At the place of a statement there are the findings of its own notice alone. -/
theorem own_notice_published {l : Listing} {file : String} {findings : List Finding}
    (published : l.publishAll file (xs.filterMap fun x => (check x).map .ok) = .ok findings)
    {x : α} {s : Stmt} (inside : x ∈ xs) (is : node x = .stmt s) :
    l.publishAll file ((check x).toList.map .ok) =
      .ok (findings.filter (·.spot = s.span.spot)) := by
  have few : total (fun y => (node y).own ⟨.stmt, s.span.spot⟩) xs ≤ 1 := by
    rw [← total_map, about.walked]
    exact parse_stmt_tally read s.span.spot
  have own : 1 ≤ (node x).own ⟨.stmt, s.span.spot⟩ := is ▸ stmt_own s
  have alone := filter_map_sole (fun y => (node y).own ⟨.stmt, s.span.spot⟩) _ own inside few
    fun y _ free => noticed_elsewhere about free
  rw [← l.publish_all_at file published, List.filter_filterMap, alone, noticed_here about is]
  cases check x <;> rfl

end Published

/-- What is reported at the place of a statement: nothing if it is given no notice or if that is
silenced there, else its notice. -/
structure ReportedAt (l : Listing) (file : String) (span : Span) (notice : Option Notice)
    (here : List Finding) : Prop where
  unnoticed : notice = none → here = []
  silenced : ∀ n, notice = some n → l.silencesAt span (some n.rule) = true → here = []
  heard : ∀ n, notice = some n → l.silencesAt span (some n.rule) = false →
    ∃ f line, here = [f] ∧ span.placed = some line ∧ f.draft = l.draftOf file n line

theorem reported_at {l : Listing} {file : String} {n : Notice} {here : List Finding} {line : Nat}
    (placed : n.span.placed = some line) (published : l.publishAll file [.ok n] = .ok here) :
    ReportedAt l file n.span (some n) here := by
  obtain ⟨_, found, _, made, own, later, rfl⟩ :=
    (l.publish_all_cons_iff file _ _ _).mp published
  cases made
  cases later
  have silent : l.silencesAt n.span (some n.rule) = l.silences line (some n.rule) := by
    rw [Listing.silencesAt, placed]
  constructor
  · intro unnoticed
    cases unnoticed
  · rintro _ ⟨⟩ silenced
    rw [silent] at silenced
    cases own.symm.trans ((l.publish_none_iff file n).mpr (Or.inr ⟨line, placed, silenced⟩))
    rfl
  · rintro _ ⟨⟩ heard
    rw [silent] at heard
    cases found with
    | none =>
      rcases (l.publish_none_iff file n).mp own with ⟨nowhere, _⟩ | ⟨other, there, silenced⟩
      · cases placed.symm.trans nowhere
      · cases placed.symm.trans there
        cases heard.symm.trans silenced
    | some f =>
      obtain ⟨other, there, _, same⟩ := (l.publish_some_iff file n f).mp own
      exact ⟨f, other, rfl, there, same⟩

/-- A check about statements that were read from a text can be published, and at each of them stands
what it says of that one. -/
theorem statement_reports (read : parse names cs = some m) (about : OfStatements m node check xs)
    (l : Listing) (file : String) :
    ∃ findings, l.publishAll file (xs.filterMap fun x => (check x).map .ok) = .ok findings ∧
      ∀ x ∈ xs, ∀ s, node x = .stmt s →
        ReportedAt l file s.span (check x) (findings.filter (·.spot = s.span.spot)) := by
  obtain ⟨findings, published⟩ := statement_notices_published read about l file
  refine ⟨findings, published, fun x inside s is => ?_⟩
  have here := own_notice_published read about published inside is
  obtain ⟨line, column, endLine, known, first⟩ :=
    parse_stmt_known read (subject_listed about inside is)
  cases checked : check x with
  | none =>
    rw [checked] at here
    exact ⟨fun _ => (Except.ok.inj here).symm, by simp, by simp⟩
  | some n =>
    obtain ⟨other, isOther, span, _⟩ := about.own x n checked
    cases is.symm.trans isOther
    rw [checked] at here
    rw [← span] at known here ⊢
    exact reported_at (known ▸ known_placed first) here

end Statements

section Nodes

variable {names : CharNames} {cs : List Char} {m : Module} {check : Node → Notices}

def AtNodes (check : Node → Notices) : Prop :=
  ∀ node n, .ok n ∈ check node → ∃ span, node.span? = some span ∧
    ∃ (rule : Rule) (message suggestion : String), n = rule.notice span message suggestion

/-- A finding is what is said of a node. -/
theorem finding_source {family : Family} {settings : Settings} {sheet : Rules.Sheet}
    {outside : Bool} {verdict : Rules.Verdict} (check : Node → Notices)
    (onTree : family ≠ .duplication)
    (said : Rules.notices settings sheet.listing outside m family = m.tree.preorder.flatMap check)
    (examined : Rules.examine settings sheet outside m family = .ok verdict) {f : Finding}
    (member : f ∈ verdict.findings) :
    ∃ node ∈ m.tree.preorder, ∃ n, .ok n ∈ check node ∧ f.rule = n.rule ∧ f.spot = n.span.spot ∧
      f.suggestion = some n.suggestion := by
  rw [Rules.examine_eq _ _ _ _ family onTree, said] at examined
  obtain ⟨findings, published, same⟩ := (bind_ok_iff _ _ _).mp examined
  cases same
  obtain ⟨n, told, made⟩ := sheet.listing.publish_all_source sheet.file _ _ published f member
  obtain ⟨node, listed, given⟩ := List.mem_flatMap.mp told
  obtain ⟨_, _, _, drafted⟩ := (sheet.listing.publish_some_iff sheet.file n f).mp made
  exact ⟨node, listed, n, given, congrArg Sign.rule (publish_sign made),
    congrArg Sign.spot (publish_sign made), congrArg Finding.Draft.suggestion drafted⟩

/-- The examination of a module that was read by what is said of its nodes ends at the first
failure, if there is one, and else with the findings of all notices. -/
theorem examination_ends (read : parse names cs = some m) (family : Family) (own : AtNodes check)
    (settings : Settings) (sheet : Rules.Sheet) (outside : Bool) (onTree : family ≠ .duplication)
    (said : Rules.notices settings sheet.listing outside m family = m.tree.preorder.flatMap check) :
    (∃ node ∈ m.tree.preorder, ∃ failure, .error failure ∈ check node ∧
      Rules.examine settings sheet outside m family = .error failure) ∨
    (∀ node ∈ m.tree.preorder, ∀ failure, .error failure ∉ check node) ∧
      ∃ verdict, Rules.examine settings sheet outside m family = .ok verdict ∧
        sheet.listing.publishAll sheet.file (m.tree.preorder.flatMap check) =
          .ok verdict.findings := by
  rw [Rules.examine_eq _ _ _ _ family onTree, said]
  have fine : ∀ n, .ok n ∈ m.tree.preorder.flatMap check →
      ∃ found, sheet.listing.publish sheet.file n = .ok found := by
    intro n member
    obtain ⟨node, listed, given⟩ := List.mem_flatMap.mp member
    obtain ⟨span, here, rule, message, suggestion, rfl⟩ := own node n given
    obtain ⟨line, column, endLine, rfl⟩ := parse_known read node listed span here
    exact sheet.listing.publish_total sheet.file _ (Int.natCast_nonneg column) rfl fun _ => rfl
  rcases sheet.listing.publish_all_ends sheet.file fine with
    ⟨failure, member, failed⟩ | ⟨sound, findings, published⟩
  · obtain ⟨node, listed, given⟩ := List.mem_flatMap.mp member
    refine Or.inl ⟨node, listed, failure, given, ?_⟩
    rw [failed]
    rfl
  · refine Or.inr ⟨fun node listed failure given => ?_, ⟨findings, []⟩, ?_, published⟩
    · exact sound failure (List.mem_flatMap.mpr ⟨node, listed, given⟩)
    · exact (bind_ok_iff _ _ _).mpr ⟨findings, published, rfl⟩

end Nodes

end RefactorAdvice
