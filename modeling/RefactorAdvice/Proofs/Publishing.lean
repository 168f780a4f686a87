import RefactorAdvice.Rules.Examiner

/-!
From a notice to a finding. A draft becomes a finding exactly when it is what the finding says,
number by number; a notice becomes one exactly where it has a place and nothing silences it
there. Lists of notices are published piece by piece, and that is all that an examination by a
family on the tree does with its notices.
-/

namespace RefactorAdvice

section Outcomes
variable {ε α β : Type}

theorem bind_ok_iff (outcome : Except ε α) (next : α → Except ε β) (result : β) :
    (outcome >>= next) = .ok result ↔ ∃ value, outcome = .ok value ∧ next value = .ok result := by
  cases outcome with
  | error failure => simp [bind, Except.bind]
  | ok value => simp [bind, Except.bind]

theorem ok_of_to_option (x : Except ε α) (value : α) (given : x.toOption = some value) :
    x = .ok value := by
  cases x with
  | error failure => cases given
  | ok result =>
    cases given
    rfl

theorem map_ok_cons_iff (f : α → Except ε β) (x : α) (rest : List α) (results : List β) :
    (x :: rest).mapM f = .ok results ↔
      ∃ y ys, f x = .ok y ∧ rest.mapM f = .ok ys ∧ results = y :: ys := by
  rw [List.mapM_cons, bind_ok_iff]
  constructor
  · rintro ⟨y, head, tail⟩
    obtain ⟨ys, others, same⟩ := (bind_ok_iff _ _ _).mp tail
    cases same
    exact ⟨y, ys, head, others, rfl⟩
  · rintro ⟨y, ys, head, others, rfl⟩
    exact ⟨y, head, (bind_ok_iff _ _ _).mpr ⟨ys, others, rfl⟩⟩

theorem map_ok_defined (f : α → Except ε β) (xs : List α)
    (defined : ∀ x ∈ xs, ∃ y, f x = .ok y) : ∃ ys, xs.mapM f = .ok ys := by
  induction xs with
  | nil => exact ⟨[], rfl⟩
  | cons x rest ih =>
    obtain ⟨y, head⟩ := defined x List.mem_cons_self
    obtain ⟨ys, others⟩ := ih fun z member => defined z (List.mem_cons_of_mem x member)
    exact ⟨y :: ys, (map_ok_cons_iff f x rest _).mpr ⟨y, ys, head, others, rfl⟩⟩

-- What a result shows and its source shows alike is the same list on both sides.
theorem map_ok_view {γ : Type} (f : α → Except ε β) (shown : β → γ) (source : α → γ)
    (agree : ∀ x y, f x = .ok y → shown y = source x) (xs : List α) (ys : List β)
    (mapped : xs.mapM f = .ok ys) : ys.map shown = xs.map source := by
  induction xs generalizing ys with
  | nil =>
    cases mapped
    rfl
  | cons x rest ih =>
    obtain ⟨y, others, head, tail, rfl⟩ := (map_ok_cons_iff f x rest ys).mp mapped
    rw [List.map_cons, List.map_cons, agree x y head, ih others tail]

theorem map_ok_source (f : α → Except ε β) (xs : List α) (ys : List β)
    (mapped : xs.mapM f = .ok ys) (y : β) (member : y ∈ ys) : ∃ x ∈ xs, f x = .ok y := by
  induction xs generalizing ys with
  | nil =>
    cases mapped
    cases member
  | cons x rest ih =>
    obtain ⟨first, others, head, tail, rfl⟩ := (map_ok_cons_iff f x rest ys).mp mapped
    rcases List.mem_cons.mp member with rfl | later
    · exact ⟨x, List.mem_cons_self, head⟩
    · obtain ⟨z, inside, made⟩ := ih others tail later
      exact ⟨z, List.mem_cons_of_mem x inside, made⟩

end Outcomes

section Drafts

def Finding.draft (f : Finding) : Finding.Draft :=
  { file := f.file, line := f.line, column := f.column, severity := f.severity, rule := f.rule
    message := f.message, suggestion := f.suggestion, snippet := f.snippet
    endLine := f.endLine.map Int.ofNat }

theorem of_draft_draft (f : Finding) : Finding.ofDraft f.draft = .ok f := by
  obtain ⟨file, line, column, severity, rule, message, suggestion, snippet, endLine, pos, fits⟩ := f
  have first : ¬ (line : Int) < 1 := by omega
  have placed : ¬ (column : Int) < 0 := by omega
  cases endLine with
  | none => simp [Finding.ofDraft, Finding.draft, first, placed]
  | some last =>
    have ordered : ¬ (last : Int) < line := by
      have := fits last rfl
      omega
    simp [Finding.ofDraft, Finding.draft, first, placed, ordered]

theorem of_draft_iff (d : Finding.Draft) (f : Finding) :
    Finding.ofDraft d = .ok f ↔ d = f.draft := by
  constructor
  · intro built
    obtain ⟨file, line, column, severity, rule, message, suggestion, snippet, endLine⟩ := d
    simp only [Finding.ofDraft] at built
    split at built
    · cases built
    · split at built
      · cases built
      · cases endLine with
        | none =>
          cases built
          simp only [Finding.draft, Finding.Draft.mk.injEq, Option.map_none, and_true, true_and]
          omega
        | some last =>
          dsimp only at built
          split at built
          · cases built
          · cases built
            simp only [Finding.draft, Finding.Draft.mk.injEq, Option.map_some, Option.some.injEq,
              Int.ofNat_eq_natCast, true_and]
            omega
  · rintro rfl
    exact of_draft_draft f

theorem of_draft_defined (d : Finding.Draft) (first : 1 ≤ d.line) (column : 0 ≤ d.column)
    (ordered : ∀ last, d.endLine = some last → d.line ≤ last) :
    ∃ f, Finding.ofDraft d = .ok f := by
  have above : ¬ d.line < 1 := by omega
  have right : ¬ d.column < 0 := by omega
  unfold Finding.ofDraft
  rw [dif_neg above, if_neg right]
  cases ending : d.endLine with
  | none => exact ⟨_, rfl⟩
  | some last =>
    have fits : ¬ last < d.line := by
      have := ordered last ending
      omega
    simp only [dif_neg fits]
    exact ⟨_, rfl⟩

end Drafts

namespace Listing

section Publishing

def draftOf (l : Listing) (file : String) (n : Notice) (line : Nat) : Finding.Draft :=
  { file, line, column := n.span.columnOrZero, severity := n.severity, rule := n.rule
    message := n.message, suggestion := some n.suggestion
    snippet := l.snippet line, endLine := n.endLine }

theorem publish_some_iff (l : Listing) (file : String) (n : Notice) (f : Finding) :
    l.publish file n = .ok (some f) ↔
      ∃ line, n.span.placed = some line ∧ l.silences line (some n.rule) = false ∧
        f.draft = l.draftOf file n line := by
  unfold publish
  cases place : n.span.placed with
  | none => cases n.placeNeeded <;> simp
  | some line =>
    cases silent : l.silences line (some n.rule) with
    | true => simp [silent]
    | false =>
      have made := of_draft_iff (l.draftOf file n line) f
      rw [draftOf] at made
      simp only [Option.some.injEq, exists_eq_left', silent, Bool.false_eq_true, ↓reduceIte,
        true_and, draftOf]
      rw [eq_comm (a := f.draft), ← made]
      cases Finding.ofDraft _ <;> simp [Except.map]

theorem publish_none_iff (l : Listing) (file : String) (n : Notice) :
    l.publish file n = .ok none ↔
      (n.span.placed = none ∧ n.placeNeeded = false) ∨
        ∃ line, n.span.placed = some line ∧ l.silences line (some n.rule) = true := by
  unfold publish
  cases place : n.span.placed with
  | none => cases n.placeNeeded <;> simp
  | some line =>
    cases silent : l.silences line (some n.rule) with
    | true => simp [silent]
    | false =>
      simp only [silent, Bool.false_eq_true, ↓reduceIte]
      cases Finding.ofDraft _ <;> simp [Except.map, silent]

theorem publish_all_cons_iff (l : Listing) (file : String) (n : Except Failure Notice)
    (rest : Notices) (findings : List Finding) :
    l.publishAll file (n :: rest) = .ok findings ↔
      ∃ notice found others, n = .ok notice ∧ l.publish file notice = .ok found ∧
        l.publishAll file rest = .ok others ∧ findings = found.toList ++ others := by
  constructor
  · intro published
    obtain ⟨notice, made, published⟩ := (bind_ok_iff _ _ _).mp published
    obtain ⟨found, here, published⟩ := (bind_ok_iff _ _ _).mp published
    obtain ⟨others, later, same⟩ := (bind_ok_iff _ _ _).mp published
    exact ⟨notice, found, others, made, here, later, (Except.ok.inj same).symm⟩
  · rintro ⟨notice, found, others, rfl, here, later, rfl⟩
    exact (bind_ok_iff _ _ _).mpr ⟨notice, rfl, (bind_ok_iff _ _ _).mpr ⟨found, here,
      (bind_ok_iff _ _ _).mpr ⟨others, later, rfl⟩⟩⟩

theorem publish_all_append (l : Listing) (file : String) (first second : Notices) :
    l.publishAll file (first ++ second) = do
      let found ← l.publishAll file first
      let others ← l.publishAll file second
      return found ++ others := by
  induction first with
  | nil =>
    simp only [List.nil_append, publishAll]
    exact (bind_pure (l.publishAll file second)).symm
  | cons n rest ih =>
    simp only [List.cons_append, publishAll, ih, bind_assoc, pure_bind, List.append_assoc]

theorem publish_all_source (l : Listing) (file : String) (ns : Notices) (findings : List Finding)
    (published : l.publishAll file ns = .ok findings) (f : Finding) (member : f ∈ findings) :
    ∃ n, .ok n ∈ ns ∧ l.publish file n = .ok (some f) := by
  induction ns generalizing findings with
  | nil =>
    cases published
    cases member
  | cons n rest ih =>
    obtain ⟨notice, found, others, rfl, here, later, rfl⟩ :=
      (l.publish_all_cons_iff file _ _ _).mp published
    rcases List.mem_append.mp member with now | after
    · exact ⟨notice, List.mem_cons_self, by rw [here, Option.mem_toList.mp now]⟩
    · obtain ⟨source, inside, given⟩ := ih others later after
      exact ⟨source, List.mem_cons_of_mem _ inside, given⟩

/-- A notice without an end can be published unless its column is negative, or it has no place but
needs one. -/
theorem publish_total (l : Listing) (file : String) (n : Notice) (column : 0 ≤ n.span.columnOrZero)
    (bare : n.endLine = none) (place : n.span.placed = none → n.placeNeeded = false) :
    ∃ found, l.publish file n = .ok found := by
  cases placed : n.span.placed with
  | none => exact ⟨none, (l.publish_none_iff file n).mpr (Or.inl ⟨placed, place placed⟩)⟩
  | some line =>
    cases silent : l.silences line (some n.rule) with
    | true => exact ⟨none, (l.publish_none_iff file n).mpr (Or.inr ⟨line, placed, silent⟩)⟩
    | false =>
      have first : 1 ≤ line := by
        unfold Code.Span.placed at placed
        split at placed
        · split at placed
          · cases placed
            omega
          · cases placed
        · cases placed
      obtain ⟨f, made⟩ := of_draft_defined (l.draftOf file n line) (Int.ofNat_le.mpr first) column
        (by simp [draftOf, bare])
      exact ⟨some f, (l.publish_some_iff file n f).mpr
        ⟨line, placed, silent, ((of_draft_iff _ _).mp made).symm⟩⟩

/-- If notices and findings are told apart alike, findings of the one kind come from notices of the
one kind. -/
theorem publish_all_filter (l : Listing) (file : String) (noticed : Except Failure Notice → Bool)
    (shown : Finding → Bool)
    (agree : ∀ n f, l.publish file n = .ok (some f) → shown f = noticed (.ok n)) {ns : Notices}
    {findings : List Finding} (published : l.publishAll file ns = .ok findings) :
    l.publishAll file (ns.filter noticed) = .ok (findings.filter shown) := by
  induction ns generalizing findings with
  | nil =>
    cases published
    rfl
  | cons n rest ih =>
    obtain ⟨notice, found, others, rfl, here, later, rfl⟩ :=
      (l.publish_all_cons_iff file _ _ _).mp published
    rw [List.filter_append]
    cases kind : noticed (.ok notice) with
    | true =>
      have kept : found.toList.filter shown = found.toList := by
        cases found with
        | none => rfl
        | some f => simp [agree notice f here, kind]
      rw [kept, List.filter_cons_of_pos kind]
      exact (l.publish_all_cons_iff file _ _ _).mpr
        ⟨notice, found, _, rfl, here, ih later, rfl⟩
    | false =>
      have dropped : found.toList.filter shown = [] := by
        cases found with
        | none => rfl
        | some f => simp [agree notice f here, kind]
      rw [dropped, List.filter_cons_of_neg (by simp [kind]), List.nil_append]
      exact ih later

/-- Where all notices can be published, the first failure is the end, if there is one. -/
theorem publish_all_ends (l : Listing) (file : String) {ns : Notices}
    (fine : ∀ n, .ok n ∈ ns → ∃ found, l.publish file n = .ok found) :
    (∃ failure, .error failure ∈ ns ∧ l.publishAll file ns = .error failure) ∨
      (∀ failure, .error failure ∉ ns) ∧ ∃ findings, l.publishAll file ns = .ok findings := by
  induction ns with
  | nil => exact Or.inr ⟨fun _ => List.not_mem_nil, [], rfl⟩
  | cons n rest ih =>
    cases n with
    | error failure => exact Or.inl ⟨failure, List.mem_cons_self, rfl⟩
    | ok notice =>
      obtain ⟨found, here⟩ := fine notice List.mem_cons_self
      rcases ih fun n member => fine n (List.mem_cons_of_mem _ member) with
        ⟨failure, member, failed⟩ | ⟨sound, others, later⟩
      · refine Or.inl ⟨failure, List.mem_cons_of_mem _ member, ?_⟩
        change (l.publish file notice >>= fun found => l.publishAll file rest >>= fun others =>
          Except.ok (found.toList ++ others)) = _
        rw [here, failed]
        rfl
      · refine Or.inr ⟨fun failure member => ?_, found.toList ++ others, ?_⟩
        · exact sound failure ((List.mem_cons.mp member).resolve_left (by simp))
        · exact (l.publish_all_cons_iff file _ _ _).mpr
            ⟨notice, found, others, rfl, here, later, rfl⟩

theorem publish_all_fails (l : Listing) (file : String) {ns : Notices} {failure : Failure}
    (fine : ∀ n, .ok n ∈ ns → ∃ found, l.publish file n = .ok found)
    (only : ∀ other, .error other ∈ ns → other = failure) (fails : .error failure ∈ ns) :
    l.publishAll file ns = .error failure := by
  rcases l.publish_all_ends file fine with ⟨other, member, failed⟩ | ⟨sound, _⟩
  · exact only other member ▸ failed
  · exact absurd fails (sound failure)

end Publishing

end Listing

namespace Rules

theorem examine_eq (settings : Settings) (sheet : Sheet) (outside : Bool) (m : Code.Module)
    (family : Family) (onTree : family ≠ .duplication) :
    examine settings sheet outside m family = do
      let findings ← sheet.listing.publishAll sheet.file
        (notices settings sheet.listing outside m family)
      return { findings } := by
  cases family with
  | duplication => exact absurd rfl onTree
  | _ => rfl

end Rules

end RefactorAdvice
