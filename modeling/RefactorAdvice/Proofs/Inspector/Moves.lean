import RefactorAdvice.Rules.Inspector

/-!
Runs of moves. Moves can be compared with a computation that keeps nothing, in that both fail
alike or end with a value and a point that belong together. What each move keeps, also where it
fails, a whole run keeps. So at every point the answer in hand and those put aside tell how many
functions the examination has gone into.
-/

namespace RefactorAdvice.Rules.Inspector

section Comparison
variable {α β : Type}

inductive Agrees (belongs : α → Point → Prop) : Except Failure α → Progress → Prop
  | done (value : α) (p : Point) : belongs value p → Agrees belongs (.ok value) (.ok p)
  | failed (failure : Failure) (p : Point) : Agrees belongs (.error failure) (.error (failure, p))

theorem agrees_bind {belongs : α → Point → Prop} {follows : β → Point → Prop}
    {outcome : Except Failure α} {progress : Progress} {next : α → Except Failure β} {move : Move}
    (first : Agrees belongs outcome progress)
    (second : ∀ value p, belongs value p → Agrees follows (next value) (move p)) :
    Agrees follows (outcome >>= next) (progress >>= move) := by
  cases first with
  | done value p together => exact second value p together
  | failed failure p => exact .failed failure p

theorem agrees_map {belongs : α → Point → Prop} {follows : β → Point → Prop}
    {outcome : Except Failure α} {progress : Progress} (f : α → β)
    (agree : Agrees belongs outcome progress)
    (image : ∀ value p, belongs value p → follows (f value) p) :
    Agrees follows (do return f (← outcome)) progress := by
  cases agree with
  | done value p together => exact .done (f value) p (image value p together)
  | failed failure p => exact .failed failure p

theorem agrees_ends {belongs : α → Point → Prop} {outcome : Except Failure α} {p : Point}
    (agree : Agrees belongs outcome (.ok p)) : ∃ value, belongs value p := by
  cases agree with
  | done value _ together => exact ⟨value, together⟩

-- A fold that keeps nothing beside one that keeps a point.
theorem agrees_fold {σ : Type} {belongs : σ → Point → Prop} (f : σ → α → Except Failure σ)
    (g : Point → α → Progress)
    (each : ∀ s p x, belongs s p → Agrees belongs (f s x) (g p x)) (xs : List α) (s : σ)
    (p : Point) (together : belongs s p) : Agrees belongs (xs.foldlM f s) (xs.foldlM g p) := by
  induction xs generalizing s p with
  | nil => exact .done s p together
  | cons x rest ih =>
    rw [List.foldlM_cons, List.foldlM_cons]
    exact agrees_bind (each s p x together) ih

theorem agrees_verdict {belongs : α → Point → Prop} {outcome : Except Failure α}
    {progress : Progress} (agree : Agrees belongs outcome progress) (shown : α → Verdict)
    (told : ∀ value p, belongs value p → ⟨p.notes.findings, p.notes.warnings⟩ = shown value) :
    verdict progress = outcome.map shown := by
  cases agree with
  | done value p together => exact congrArg Except.ok (told value p together)
  | failed failure p => rfl

end Comparison

section Runs

theorem go_cons (p : Point) (move : Move) (rest : List Move) :
    go p (move :: rest) = move p >>= fun q => go q rest :=
  List.foldlM_cons

theorem go_append (p : Point) (first second : List Move) :
    go p (first ++ second) = go p first >>= fun q => go q second :=
  List.foldlM_append

theorem go_two (p : Point) (first second : Move) : go p [first, second] = first p >>= second := by
  simp only [go, List.foldlM_cons, List.foldlM_nil, bind_pure]

theorem fold_keeps {α : Type} (holds : Point → Prop) (step : Point → α → Progress) (xs : List α)
    (each : ∀ x ∈ xs, ∀ p, holds p → holds (reached (step p x))) (p : Point) (start : holds p) :
    holds (reached (xs.foldlM step p)) := by
  induction xs generalizing p with
  | nil => exact start
  | cons x rest ih =>
    have first := each x List.mem_cons_self p start
    rw [List.foldlM_cons]
    cases taken : step p x with
    | ok q =>
      rw [taken] at first
      exact ih (fun y member => each y (List.mem_cons_of_mem x member)) q first
    | error stopped =>
      rw [taken] at first
      exact first

theorem go_keeps (holds : Point → Prop) (moves : List Move)
    (each : ∀ move ∈ moves, ∀ p, holds p → holds (reached (move p))) (p : Point)
    (start : holds p) : holds (reached (go p moves)) :=
  fold_keeps holds (fun q (move : Move) => move q) moves each p start

end Runs

section Functions

/--
The answer in hand, and those put aside for the functions gone into: each was in hand where its
function was come to, the outermost of them where the examination began.
-/
inductive PutAside (outside : Bool) : Bool → List Bool → Prop
  | none : PutAside outside outside []
  | function (before : Bool) (outer : List Bool) :
      PutAside outside before outer → PutAside outside true (before :: outer)

theorem put_aside_answer {outside inside : Bool} {outer : List Bool}
    (aside : PutAside outside inside outer) : inside = (outside || !outer.isEmpty) := by
  cases aside with
  | none => simp
  | function before outer earlier => simp

def Unwarned (family : Family) (notes : Notes) : Prop :=
  family = .performance ∨ family = .contextManager → notes.warnings = []

structure Kept (family : Family) (outside : Bool) (p : Point) : Prop where
  aside : PutAside outside p.notes.inFunction p.outer
  elsewhere : family ≠ .booleanLogic → p.outer = []
  unwarned : Unwarned family p.notes

variable {family : Family} {outside : Bool} {p : Point}

theorem kept_begin (family : Family) (notes : Notes) (unwarned : Unwarned family notes) :
    Kept family notes.inFunction ⟨notes.clear family, [], []⟩ := by
  refine ⟨?_, fun _ => rfl, ?_⟩
  · cases family <;> exact .none
  · intro quiet
    have before := unwarned quiet
    rcases quiet with rfl | rfl <;> exact before

theorem arrive_keeps (around : List Code.Node) (node : Code.Node)
    (kept : Kept family outside p) : Kept family outside (p.arrive around node family) := by
  obtain ⟨aside, elsewhere, unwarned⟩ := kept
  cases family with
  | booleanLogic =>
    unfold Point.arrive
    dsimp only
    split
    · exact ⟨.function _ _ aside, fun other => absurd rfl other, unwarned⟩
    · exact ⟨aside, elsewhere, unwarned⟩
  | performance =>
    unfold Point.arrive
    dsimp only
    split <;> exact ⟨aside, elsewhere, unwarned⟩
  | _ => exact ⟨aside, elsewhere, unwarned⟩

theorem depart_keeps (around : List Code.Node) (node : Code.Node)
    (kept : Kept family outside p) : Kept family outside (p.depart around node family) := by
  obtain ⟨aside, elsewhere, unwarned⟩ := kept
  cases family with
  | booleanLogic =>
    unfold Point.depart
    dsimp only
    split
    · cases shape : p.outer with
      | nil => exact ⟨aside, elsewhere, unwarned⟩
      | cons before outer =>
        rw [shape] at aside
        refine ⟨?_, fun other => absurd rfl other, unwarned⟩
        cases held : p.notes.inFunction with
        | true =>
          rw [held] at aside
          cases aside with
          | function _ _ earlier => exact earlier
        | false =>
          rw [held] at aside
          cases aside
    · exact ⟨aside, elsewhere, unwarned⟩
  | performance =>
    unfold Point.depart
    dsimp only
    split <;> exact ⟨aside, elsewhere, unwarned⟩
  | _ => exact ⟨aside, elsewhere, unwarned⟩

theorem say_keeps (sheet : Sheet) (n : Except Failure Notice) (kept : Kept family outside p) :
    Kept family outside (reached (say sheet p n)) := by
  obtain ⟨aside, elsewhere, unwarned⟩ := kept
  unfold say
  split <;> exact ⟨aside, elsewhere, unwarned⟩

theorem speak_keeps (settings : Settings) (sheet : Sheet) (visit : Code.Visit)
    (kept : Kept family outside p) :
    Kept family outside (reached (speak settings sheet family visit p)) :=
  fold_keeps (Kept family outside) (say sheet) _ (fun n _ _ held => say_keeps sheet n held) p kept

theorem walk_keeps (settings : Settings) (sheet : Sheet) (module : Code.Module) :
    ∀ move ∈ walkMoves settings sheet family module,
      ∀ p, Kept family outside p → Kept family outside (reached (move p)) := by
  intro move member p kept
  obtain ⟨visit, -, inside⟩ := List.mem_flatMap.mp member
  cases visit with
  | enter around node =>
    simp only [visitMoves, List.mem_cons, List.not_mem_nil, or_false] at inside
    rcases inside with rfl | rfl
    · exact arrive_keeps around node kept
    · exact speak_keeps settings sheet _ kept
  | leave around node =>
    simp only [visitMoves, List.mem_cons, List.not_mem_nil, or_false] at inside
    rcases inside with rfl | rfl
    · exact speak_keeps settings sheet _ kept
    · exact depart_keeps around node kept

end Functions

section Searches
variable {outside : Bool} {p : Point} (bounds : Duplication.Bounds)
  (settings : Settings.Duplication) (sheet : Sheet)

-- A search does not touch the answer, and it may warn.
theorem search_kept {p q : Point} (kept : Kept .duplication outside p)
    (answer : q.notes.inFunction = p.notes.inFunction) (outer : q.outer = p.outer) :
    Kept .duplication outside q := by
  refine ⟨?_, ?_, ?_⟩
  · rw [answer, outer]
    exact kept.aside
  · intro other
    rw [outer]
    exact kept.elsewhere other
  · rintro (quiet | quiet) <;> cases quiet

theorem start_keeps (total start : Nat) :
    ∀ move ∈ startMoves bounds settings sheet total start,
      ∀ p, Kept .duplication outside p → Kept .duplication outside (reached (move p)) := by
  intro move member p kept
  rcases List.mem_cons.mp member with rfl | later
  · unfold tryStart
    split <;> exact search_kept kept rfl rfl
  · obtain ⟨length, -, rfl⟩ := List.mem_map.mp later
    unfold store
    split
    · exact kept
    · split
      · exact kept
      · split <;> exact search_kept kept rfl rfl

theorem compare_keeps (kept : Kept .duplication outside p) :
    Kept .duplication outside (reached (compareBlocks settings sheet p)) := by
  refine fold_keeps (Kept .duplication outside) _ _ ?_ p kept
  intro members _ q held
  cases members with
  | nil => exact held
  | cons origin later =>
    refine fold_keeps (Kept .duplication outside) _ later ?_ q held
    intro b _ r holding
    unfold announce
    split
    · split <;> exact search_kept holding rfl rfl
    · exact holding

theorem search_keeps (module : Code.Module) :
    ∀ move ∈ searchMoves bounds settings sheet module,
      ∀ p, Kept .duplication outside p → Kept .duplication outside (reached (move p)) := by
  intro move member p kept
  simp only [searchMoves, List.cons_append, List.mem_cons, List.mem_append, List.mem_flatMap,
    List.not_mem_nil, or_false] at member
  rcases member with rfl | rfl | ⟨start, -, inside⟩ | rfl | rfl
  · exact search_kept kept rfl rfl
  · unfold countLines
    split <;> exact search_kept kept rfl rfl
  · exact start_keeps bounds settings sheet _ start move inside p kept
  · exact compare_keeps settings sheet kept
  · exact search_kept kept rfl rfl

end Searches

end RefactorAdvice.Rules.Inspector
