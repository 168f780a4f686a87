import RefactorAdvice.Proofs.Inspector.Walks
import RefactorAdvice.Proofs.RepeatedCalls
import RefactorAdvice.Proofs.SilencingFilter

/-!
Lengths compared with zero, and whether the advice given is right. A comparison is a chain of tests
between neighbours, and is true if each of them is. The advice replaces all of it by a test of the
container. It is given wherever a zero and an operator of the right kind are in the chain, so it is
right for the three plain comparisons and wrong wherever another operand has a say.
-/

namespace RefactorAdvice

namespace Code

section Parents

-- The nearest node around is the one that has the node among its branches.
mutual
theorem places_parent {above : List Node} : ∀ {t : Tree}, t.Sound → ∀ {around : List Node}
    {node : Node}, (around, node) ∈ t.places above →
      around = above ∧ node.tree = t ∨
        ∃ parent farther, around = parent :: farther ∧ node.tree ∈ parent.tree.branches
  | .node root branches, .node _ _ whole parts, around, node, member => by
    rw [Tree.places, List.mem_cons] at member
    rcases member with same | inside
    · cases same
      exact Or.inl ⟨rfl, whole⟩
    · rcases branch_places_parent parts inside with ⟨rfl, among⟩ | below
      · exact Or.inr ⟨root, above, rfl, by rw [whole]; exact among⟩
      · exact Or.inr below

theorem branch_places_parent {above : List Node} : ∀ {ts : List Tree}, (∀ t ∈ ts, t.Sound) →
    ∀ {around : List Node} {node : Node}, (around, node) ∈ branchPlaces above ts →
      around = above ∧ node.tree ∈ ts ∨
        ∃ parent farther, around = parent :: farther ∧ node.tree ∈ parent.tree.branches
  | [], _, _, _, member => by cases member
  | t :: rest, sound, around, node, member => by
    rw [branchPlaces, List.mem_append] at member
    rcases member with first | later
    · rcases places_parent (sound t List.mem_cons_self) first with ⟨same, rfl⟩ | below
      · exact Or.inl ⟨same, List.mem_cons_self⟩
      · exact Or.inr below
    · have more := branch_places_parent
        (fun t inside => sound t (List.mem_cons_of_mem _ inside)) later
      exact more.imp_left fun found => ⟨found.1, List.mem_cons_of_mem t found.2⟩
end

theorem expr_tree_root (e : Expr) : e.tree.root = .expr e := by
  cases e <;> rfl

theorem expr_tree_mem_iff (e : Expr) (es : List Expr) : e.tree ∈ exprTrees es ↔ e ∈ es := by
  induction es with
  | nil => simp [exprTrees]
  | cons first rest ih =>
    have same : e.tree = first.tree ↔ e = first := by
      constructor
      · intro trees
        have roots := congrArg Tree.root trees
        rw [expr_tree_root, expr_tree_root] at roots
        exact Node.expr.inj roots
      · rintro rfl
        rfl
    rw [exprTrees, List.mem_cons, List.mem_cons, ih, same]

/-- An expression with a comparison right around it is one of its operands. -/
theorem operand_of_place {m : Module} {e : Expr} {span : Span} {left : Expr}
    {ops : List CompareOp} {comparators : List Expr} {farther : List Node}
    (member : (.expr (.compare span left ops comparators) :: farther, .expr e) ∈ m.tree.places []) :
    e ∈ left :: comparators := by
  rcases places_parent (module_sound m) member with ⟨none, _⟩ | ⟨parent, rest, same, among⟩
  · cases none
  · cases same
    exact (expr_tree_mem_iff e (left :: comparators)).mp among

end Parents

end Code

namespace Rules.Performance

open Code

section Values

/--
How values compare with each other; a test that raises an error has no answer. Of lengths it is
known how they compare with a literal that is zero. An imaginary number has no order. Against a
length or a literal every operator fails for some value, on either side.
-/
structure Comparing (V : Type) where
  literal : Constant → V
  length : Nat → V
  test : CompareOp → V → V → Option Bool
  equal : ∀ n zero, zero.equals 0 = true →
    test .eq (length n) (literal zero) = some (decide (n = 0))
  unequal : ∀ n zero, zero.equals 0 = true →
    test .notEq (length n) (literal zero) = some (decide (n ≠ 0))
  ordered : ∀ n zero, zero.equals 0 = true → (∀ x, zero ≠ .imaginary x) →
    test .greater (length n) (literal zero) = some (decide (0 < n)) ∧
      test .greaterEq (length n) (literal zero) = some true
  unordered : ∀ n x, test .greater (length n) (literal (.imaginary x)) = none ∧
    test .greaterEq (length n) (literal (.imaginary x)) = none
  refutedRight : ∀ op v, (∃ c, v = literal c) ∨ (∃ n, v = length n) → ∃ w, test op v w ≠ some true
  refutedLeft : ∀ op w, (∃ c, w = literal c) ∨ (∃ n, w = length n) → ∃ v, test op v w ≠ some true

variable {V : Type} (world : Comparing V)

namespace Comparing

def chain : List CompareOp → List V → Prop
  | [], [_] => True
  | op :: ops, v :: w :: rest => world.test op v w = some true ∧ chain ops (w :: rest)
  | _, _ => False

def slot : Expr → Option V
  | .constant _ c => some (world.literal c)
  | _ => none

def slots (before after : List Expr) (n : Nat) : List (Option V) :=
  before.map world.slot ++ some (world.length n) :: after.map world.slot

end Comparing

def Fits (slots : List (Option V)) (values : List V) : Prop :=
  List.Forall₂ (fun slot value => ∀ known ∈ slot, value = known) slots values

theorem fits_fixed (fixed values : List V) : Fits (fixed.map some) values ↔ values = fixed := by
  rw [Fits, List.forall₂_map_left_iff]
  constructor
  · intro agree
    have same := agree.imp fun _ _ known => (known _ rfl).symm
    rw [List.forall₂_eq_eq_eq] at same
    exact same.symm
  · rintro rfl
    exact List.forall₂_same.mpr fun v _ _ known => (Option.mem_some_iff.mp known)

/-- Where all is known there is one way to fit. -/
theorem all_known {slots : List (Option V)} (known : none ∉ slots) :
    ∃ values : List V, slots = values.map some := by
  induction slots with
  | nil => exact ⟨[], rfl⟩
  | cons slot rest ih =>
    obtain ⟨values, same⟩ := ih fun member => known (List.mem_cons_of_mem slot member)
    cases slot with
    | none => exact absurd List.mem_cons_self known
    | some v => exact ⟨v :: values, by rw [same, List.map_cons]⟩

theorem fits_some (default : V) (slots : List (Option V)) : ∃ values, Fits slots values := by
  induction slots with
  | nil => exact ⟨[], .nil⟩
  | cons slot rest ih =>
    obtain ⟨values, fits⟩ := ih
    exact ⟨slot.getD default :: values, .cons (by rintro _ rfl; rfl) fits⟩

def Pinned (slots : List (Option V)) : Prop :=
  ∀ v, some v ∈ slots → (∃ c, v = world.literal c) ∨ ∃ n, v = world.length n

-- Wherever an operand is not known, it or its neighbour can be such that their test fails.
theorem chain_refuted (slots : List (Option V)) (ops : List CompareOp)
    (pinned : Pinned world slots) (unknown : none ∈ slots) (long : 2 ≤ slots.length) :
    ∃ values, Fits slots values ∧ ¬ world.chain ops values := by
  induction slots generalizing ops with
  | nil => cases unknown
  | cons first rest ih =>
    cases rest with
    | nil => exact absurd long (by simp)
    | cons second rest =>
      obtain ⟨more, fits⟩ := fits_some (world.length 0) rest
      cases ops with
      | nil =>
        obtain ⟨values, fits⟩ := fits_some (world.length 0) (first :: second :: rest)
        refine ⟨values, fits, ?_⟩
        cases fits with
        | cons _ later =>
          cases later
          exact fun holds => holds
      | cons op ops =>
        cases second with
        | none =>
          have known : (∃ c, first.getD (world.length 0) = world.literal c) ∨
              ∃ n, first.getD (world.length 0) = world.length n := by
            cases first with
            | none => exact Or.inr ⟨0, rfl⟩
            | some v => exact pinned v List.mem_cons_self
          obtain ⟨w, fails⟩ := world.refutedRight op _ known
          refine ⟨first.getD (world.length 0) :: w :: more,
            .cons (by rintro _ rfl; rfl) (.cons (by simp) fits), ?_⟩
          exact fun holds => fails holds.1
        | some w =>
          cases first with
          | none =>
            obtain ⟨v, fails⟩ := world.refutedLeft op w (pinned w (by simp))
            refine ⟨v :: w :: more, .cons (by simp) (.cons (by simp) fits), ?_⟩
            exact fun holds => fails holds.1
          | some v =>
            have inside : none ∈ some w :: rest := by simpa using unknown
            have later : 2 ≤ (some w :: rest).length := by
              cases rest with
              | nil => simp at inside
              | cons => simp
            obtain ⟨values, fits, fails⟩ :=
              ih ops (fun x member => pinned x (List.mem_cons_of_mem _ member)) inside later
            refine ⟨v :: values, .cons (by simp) fits, ?_⟩
            cases fits with
            | cons => exact fun holds => fails holds.2

section Advice

inductive Replacement where
  | container
  | notContainer
deriving DecidableEq

def Replacement.holds : Replacement → Nat → Prop
  | .container, n => 0 < n
  | .notContainer, n => n = 0

def replacement? : String → Option Replacement
  | "Use 'if container:' instead of 'if len(container) > 0:'" => some .container
  | "Use 'if container:' instead of 'if len(container) != 0:'" => some .container
  | "Use 'if not container:' instead of 'if len(container) == 0:'" => some .notContainer
  | _ => none

/-- The replacement is true exactly if the comparison is, whatever the length is and whatever values
the operands have that are no literals. -/
def Right (r : Replacement) (ops : List CompareOp) (before after : List Expr) : Prop :=
  ∀ n values, Fits (world.slots before after n) values → (world.chain ops values ↔ r.holds n)

theorem slots_pinned (before after : List Expr) (n : Nat) :
    Pinned world (world.slots before after n) := by
  have ofExpr : ∀ v, ∀ e : Expr, world.slot e = some v → ∃ c, v = world.literal c := by
    intro v e known
    unfold Comparing.slot at known
    split at known
    · cases known
      exact ⟨_, rfl⟩
    · cases known
  intro v member
  rw [Comparing.slots, List.mem_append, List.mem_cons] at member
  rcases member with left | here | right
  · obtain ⟨e, _, known⟩ := List.mem_map.mp left
    exact Or.inl (ofExpr v e known)
  · cases here
    exact Or.inr ⟨n, rfl⟩
  · obtain ⟨e, _, known⟩ := List.mem_map.mp right
    exact Or.inl (ofExpr v e known)

/-- Which operands are unknown does not hang on the length. -/
theorem unknown_slots_iff (before after : List Expr) (n : Nat) :
    none ∈ world.slots before after n ↔ ∃ e ∈ before ++ after, world.slot e = none := by
  simp only [Comparing.slots, List.mem_append, List.mem_cons, List.mem_map, reduceCtorEq, false_or]
  grind

/-- The replacement is right only if all other operands are literals; then the values are given, and
one comparison for each length decides. -/
theorem right_iff (r : Replacement) (ops : List CompareOp) (before after : List Expr) :
    Right world r ops before after ↔
      ∀ n, ∃ values, world.slots before after n = values.map some ∧
        (world.chain ops values ↔ r.holds n) := by
  constructor
  · intro right n
    by_cases unknown : none ∈ world.slots before after n
    · -- a length at which the replacement is true, and values at which the comparison is not
      obtain ⟨k, holds⟩ : ∃ k, r.holds k := by
        cases r
        · exact ⟨1, Nat.one_pos⟩
        · exact ⟨0, rfl⟩
      have other : none ∈ world.slots before after k :=
        (unknown_slots_iff world before after k).mpr
          ((unknown_slots_iff world before after n).mp unknown)
      have long : 2 ≤ (world.slots before after k).length := by
        obtain ⟨e, member, _⟩ := (unknown_slots_iff world before after k).mp other
        have := List.length_pos_of_mem member
        simp only [Comparing.slots, List.length_append, List.length_cons, List.length_map] at this ⊢
        omega
      obtain ⟨values, fits, fails⟩ :=
        chain_refuted world _ ops (slots_pinned world before after k) other long
      exact absurd ((right k values fits).mpr holds) fails
    · obtain ⟨values, same⟩ := all_known unknown
      exact ⟨values, same, right n values (same ▸ (fits_fixed values values).mpr rfl)⟩
  · intro decided n values fits
    obtain ⟨fixed, same, agree⟩ := decided n
    rw [same, fits_fixed] at fits
    rw [fits]
    exact agree

def Telling (ops : List CompareOp) : Prop :=
  .greater ∈ ops ∨ .greaterEq ∈ ops ∨ .eq ∈ ops ∨ .notEq ∈ ops

def lenRule (ops : List CompareOp) : Rule :=
  if .greater ∈ ops ∨ .greaterEq ∈ ops then .lenPositive else .lenZero

def lenReplacement (ops : List CompareOp) : Replacement :=
  if (.greater ∈ ops ∨ .greaterEq ∈ ops) ∨ .eq ∉ ops then .container else .notContainer

/-- All that is said by the operators of a comparison. -/
theorem len_advice_cases (ops : List CompareOp) :
    (Telling ops ∧ ∃ message suggestion,
      lenAdvice? ops = some (lenRule ops, message, suggestion) ∧
        replacement? suggestion = some (lenReplacement ops)) ∨
    ¬ Telling ops ∧ lenAdvice? ops = none := by
  simp only [lenAdvice?, lenRule, lenReplacement, Telling, Bool.or_eq_true, List.contains_iff_mem]
  by_cases greater : .greater ∈ ops ∨ .greaterEq ∈ ops
  · refine Or.inl ⟨by grind, _, _, by rw [if_pos greater, if_pos greater], ?_⟩
    rw [if_pos (Or.inl greater)]
    rfl
  · by_cases equal : .eq ∈ ops
    · refine Or.inl ⟨by grind, _, _, by rw [if_neg greater, if_pos equal, if_neg greater], ?_⟩
      rw [if_neg (by grind)]
      rfl
    · by_cases unequal : .notEq ∈ ops
      · refine Or.inl ⟨by grind, _, _,
          by rw [if_neg greater, if_neg equal, if_pos unequal, if_neg greater], ?_⟩
        rw [if_pos (Or.inr equal)]
        rfl
      · exact Or.inr ⟨by grind, by rw [if_neg greater, if_neg equal, if_neg unequal]⟩

/-- With a length on the left of one operator and a zero on its right, the replacement is right
unless the operator lets the zero pass or the zero has no order. -/
theorem right_plain_iff {op : CompareOp} (telling : Telling [op]) (span : Span) {zero : Constant}
    (isZero : zero.equals 0 = true) :
    Right world (lenReplacement [op]) [op] [] [.constant span zero] ↔
      op ≠ .greaterEq ∧ (op = .greater → ∀ x, zero ≠ .imaginary x) := by
  have single : Right world (lenReplacement [op]) [op] [] [.constant span zero] ↔
      ∀ n, world.test op (world.length n) (world.literal zero) = some true ↔
        (lenReplacement [op]).holds n := by
    rw [right_iff]
    refine forall_congr' fun n => ?_
    constructor
    · rintro ⟨values, same, agree⟩
      cases List.map_injective_iff.mpr (Option.some_injective V)
        (show [world.length n, world.literal zero].map some = values.map some from same)
      simpa [Comparing.chain] using agree
    · intro agree
      exact ⟨[world.length n, world.literal zero], rfl, by simpa [Comparing.chain] using agree⟩
  rw [single]
  cases op with
  | eq => simp [world.equal _ zero isZero, lenReplacement, Replacement.holds]
  | notEq =>
    simp [world.unequal _ zero isZero, lenReplacement, Replacement.holds, Nat.pos_iff_ne_zero]
  | greater =>
    by_cases imaginary : ∃ x, zero = .imaginary x
    · obtain ⟨x, rfl⟩ := imaginary
      refine iff_of_false (fun all => ?_) (fun both => both.2 rfl x rfl)
      cases (world.unordered 1 x).1.symm.trans ((all 1).mpr Nat.one_pos)
    · have real : ∀ x, zero ≠ .imaginary x := fun x same => imaginary ⟨x, same⟩
      simp [(world.ordered _ zero isZero real).1, lenReplacement, Replacement.holds, real]
  | greaterEq =>
    refine iff_of_false (fun all => ?_) (fun both => both.1 rfl)
    by_cases imaginary : ∃ x, zero = .imaginary x
    · obtain ⟨x, rfl⟩ := imaginary
      cases (world.unordered 1 x).2.symm.trans ((all 1).mpr Nat.one_pos)
    · have real : ∀ x, zero ≠ .imaginary x := fun x same => imaginary ⟨x, same⟩
      exact Nat.lt_irrefl 0 ((all 0).mp (world.ordered 0 zero isZero real).2)
  | less | lessEq | same | notSame | member | notMember => simp [Telling] at telling

end Advice

end Values

section Notices

variable (limits : Settings.Performance) (silent : Span → Rule → Bool)

def lenNotice : List Node × Node → Option Notice
  | (around, .expr e) => lenComparison around e
  | _ => none

def ofLength (n : Except Failure Notice) : Bool := isOf .lenPositive n || isOf .lenZero n

theorem arrival_lengths (s : Scopes) (around : List Node) (node : Node) :
    (check limits silent s (.enter around node)).filter ofLength =
      ((lenNotice (around, node)).map .ok).toList := by
  cases node with
  | stmt st =>
    cases st with
    | augAssign span target op value =>
      refine List.filter_eq_nil_iff.mpr fun n member => ?_
      obtain ⟨notice, found, rfl⟩ := Option.map_eq_some_iff.mp (Option.mem_toList.mp member)
      obtain ⟨_, _, _, _, same⟩ := list_growth_spoken found
      cases same
      exact Bool.false_ne_true
    | _ => rfl
  | expr e =>
    cases e with
    | call span func args keywords =>
      have lists : ((redundantList (.call span func args keywords)).toList.map .ok).filter
          ofLength = [] := by
        refine List.filter_eq_nil_iff.mpr fun n member => ?_
        obtain ⟨notice, found, rfl⟩ := List.mem_map.mp member
        obtain ⟨_, _, _, _, same⟩ := redundant_list_spoken (Option.mem_toList.mp found)
        cases same
        exact Bool.false_ne_true
      have kept : ((lenComparison around (.call span func args keywords)).toList.map .ok).filter
          ofLength = (lenComparison around (.call span func args keywords)).toList.map .ok := by
        refine List.filter_eq_self.mpr fun n member => ?_
        obtain ⟨notice, found, rfl⟩ := List.mem_map.mp member
        obtain ⟨rule, among, _, _, _, _, same⟩ := len_comparison_spoken (Option.mem_toList.mp found)
        cases same
        have both : ∀ rule ∈ [Rule.lenPositive, .lenZero],
            (rule.code == Rule.lenPositive.code || rule.code == Rule.lenZero.code) = true := by
          decide
        exact both rule among
      change (List.map Except.ok
        ((redundantList _).toList ++ (lenComparison _ _).toList)).filter _ = _
      rw [List.map_append, List.filter_append, lists, kept, List.nil_append, lenNotice,
        Option.toList_map]
    | _ => rfl
  | _ => rfl

theorem departure_lengths (s : Scopes) (around : List Node) (node : Node) :
    (check limits silent s (.leave around node)).filter ofLength = [] := by
  cases isLoop : node.isLoop with
  | false => rw [leave_other isLoop, List.filter_nil]
  | true =>
    refine List.filter_eq_nil_iff.mpr fun n member => ?_
    rw [leave_loop isLoop, List.mem_append] at member
    rcases member with texts | calls
    · obtain ⟨notice, told, rfl⟩ := Option.map_eq_some_iff.mp (Option.mem_toList.mp texts)
      obtain ⟨_, _, _, rfl⟩ := concatenation_rule told
      exact Bool.false_ne_true
    · rcases repeated_calls_spoken calls with ⟨failure, rfl⟩ | ⟨_, _, _, _, _, _, rfl⟩
      · exact Bool.false_ne_true
      · exact Bool.false_ne_true

/-- What the family says of lengths is what is said at the places of a module, one after the
other. -/
theorem length_notices (m : Module) :
    (walk limits silent [] (m.tree.visits [])).filter ofLength =
      (m.tree.places []).filterMap fun place => (lenNotice place).map .ok := by
  have each : ∀ (visits : List Visit) (s : Scopes), (walk limits silent s visits).filter ofLength =
      (visits.filterMap Visit.arrival?).filterMap fun place => (lenNotice place).map .ok := by
    intro visits
    induction visits with
    | nil => exact fun s => rfl
    | cons visit rest ih =>
      intro s
      rw [walk, List.filter_append, ih]
      cases visit with
      | enter around node =>
        have arrives : (Visit.enter around node).arrival? = some (around, node) := rfl
        rw [arrival_lengths, List.filterMap_cons_some arrives, List.filterMap_cons]
        cases lenNotice (around, node) <;> rfl
      | leave around node => rw [departure_lengths, List.filterMap_cons_none rfl, List.nil_append]
  rw [each, visits_arrivals]

inductive Measured : List Node × Node → Expr → Expr → List CompareOp → List Expr → Prop
  | intro {span at_ comparison : Span} {usage : Usage} {args : List Expr}
      {keywords : List (Keyword Expr)} {left : Expr} {ops : List CompareOp}
      {comparators : List Expr}
      {farther : List Node} (zero : ∃ e ∈ comparators, isZero e = true) :
      Measured (.expr (.compare comparison left ops comparators) :: farther,
          .expr (.call span (.name at_ "len" usage) args keywords))
        (.call span (.name at_ "len" usage) args keywords) left ops comparators

theorem len_notice_iff (place : List Node × Node) (n : Notice) :
    lenNotice place = some n ↔
      ∃ call left ops comparators message suggestion, Measured place call left ops comparators ∧
        lenAdvice? ops = some (lenRule ops, message, suggestion) ∧
        n = (lenRule ops).notice call.span message suggestion := by
  constructor
  · intro told
    unfold lenNotice at told
    split at told
    · unfold lenComparison at told
      split at told
      · split at told
        · rename_i ops comparators farther
          split at told
          · rename_i zero
            rcases len_advice_cases ops with ⟨_, message, suggestion, advice, _⟩ | ⟨_, none⟩
            · rw [advice] at told
              cases told
              exact ⟨_, _, _, _, message, suggestion, .intro (List.any_eq_true.mp zero), advice,
                rfl⟩
            · rw [none] at told
              cases told
          · cases told
        · cases told
      · cases told
    · cases told
  · rintro ⟨_, _, ops, comparators, message, suggestion, ⟨zero⟩, advice, rfl⟩
    rw [lenNotice, lenComparison, if_pos (List.any_eq_true.mpr zero), advice]
    rfl

end Notices

section Judgement

variable {V : Type} (world : Comparing V)

/-- What is reported at a place, and what it is worth. There is a report if a length is compared
there in a chain that has a zero and a telling operator, unless a comment silences its rule. The
replacement that it suggests is right only if all other operands are literals, and then if for each
length the one chain of values agrees with it. In a comparison of a length with a zero it is right
unless the operator is `>=`, or is `>` and the zero is an imaginary number. -/
structure Advises (silent : Span → Rule → Bool) (place : List Node × Node)
    (report : Option Finding) : Prop where
  told : report.isSome = true ↔
    ∃ call left ops comparators, Measured place call left ops comparators ∧ Telling ops ∧
      onLine call.span = true ∧ silent call.span (lenRule ops) = false
  judged : ∀ f, report = some f →
    ∃ call left ops comparators, Measured place call left ops comparators ∧
      call ∈ left :: comparators ∧ f.spot = call.span.spot ∧ f.rule = (lenRule ops).code ∧
      f.suggestion.bind replacement? = some (lenReplacement ops) ∧
      ∀ before after, left :: comparators = before ++ call :: after →
        (Right world (lenReplacement ops) ops before after ↔
          ∀ n, ∃ values, world.slots before after n = values.map some ∧
            (world.chain ops values ↔ (lenReplacement ops).holds n)) ∧
        ∀ op at_ zero, ops = [op] → comparators = [.constant at_ zero] →
          (Right world (lenReplacement ops) ops before after ↔
            op ≠ .greaterEq ∧ (op = .greater → ∀ x, zero ≠ .imaginary x))

theorem measured_stands {place : List Node × Node} {call left : Expr} {ops : List CompareOp}
    {comparators : List Expr} (measured : Measured place call left ops comparators) :
    place.2.span? = some call.span := by
  cases measured
  rfl

theorem measured_operand {m : Module} {place : List Node × Node} {call left : Expr}
    {ops : List CompareOp} {comparators : List Expr} (inside : place ∈ m.tree.places [])
    (measured : Measured place call left ops comparators) : call ∈ left :: comparators := by
  cases measured
  exact operand_of_place inside

theorem measured_plain {place : List Node × Node} {call left : Expr} {op : CompareOp} {at_ : Span}
    {zero : Constant} (measured : Measured place call left [op] [.constant at_ zero])
    {before after : List Expr} (split : [left, .constant at_ zero] = before ++ call :: after) :
    before = [] ∧ after = [.constant at_ zero] ∧ zero.equals 0 = true := by
  cases measured with
  | intro found =>
    obtain ⟨e, member, isZero⟩ := found
    cases List.mem_singleton.mp member
    match before, split with
    | [], split =>
      cases split
      exact ⟨rfl, rfl, isZero⟩
    | [_], split => cases split
    | _ :: _ :: before, split => cases before <;> cases split

theorem place_advises {names : CharNames} {cs : List Char} {m : Module}
    (read : parse names cs = some m) {l : Listing} {file : String} {place : List Node × Node}
    (inside : place ∈ m.tree.places []) :
    Advises world (hushed l) place ((lenNotice place).bind (shown l file)) := by
  have known : place.2 ∈ m.tree.preorder := by
    rw [← places_preorder [] m.tree]
    exact List.mem_map_of_mem inside
  have heard : ∀ {call left ops comparators}, Measured place call left ops comparators →
      ∀ message suggestion,
        (shown l file ((lenRule ops).notice call.span message suggestion)).isSome = true ↔
          onLine call.span = true ∧ hushed l call.span (lenRule ops) = false :=
    fun measured => node_notice_shown_iff read l file known (measured_stands measured) _
  constructor
  · constructor
    · intro some_
      obtain ⟨f, made⟩ := Option.isSome_iff_exists.mp some_
      obtain ⟨n, noticed, made⟩ := Option.bind_eq_some_iff.mp made
      obtain ⟨call, left, ops, comparators, message, suggestion, measured, advice, rfl⟩ :=
        (len_notice_iff place n).mp noticed
      rcases len_advice_cases ops with ⟨telling, _⟩ | ⟨_, none⟩
      · exact ⟨call, left, ops, comparators, measured, telling,
          (heard measured message suggestion).mp (by rw [made]; rfl)⟩
      · cases none.symm.trans advice
    · rintro ⟨call, left, ops, comparators, measured, telling, fine⟩
      rcases len_advice_cases ops with ⟨_, message, suggestion, advice, _⟩ | ⟨mute, _⟩
      · rw [(len_notice_iff place _).mpr
          ⟨call, left, ops, comparators, message, suggestion, measured, advice, rfl⟩]
        exact (heard measured message suggestion).mpr fine
      · exact absurd telling mute
  · intro f made
    obtain ⟨n, noticed, made⟩ := Option.bind_eq_some_iff.mp made
    obtain ⟨call, left, ops, comparators, message, suggestion, measured, advice, rfl⟩ :=
      (len_notice_iff place n).mp noticed
    obtain ⟨sign, suggests⟩ := shown_alike made
    rcases len_advice_cases ops with ⟨telling, _, _, other, replaces⟩ | ⟨_, none⟩
    · cases other.symm.trans advice
      refine ⟨call, left, ops, comparators, measured,
        measured_operand inside measured, congrArg Sign.spot sign, congrArg Sign.rule sign,
        by rw [suggests]; exact replaces, ?_⟩
      intro before after split
      refine ⟨right_iff world _ _ _ _, ?_⟩
      rintro op at_ zero rfl rfl
      obtain ⟨rfl, rfl, isZero⟩ := measured_plain measured split
      exact right_plain_iff world telling at_ isZero
    · cases none.symm.trans advice

/--
What is reported of lengths compared with zero in a module that was read, and whether the advice is
right. Where the examination does not fail for a call that is too long, the reports are those of the
places, one after the other, and each is worth what `Advises` says.
-/
theorem length_advice_judged {names : CharNames} {cs : List Char} {m : Module}
    (read : parse names cs = some m) (settings : Settings) (sheet : Sheet) (outside : Bool) :
    (HoldsOverlong (hushed sheet.listing) m.tree →
      examine settings sheet outside m .performance = .error .hugeInteger) ∧
    (¬ HoldsOverlong (hushed sheet.listing) m.tree →
      ∃ (verdict : Verdict) (report : List Node × Node → Option Finding),
        examine settings sheet outside m .performance = .ok verdict ∧
        verdict.findings.filter (fun f => f.rule == "P005" || f.rule == "P006") =
          (m.tree.places []).filterMap report ∧
        ∀ place ∈ m.tree.places [], Advises world (hushed sheet.listing) place (report place)) := by
  refine ⟨overlong_fails read settings sheet outside, ?_⟩
  intro short
  obtain ⟨findings, published⟩ :=
    walk_findings read settings.performance sheet.listing sheet.file short
  have ofRules := sheet.listing.publish_all_filter sheet.file ofLength
    (fun f => f.rule == "P005" || f.rule == "P006")
    (fun n f made => congrArg (fun rule => rule == "P005" || rule == "P006")
      (congrArg Sign.rule (publish_sign made))) published
  rw [length_notices] at ofRules
  refine ⟨⟨findings, []⟩, fun place => (lenNotice place).bind (shown sheet.listing sheet.file), ?_,
    publish_all_shown _ _ ofRules, fun place inside => place_advises world read inside⟩
  rw [examine_walk, published]
  rfl

end Judgement

section Instances

def sameLiteral (v w : Constant) : Bool := if w.equals 0 then v.equals 0 else decide (v = w)

def literalTest : CompareOp → Constant → Constant → Option Bool
  | .eq, v, w => some (sameLiteral v w)
  | .notEq, v, w => some (!sameLiteral v w)
  | .greater, .int _, .imaginary _ | .greaterEq, .int _, .imaginary _ => none
  | .greater, .int k, w => if w.equals 0 then some (decide (0 < k)) else none
  | .greaterEq, .int k, w => if w.equals 0 then some (decide (0 ≤ k)) else none
  | _, _, _ => none

theorem same_literal_self (v : Constant) : sameLiteral v v = true := by
  cases zero : v.equals 0 <;> simp [sameLiteral, zero]

theorem same_literal_zero (n : Nat) {zero : Constant} (isZero : zero.equals 0 = true) :
    sameLiteral (.int n) zero = decide (n = 0) := by
  rw [sameLiteral, if_pos isZero, Constant.equals]
  by_cases none : n = 0 <;> simp [none]

def stranger (v : Constant) : Constant := if v = .none then .ellipsis else .none

theorem stranger_differs (v : Constant) :
    sameLiteral v (stranger v) = false ∧ sameLiteral (stranger v) v = false := by
  by_cases none : v = .none
  · subst none
    decide
  · have other : stranger v = .none := if_neg none
    rw [other]
    simp [sameLiteral, none, Ne.symm none, Constant.equals]

def numerals : Comparing Constant where
  literal c := c
  length n := .int n
  test := literalTest
  equal n zero isZero := congrArg some (same_literal_zero n isZero)
  unequal n zero isZero := by
    rw [literalTest, same_literal_zero n isZero]
    simp
  ordered n zero isZero real := by
    cases zero with
    | imaginary x => exact absurd rfl (real x)
    | _ => simp [literalTest, isZero]
  unordered n x := ⟨rfl, rfl⟩
  refutedRight op v _ := by
    cases op with
    | eq => exact ⟨stranger v, by simp [literalTest, stranger_differs]⟩
    | notEq => exact ⟨v, by simp [literalTest, same_literal_self]⟩
    | greater | greaterEq => exact ⟨.none, by cases v <;> simp [literalTest, Constant.equals]⟩
    | _ => exact ⟨.none, by simp [literalTest]⟩
  refutedLeft op w _ := by
    cases op with
    | eq => exact ⟨stranger w, by simp [literalTest, stranger_differs]⟩
    | notEq => exact ⟨w, by simp [literalTest, same_literal_self]⟩
    | _ => exact ⟨.none, by simp [literalTest]⟩

def comparesWithZero (op : CompareOp) : List Node × Node → Bool
  | (.expr (.compare _ _ ops [.constant _ zero]) :: _, .expr (.call span (.name _ "len" _) _ _)) =>
    decide (ops = [op] ∧ zero = .int 0) && onLine span
  | _ => false

theorem compared_with_zero {op : CompareOp} {place : List Node × Node}
    (holds : comparesWithZero op place = true) :
    ∃ call left at_, Measured place call left [op] [.constant at_ (.int 0)] ∧
      onLine call.span = true := by
  unfold comparesWithZero at holds
  split at holds
  · obtain ⟨shape, placed⟩ := (Bool.and_eq_true _ _).mp holds
    obtain ⟨rfl, rfl⟩ := of_decide_eq_true shape
    exact ⟨_, _, _, .intro ⟨_, List.mem_singleton_self _, rfl⟩, placed⟩
  · cases holds

def filledTest : List Char := "if len(a) > 0:\n    b()\n".toList

theorem measured_unique {place : List Node × Node} {call other left first : Expr}
    {ops more : List CompareOp} {comparators rest : List Expr}
    (one : Measured place call left ops comparators)
    (two : Measured place other first more rest) :
    other = call ∧ first = left ∧ more = ops ∧ rest = comparators := by
  cases one
  cases two
  exact ⟨rfl, rfl, rfl, rfl⟩

theorem length_advice_judged_filled :
    ∃ (m : Module) (verdict : Verdict) (f : Finding) (call : Expr) (at_ : Span),
      parse noNames filledTest = some m ∧
      examine {} ⟨"a.py", .ofList []⟩ false m .performance = .ok verdict ∧
      f ∈ verdict.findings ∧ f.rule = "P005" ∧
      f.suggestion.bind replacement? = some .container ∧ f.spot = call.span.spot ∧
      Right numerals .container [.greater] [] [.constant at_ (.int 0)] := by
  have spelled : (parse noNames filledTest).any (fun m =>
      (m.tree.places []).any (comparesWithZero .greater) &&
        (walk {} (hushed (.ofList [])) [] (m.tree.visits [])).all (!isError ·)) = true := by
    decide +kernel
  obtain ⟨m, parsed, holds⟩ := (Option.any_eq_true _ _).mp spelled
  obtain ⟨compared, quiet⟩ := (Bool.and_eq_true _ _).mp holds
  obtain ⟨place, inside, holds⟩ := List.any_eq_true.mp compared
  obtain ⟨call, left, at_, measured, placed⟩ := compared_with_zero holds
  obtain ⟨verdict, report, returned, reported, each⟩ :=
    (length_advice_judged numerals parsed {} ⟨"a.py", .ofList []⟩ false).2 (short_of_quiet quiet)
  obtain ⟨f, made⟩ := Option.isSome_iff_exists.mp ((each place inside).told.mpr
    ⟨call, left, _, _, measured, Or.inl List.mem_cons_self, placed,
      Listing.no_lines_silence_at _ _⟩)
  have listed : f ∈ (m.tree.places []).filterMap report :=
    List.mem_filterMap.mpr ⟨place, inside, made⟩
  rw [← reported] at listed
  obtain ⟨_, _, _, _, again, operand, spot, rule, suggests, judged⟩ :=
    (each place inside).judged f made
  obtain ⟨rfl, rfl, rfl, rfl⟩ := measured_unique measured again
  obtain ⟨before, after, split⟩ := List.append_of_mem operand
  obtain ⟨rfl, rfl, _⟩ := measured_plain again split
  exact ⟨m, verdict, f, _, at_, parsed, returned, List.mem_of_mem_filter listed, rule, suggests,
    spot, ((judged _ _ split).2 .greater at_ (.int 0) rfl rfl).mpr ⟨by decide, by simp⟩⟩

def vacuousTest : List Char := "if len(a) >= 0:\n    b()\n".toList

def advisedOn (suggestion : String) (m : Module) : Bool :=
  match m.body, examine {} ⟨"a.py", .ofList []⟩ false m .performance with
  | [.ifElse _ (.compare _ (.call _ (.name _ "len" _) _ _) ops [.constant _ zero]) _ _],
      .ok ⟨[f], _⟩ =>
    decide (ops = [.greaterEq] ∧ zero = .int 0) && f.suggestion == some suggestion
  | _, _ => false

/-- A length is compared with zero by `>=`, which is true of an empty container too, and it is
advised to test the container instead. -/
theorem length_advice_vacuous :
    ∃ m verdict f span at_ comparison place there usage args keywords body orelse,
      parse noNames vacuousTest = some m ∧
      m.body = [.ifElse span (.compare comparison
        (.call at_ (.name place "len" usage) args keywords)
        [.greaterEq] [.constant there (.int 0)]) body orelse] ∧
      examine {} ⟨"a.py", .ofList []⟩ false m .performance = .ok verdict ∧
      verdict.findings = [f] ∧ f.suggestion.bind replacement? = some .container ∧
      numerals.chain [.greaterEq] [numerals.length 0, numerals.literal (.int 0)] ∧
      ¬ Replacement.container.holds 0 := by
  have spelled : (parse noNames vacuousTest).any
      (advisedOn "Use 'if container:' instead of 'if len(container) > 0:'") = true := by
    decide +kernel
  obtain ⟨m, parsed, holds⟩ := (Option.any_eq_true _ _).mp spelled
  unfold advisedOn at holds
  split at holds
  · rename_i body examined
    obtain ⟨shape, suggests⟩ := (Bool.and_eq_true _ _).mp holds
    obtain ⟨rfl, rfl⟩ := of_decide_eq_true shape
    refine ⟨m, _, _, _, _, _, _, _, _, _, _, _, _, parsed, body, examined, rfl, ?_, ⟨rfl, trivial⟩,
      Nat.lt_irrefl 0⟩
    rw [beq_iff_eq.mp suggests]
    rfl
  · cases holds

end Instances

end Rules.Performance

end RefactorAdvice
