import RefactorAdvice.Proofs.LoopReports
import RefactorAdvice.Proofs.SilencingFilter

/-!
Loops that look up the key they iterate by. A loop over a dictionary that indexes the same
dictionary by its one name is told to iterate the items. The dictionary is known by a short name
alone: its name, or the last part of a dotted one, and what the body indexes has to be a plain name.
So over a plain name the report is right both ways. Over a dotted one it is about another
dictionary, the one whose plain name is the last part.
-/

namespace RefactorAdvice.Rules.DictOperations

open Code
open Performance (isOf)
open Loops (Concerns concerns_filter pickAt PicksOwn PickedReports picked_reports)

section Sameness

def trait : Node → Mark
  | .expr (.attribute _ _ attr _) => .of ["attribute", attr] []
  | .expr (.subscript ..) => .of ["subscript"] []
  | .expr (.starred ..) => .of ["starred"] []
  | .expr (.name _ id _) => .of ["name", id] []
  | .expr (.list _ elements _) => .of ["list"] [elements.length]
  | .expr (.tuple _ elements _) => .of ["tuple"] [elements.length]
  | node => node.mark

/-- Two expressions agree in everything but position and use. -/
def SameExpr (e other : Expr) : Prop := e.tree.preorder.map trait = other.tree.preorder.map trait

instance (e other : Expr) : Decidable (SameExpr e other) := inferInstanceAs (Decidable (_ = _))

def IsName (id : String) (e : Expr) : Prop := ∃ span usage, e = .name span id usage

theorem same_name_iff (span : Span) (id : String) (usage : Usage) (e : Expr) :
    SameExpr (.name span id usage) e ↔ IsName id e := by
  constructor
  · intro same
    have root : trait (.expr e) = .of ["name", id] [] := by
      obtain ⟨branches, whole⟩ : ∃ branches, e.tree = .node (.expr e) branches := by
        cases e <;> exact ⟨_, rfl⟩
      rw [SameExpr, whole] at same
      exact (List.cons.inj same).1.symm
    cases e with
    | name place other use =>
      cases root
      exact ⟨place, use, rfl⟩
    | _ => simp [trait, Node.mark, Expr.mark, Mark.of] at root
  · rintro ⟨_, _, rfl⟩
    rfl

theorem attribute_not_name {span : Span} {value : Expr} {attr id : String} {usage : Usage}
    {e : Expr} (same : SameExpr (.attribute span value attr usage) e) : ¬ IsName id e := by
  rintro ⟨_, _, rfl⟩
  have root := (List.cons.inj same).1
  simp [trait, Mark.of] at root

end Sameness

section Lookups

def indexed? (key : String) : Node → Option Expr
  | .expr (.subscript _ e (.name _ id _) _) => if id = key then some e else none
  | _ => none

def LooksUp (object : Expr → Prop) (key : String) (body : List Stmt) : Prop :=
  ∃ e ∈ (preorders (stmtTrees body)).filterMap (indexed? key), object e

instance (object : Expr → Prop) [DecidablePred object] (key : String) (body : List Stmt) :
    Decidable (LooksUp object key body) := List.decidableBEx object _

theorem is_lookup_iff (dict key : String) (node : Node) :
    isLookup dict key node = true ↔ ∃ e, indexed? key node = some e ∧ IsName dict e := by
  unfold isLookup indexed?
  split
  · simp only [Bool.and_eq_true, beq_iff_eq, Option.ite_none_right_eq_some, Option.some.injEq]
    constructor
    · rintro ⟨rfl, rfl⟩
      exact ⟨_, ⟨rfl, rfl⟩, _, _, rfl⟩
    · rintro ⟨_, ⟨rfl, rfl⟩, _, _, same⟩
      cases same
      exact ⟨rfl, rfl⟩
  · rename_i other
    refine iff_of_false Bool.false_ne_true ?_
    rintro ⟨e, indexes, _, _, rfl⟩
    split at indexes
    · split at indexes
      · cases indexes
        exact other _ _ _ _ _ _ _ _ rfl
      · cases indexes
    · cases indexes

theorem any_lookup_iff (dict key : String) (body : List Stmt) :
    (preorders (stmtTrees body)).any (isLookup dict key) = true ↔
      LooksUp (IsName dict) key body := by
  simp only [List.any_eq_true, is_lookup_iff, LooksUp, List.mem_filterMap]
  constructor
  · rintro ⟨node, listed, e, indexes, named⟩
    exact ⟨e, ⟨node, listed, indexes⟩, named⟩
  · rintro ⟨e, ⟨node, listed, indexes⟩, named⟩
    exact ⟨node, listed, e, indexes, named⟩

def items : Stmt → Option Notice
  | .forLoop span false target iter body _ => itemsInstead span target iter body
  | _ => none

theorem items_iff {span place : Span} {key dict : String} {usage : Usage} {iter : Expr}
    {body orelse : List Stmt} (short : shortName? iter = some dict) :
    (items (.forLoop span false (.name place key usage) iter body orelse)).isSome = true ↔
      LooksUp (IsName dict) key body := by
  simp only [items, itemsInstead, short, ← any_lookup_iff]
  split <;> simp_all

end Lookups

section Sayings

def Unwritten (s : Stmt) (failure : Failure) : Prop :=
  ∃ found, Lookup.of? s = some found ∧ found.default.render = .error failure

theorem lookup_cases {s : Stmt} {given : Except Failure Notice} (told : lookup s = some given) :
    (∃ failure, given = .error failure ∧ Unwritten s failure) ∨
      ∃ n, given = .ok n ∧ Concerns s.span .lookupWithDefault (some n) := by
  obtain ⟨found, is, rfl⟩ := Option.map_eq_some_iff.mp told
  cases written : found.default.render with
  | error failure => exact Or.inl ⟨failure, rfl, found, is, written⟩
  | ok default =>
    refine Or.inr ⟨_, rfl, ?_⟩
    rintro _ ⟨⟩
    exact ⟨_, _, rfl⟩

theorem unwritten_noticed {s : Stmt} {failure : Failure} (stuck : Unwritten s failure) :
    .error failure ∈ check (.stmt s) := by
  obtain ⟨found, is, failed⟩ := stuck
  have told : lookup s = some (.error failure) := by
    rw [lookup, is, Option.map_some, failed]
    rfl
  unfold Lookup.of? at is
  split at is
  · rw [check, told]
    exact List.mem_singleton_self _
  · cases is

theorem membership_concerns (e : Expr) : Concerns e.span .needlessKeys (keysMembership e) := by
  intro n told
  unfold keysMembership at told
  split at told
  · obtain ⟨dict, _, rfl⟩ := Option.map_eq_some_iff.mp told
    exact ⟨_, _, rfl⟩
  · cases told

theorem iteration_concerns (span : Span) (target iter : Expr) :
    Concerns span .needlessKeys (keysIteration span target iter) := by
  intro n told
  obtain ⟨dict, _, rfl⟩ := Option.map_eq_some_iff.mp told
  exact ⟨_, _, rfl⟩

theorem items_concerns (span : Span) (target iter : Expr) (body : List Stmt) :
    Concerns span .itemsInstead (itemsInstead span target iter body) := by
  intro n told
  unfold itemsInstead at told
  split at told
  · split at told
    · cases told
      exact ⟨_, _, rfl⟩
    · cases told
  · cases told

theorem pairs_concerns (e : Expr) : Concerns e.span .dictOfPairs (pairs e) := by
  intro n told
  unfold pairs at told
  split at told
  · cases told
    exact ⟨_, _, rfl⟩
  · cases told

/-- A node says what stands at its own place; a lookup alone may fail. -/
theorem check_cases {node : Node} {given : Except Failure Notice} (told : given ∈ check node) :
    (∃ s, node = .stmt s ∧ lookup s = some given) ∨
      ∃ span rule n, node.span? = some span ∧ given = .ok n ∧
        rule.code ≠ Rule.lookupWithDefault.code ∧ Concerns span rule (some n) := by
  have concerned : ∀ {span : Span} {rule : Rule} {found : Option Notice}, Concerns span rule found →
      rule.code ≠ Rule.lookupWithDefault.code → node.span? = some span →
      given ∈ found.toList.map .ok →
      ∃ span rule n, node.span? = some span ∧ given = .ok n ∧
        rule.code ≠ Rule.lookupWithDefault.code ∧ Concerns span rule (some n) := by
    intro span rule found about other place member
    cases found with
    | none => cases member
    | some n => exact ⟨span, rule, n, place, List.mem_singleton.mp member, other, about⟩
  unfold check at told
  split at told
  · exact Or.inl ⟨_, rfl, Option.mem_toList.mp told⟩
  · rw [List.map_append] at told
    rcases List.mem_append.mp told with first | second
    · exact Or.inr (concerned (iteration_concerns _ _ _) (by decide) rfl first)
    · exact Or.inr (concerned (items_concerns _ _ _ _) (by decide) rfl second)
  · rw [Option.toList_map] at told
    exact Or.inr (concerned (membership_concerns _) (by decide) rfl told)
  · rw [Option.toList_map] at told
    exact Or.inr (concerned (pairs_concerns _) (by decide) rfl told)
  · cases told

theorem check_at_nodes : AtNodes check := by
  intro node n told
  have concerned : ∃ span rule, node.span? = some span ∧ Concerns span rule (some n) := by
    rcases check_cases told with ⟨s, rfl, looked⟩ | ⟨span, rule, _, place, same, _, about⟩
    · rcases lookup_cases looked with ⟨_, same, _⟩ | ⟨_, same, about⟩
      · cases same
      · cases same
        exact ⟨s.span, _, rfl, about⟩
    · cases same
      exact ⟨span, rule, place, about⟩
  obtain ⟨span, rule, place, about⟩ := concerned
  obtain ⟨message, suggestion, rfl⟩ := about n rfl
  exact ⟨span, place, rule, message, suggestion, rfl⟩

theorem items_own : PicksOwn .itemsInstead items := by
  intro s n picked
  unfold items at picked
  split at picked
  · obtain ⟨_, _, rfl⟩ := items_concerns _ _ _ _ n picked
    exact ⟨rfl, rfl, rfl⟩
  · cases picked

/-- The notices of the rule are those that the loops are given. -/
theorem items_sole (node : Node) :
    (check node).filter (isOf .itemsInstead) = (pickAt items node).toList.map .ok := by
  unfold check
  split
  · cases told : lookup _ with
    | none => rfl
    | some given =>
      rcases lookup_cases told with ⟨_, rfl, _⟩ | ⟨n, rfl, about⟩
      · rfl
      · exact concerns_filter about .itemsInstead
  · rw [List.map_append, List.filter_append, concerns_filter (iteration_concerns _ _ _),
      concerns_filter (items_concerns _ _ _ _)]
    rfl
  · rw [Option.toList_map, concerns_filter (membership_concerns _)]
    rfl
  · rw [Option.toList_map, concerns_filter (pairs_concerns _)]
    rfl
  · rename_i others _ _
    cases node with
    | stmt s =>
      have none : items s = none := by
        unfold items
        split
        · exact (others _ _ _ _ _ rfl).elim
        · rfl
      rw [pickAt, none]
      rfl
    | _ => rfl

end Sayings

section Reports

variable {names : CharNames} {cs : List Char} {m : Module} (read : parse names cs = some m)
  (settings : Settings) (sheet : Sheet) (outside : Bool)

include read

theorem dictionaries_examined :
    (∃ s failure, .stmt s ∈ m.tree.preorder ∧ Unwritten s failure ∧
      examine settings sheet outside m .dictOperations = .error failure) ∨
    (¬ ∃ s failure, .stmt s ∈ m.tree.preorder ∧ Unwritten s failure) ∧
      ∃ verdict, examine settings sheet outside m .dictOperations = .ok verdict ∧
        PickedReports sheet.listing sheet.file m .itemsInstead items verdict.findings := by
  rcases examination_ends read .dictOperations check_at_nodes settings sheet outside (by decide)
    rfl with ⟨node, listed, failure, failing, failed⟩ | ⟨sound, verdict, examined, published⟩
  · rcases check_cases failing with ⟨s, rfl, looked⟩ | ⟨_, _, _, _, same, _⟩
    · rcases lookup_cases looked with ⟨_, same, stuck⟩ | ⟨_, same, _⟩
      · cases same
        exact Or.inl ⟨s, failure, listed, stuck, failed⟩
      · cases same
    · cases same
  · refine Or.inr ⟨?_, verdict, examined, picked_reports read items_own items_sole published⟩
    rintro ⟨s, failure, listed, stuck⟩
    exact sound _ listed failure (unwritten_noticed stuck)

/--
In a module that was read, the loops that are told to iterate items have one report each unless a
comment silences it, and no other statement has one; where a default that stands for a missing key
cannot be written out, the examination fails. A loop by one name over a plain name is told so
exactly if its body indexes the same expression by that name. A loop over a dotted name is told so
exactly if its body indexes the plain name that is the last part, and that is never the same
expression.
-/
theorem iterated_lookups_reported :
    ((∃ s failure, .stmt s ∈ m.tree.preorder ∧ Unwritten s failure) →
      ∃ s failure, .stmt s ∈ m.tree.preorder ∧ Unwritten s failure ∧
        examine settings sheet outside m .dictOperations = .error failure) ∧
    ((¬ ∃ s failure, .stmt s ∈ m.tree.preorder ∧ Unwritten s failure) →
      ∃ verdict, examine settings sheet outside m .dictOperations = .ok verdict ∧
        PickedReports sheet.listing sheet.file m .itemsInstead items verdict.findings) ∧
    ∀ span place key usage iter body orelse,
      let told := (items
        (.forLoop span false (.name place key usage) iter body orelse)).isSome = true
      (∀ id, IsName id iter → (told ↔ LooksUp (SameExpr iter) key body)) ∧
      ∀ at_ value attr use, iter = .attribute at_ value attr use →
        (told ↔ LooksUp (IsName attr) key body) ∧ ∀ e, SameExpr iter e → ¬ IsName attr e := by
  have ends := dictionaries_examined read settings sheet outside
  refine ⟨fun stuck => ?_, fun sound => ?_, ?_⟩
  · exact ends.resolve_right fun found => found.1 stuck
  · rcases ends with ⟨s, failure, listed, stuck, _⟩ | found
    · exact absurd ⟨s, failure, listed, stuck⟩ sound
    · exact found.2
  · intro span place key usage iter body orelse
    constructor
    · rintro id ⟨at_, use, rfl⟩
      rw [items_iff rfl, show SameExpr (.name at_ id use) = IsName id from
        funext fun e => propext (same_name_iff at_ id use e)]
    · rintro at_ value attr use rfl
      exact ⟨items_iff rfl, fun e same => attribute_not_name same⟩

end Reports

section Instances

/-- Whether a node is a loop that is told to iterate items, and whose body indexes what it iterates
or does not. -/
def tells (same : Bool) : Node → Bool
  | .stmt s@(.forLoop _ false (.name _ key _) iter body _) =>
    (items s).isSome && decide (LooksUp (SameExpr iter) key body) == same
  | _ => false

theorem told_loop (text : List Char) (same : Bool)
    (spelled : (parse noNames text).any (fun m => m.tree.preorder.any (tells same) &&
      (notices m).all (!Performance.isError ·)) = true) :
    ∃ m span place key usage iter body orelse n, parse noNames text = some m ∧
      (¬ ∃ s failure, .stmt s ∈ m.tree.preorder ∧ Unwritten s failure) ∧
      .stmt (.forLoop span false (.name place key usage) iter body orelse) ∈ m.tree.preorder ∧
      items (.forLoop span false (.name place key usage) iter body orelse) = some n ∧
      decide (LooksUp (SameExpr iter) key body) = same := by
  obtain ⟨m, parsed, holds⟩ := (Option.any_eq_true _ _).mp spelled
  obtain ⟨among, quiet⟩ := (Bool.and_eq_true _ _).mp holds
  obtain ⟨node, listed, there⟩ := List.any_eq_true.mp among
  unfold tells at there
  split at there
  · obtain ⟨told, indexes⟩ := (Bool.and_eq_true _ _).mp there
    obtain ⟨n, given⟩ := Option.isSome_iff_exists.mp told
    refine ⟨m, _, _, _, _, _, _, _, n, parsed, ?_, listed, given, beq_iff_eq.mp indexes⟩
    rintro ⟨s, failure, inside, stuck⟩
    cases List.all_eq_true.mp quiet _ (List.mem_flatMap.mpr ⟨_, inside, unwritten_noticed stuck⟩)
  · cases there

def plainLookup : List Char := "for a in b:\n    b[a]\n".toList

theorem iterated_lookups_reported_plain :
    ∃ m verdict span place key usage iter body orelse f, parse noNames plainLookup = some m ∧
      examine {} ⟨"a.py", .ofList []⟩ false m .dictOperations = .ok verdict ∧
      .stmt (.forLoop span false (.name place key usage) iter body orelse) ∈ m.tree.preorder ∧
      LooksUp (SameExpr iter) key body ∧
      verdict.findings.filter (fun f => f.rule = "R007" ∧ f.spot = span.spot) = [f] := by
  obtain ⟨m, span, place, key, usage, iter, body, orelse, n, parsed, sound, listed, told, same⟩ :=
    told_loop plainLookup true (by decide +kernel)
  obtain ⟨verdict, examined, reports⟩ :=
    (iterated_lookups_reported parsed {} ⟨"a.py", .ofList []⟩ false).2.1 sound
  obtain ⟨f, _, alone, _⟩ := reports.told _ n listed told (Listing.no_lines_silence_at _ _)
  exact ⟨m, verdict, span, place, key, usage, iter, body, orelse, f, parsed, examined, listed,
    of_decide_eq_true same, alone⟩

def dottedLookup : List Char := "for a in b.c:\n    c[a]\n".toList

/-- A loop is reported whose body does not index what it iterates. -/
theorem other_dictionary_reported :
    ∃ m verdict span place key usage iter body orelse f, parse noNames dottedLookup = some m ∧
      examine {} ⟨"a.py", .ofList []⟩ false m .dictOperations = .ok verdict ∧
      .stmt (.forLoop span false (.name place key usage) iter body orelse) ∈ m.tree.preorder ∧
      ¬ LooksUp (SameExpr iter) key body ∧
      verdict.findings.filter (fun f => f.rule = "R007" ∧ f.spot = span.spot) = [f] := by
  obtain ⟨m, span, place, key, usage, iter, body, orelse, n, parsed, sound, listed, told, other⟩ :=
    told_loop dottedLookup false (by decide +kernel)
  rcases dictionaries_examined parsed {} ⟨"a.py", .ofList []⟩ false with
    ⟨s, failure, inside, stuck, _⟩ | ⟨_, verdict, examined, reports⟩
  · exact absurd ⟨s, failure, inside, stuck⟩ sound
  · obtain ⟨f, _, alone, _⟩ := reports.told _ n listed told (Listing.no_lines_silence_at _ _)
    exact ⟨m, verdict, span, place, key, usage, iter, body, orelse, f, parsed, examined, listed,
      of_decide_eq_false other, alone⟩

end Instances

end RefactorAdvice.Rules.DictOperations
