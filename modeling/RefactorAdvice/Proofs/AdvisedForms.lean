import RefactorAdvice.Proofs.IteratedLookups

/-!
What advised forms mean. Four rules advise to write one form in place of another: a lookup with a
default, a membership test, a chained comparison, a check against several types. A world says what
expressions are worth and what is done with values; in every world the advised form and the one it
stands for agree, wherever the operands have values. A check of types is the exception: it may be
written with starred arguments, and these are not kept apart by the advised form.
-/

namespace RefactorAdvice.Rules

open Code

section Worlds

/-- Values and what is done with them. What fails has no value. -/
structure World where
  Value : Type
  /-- What an expression is worth where names stand for values. -/
  value : (String → Option Value) → Expr → Option Value
  truth : Value → Bool
  ofBool : Bool → Value
  tuple : List Value → Value
  /-- The values that a starred one stands for. -/
  unpack : Value → Option (List Value)
  /-- The entries of a finite map. -/
  entries : Value → Option (List (Value × Value))
  same : Value → Value → Bool
  equal : Value → Value → Bool
  compare : CompareOp → Value → Value → Option Value
  isInstance : Value → Value → Option Value
  named : ∀ env span id usage, value env (.name span id usage) = env id
  unstarred : ∀ env span e usage, value env (.starred span e usage) = none
  alike : ∀ env e other marks, e.signature = .ok marks → other.signature = .ok marks →
    value env e = value env other
  truth_of_bool : ∀ b, truth (ofBool b) = b
  equal_refl : ∀ x, equal x x = true
  eq_of_same : ∀ x y, same x y = true → x = y
  compare_eq : ∀ x y, compare .eq x y = some (ofBool (equal x y))
  in_tuple : ∀ x vs, compare .member x (tuple vs) =
    some (ofBool (vs.any fun v => same x v || equal x v))
  in_map : ∀ x d es, entries d = some es → compare .member x d =
    some (ofBool (es.any fun entry => equal entry.1 x))
  of_types : ∀ x ts answers, ts.mapM (isInstance x) = some answers →
    isInstance x (tuple ts) = some (ofBool (answers.any truth))

namespace World

variable (w : World)

abbrev Env : Type := String → Option w.Value

variable {w} (env : w.Env)

def Env.set (id : String) (x : w.Value) : w.Env :=
  fun other => if other = id then some x else env other

def spread : List Expr → Option (List w.Value)
  | [] => some []
  | .starred _ e _ :: rest => do return (← w.unpack (← w.value env e)) ++ (← spread rest)
  | e :: rest => do return (← w.value env e) :: (← spread rest)

def chain (x : w.Value) : List (CompareOp × Expr) → Option w.Value
  | [] => none
  | [(op, e)] => do w.compare op x (← w.value env e)
  | (op, e) :: rest => do
    let y ← w.value env e
    let held ← w.compare op x y
    if w.truth held then chain y rest else return held

def keywordless (keywords : List (Keyword Expr)) : Bool :=
  keywords.all fun k => k.name.isNone && ((w.value env k.value).bind w.entries).any (·.isEmpty)

def instanceCall : List w.Value → Option w.Value
  | [x, type] => w.isInstance x type
  | _ => none

def test : Expr → Option w.Value
  | .compare _ left ops comparators => do chain env (← w.value env left) (ops.zip comparators)
  | .call _ (.name _ "isinstance" _) args keywords =>
    if keywordless env keywords then (spread env args).bind instanceCall else none
  | e => w.value env e

def either : List Expr → Option w.Value
  | [] => none
  | [e] => test env e
  | e :: rest => do
    let held ← test env e
    if w.truth held then return held else either rest

def both : List Expr → Option w.Value
  | [] => none
  | [e] => test env e
  | e :: rest => do
    let held ← test env e
    if w.truth held then both rest else return held

def find (es : List (w.Value × w.Value)) (x : w.Value) : Option w.Value :=
  (es.find? fun entry => w.equal entry.1 x).map (·.2)

def fetch : Expr → Option w.Value
  | .subscript _ object index _ => do
    find (← w.entries (← w.value env object)) (← w.value env index)
  | e => w.value env e

def assign : Stmt → Option w.Env
  | .assign _ [.name _ id _] e => (fetch env e).map (env.set id)
  | _ => none

def run : Stmt → Option w.Env
  | .ifElse _ condition [one] [other] => do
    if w.truth (← test env condition) then assign env one else assign env other
  | s => assign env s

end World

end Worlds

section Forms

/-- A form that is advised, with its operands. -/
inductive Advised where
  | lookup (var dict key : String) (default : Expr)
  | membership (left : Expr) (items : List Expr)
  | chained (left : Expr) (op : CompareOp) (mid : Expr) (next : CompareOp) (right : Expr)
  | instances (object : Expr) (types : List Expr)

namespace Advised

def text : Advised → Except Failure String
  | .lookup var dict key default => do
    let default ← default.render
    return s!"{var} = {dict}.get({key}, {default})"
  | .membership left items => do
    let left ← left.render
    let items := ", ".intercalate (← items.mapM Expr.render)
    return s!"{left} in ({items})"
  | .chained left op mid next right => do
    let left ← left.render
    let mid ← mid.render
    let right ← right.render
    return s!"{left} {op.symbol} {mid} {next.symbol} {right}"
  | .instances object types => do
    let object ← object.render
    let types := ", ".intercalate (← types.mapM Expr.render)
    return s!"isinstance({object}, ({types}))"

variable {w : World} (env : w.Env)

def value : Advised → Option w.Value
  | .membership left items => do
    w.compare .member (← w.value env left) (w.tuple (← World.spread env items))
  | .chained left op mid next right => do
    World.chain env (← w.value env left) [(op, mid), (next, right)]
  | .instances object types => do
    World.instanceCall ((← World.spread env [object]) ++ [w.tuple (← World.spread env types)])
  | .lookup .. => none

def run : Advised → Option w.Env
  | .lookup var dict key default => do
    let es ← w.entries (← env dict)
    let x ← env key
    let other ← World.fetch env default
    return env.set var ((World.find es x).getD other)
  | _ => none

end Advised

end Forms

section Agreement

variable {α β : Type}

theorem map_some_iff (f : α → Option β) (xs : List α) (ys : List β) :
    xs.mapM f = some ys ↔ List.Forall₂ (fun x y => f x = some y) xs ys := by
  induction xs generalizing ys with
  | nil =>
    rw [List.mapM_nil, List.forall₂_nil_left_iff]
    exact ⟨fun same => (Option.some.inj same).symm, fun same => congrArg some same.symm⟩
  | cons x rest ih =>
    rw [List.mapM_cons, List.forall₂_cons_left_iff]
    constructor
    · intro mapped
      obtain ⟨y, first, mapped⟩ := Option.bind_eq_some_iff.mp mapped
      obtain ⟨others, later, same⟩ := Option.bind_eq_some_iff.mp mapped
      exact ⟨y, others, first, (ih others).mp later, (Option.some.inj same).symm⟩
    · rintro ⟨y, others, first, later, rfl⟩
      rw [first, (ih others).mpr later]
      rfl

theorem answers_exist {f : α → Option β} {xs : List α} (each : ∀ x ∈ xs, (f x).isSome = true) :
    ∃ ys, List.Forall₂ (fun x y => f x = some y) xs ys := by
  induction xs with
  | nil => exact ⟨[], .nil⟩
  | cons x rest ih =>
    obtain ⟨y, first⟩ := Option.isSome_iff_exists.mp (each x List.mem_cons_self)
    obtain ⟨ys, later⟩ := ih fun z member => each z (List.mem_cons_of_mem x member)
    exact ⟨y :: ys, .cons first later⟩

namespace World

variable {w : World} {env : w.Env}

theorem spread_values {es : List Expr} {vs : List w.Value}
    (each : List.Forall₂ (fun e v => w.value env e = some v) es vs) : spread env es = some vs := by
  induction each with
  | nil => rfl
  | @cons e v es vs first _ ih =>
    unfold spread
    split
    · rename_i same
      cases same
    · rename_i inner _ _ same
      cases same
      cases (w.unstarred ..).symm.trans first
    · rename_i same
      cases same
      rw [first, ih]
      rfl

theorem either_truth {values : List Expr} {answers : List w.Value}
    (held : List.Forall₂ (fun e a => test env e = some a) values answers) (filled : values ≠ []) :
    (either env values).map w.truth = some (answers.any w.truth) := by
  induction held with
  | nil => exact absurd rfl filled
  | @cons e a values answers first later ih =>
    cases later with
    | nil => simp [either, first]
    | cons second others =>
      have rest := ih (List.cons_ne_nil _ _)
      rw [either, first]
      by_cases true_ : w.truth a = true
      · simp [true_]
      · simpa [true_] using rest
      · simp

open Comparisons (equality? instanceCheck?)

theorem equality_test {e left : Expr} {others : List Expr} {a : w.Value}
    (is : equality? e = some (left, others)) (held : test env e = some a) :
    ∃ x c v, w.value env left = some x ∧ others = [c] ∧ w.value env c = some v ∧
      a = w.ofBool (w.equal x v) := by
  unfold equality? at is
  split at is
  · rename_i comparators
    cases is
    obtain ⟨x, first, held⟩ := Option.bind_eq_some_iff.mp held
    cases comparators with
    | nil => cases held
    | cons c more =>
      obtain ⟨v, second, held⟩ := Option.bind_eq_some_iff.mp held
      rw [w.compare_eq] at held
      exact ⟨x, c, v, first, rfl, second, (Option.some.inj held).symm⟩
  · cases is

theorem equalities_held {values : List Expr} {sides : List (Expr × List Expr)}
    {answers : List w.Value} {x : w.Value}
    (are : List.Forall₂ (fun e side => equality? e = some side) values sides)
    (held : List.Forall₂ (fun e a => test env e = some a) values answers)
    (lefts : ∀ side ∈ sides, w.value env side.1 = some x) :
    ∃ vs, List.Forall₂ (fun c v => w.value env c = some v) (sides.flatMap (·.2)) vs ∧
      answers.any w.truth = vs.any (w.equal x) := by
  induction are generalizing answers with
  | nil =>
    cases held
    exact ⟨[], .nil, rfl⟩
  | @cons e side values sides is _ ih =>
    cases held with
    | cons first later =>
      obtain ⟨left, others⟩ := side
      obtain ⟨y, c, v, worth, rfl, second, rfl⟩ := equality_test is first
      cases (lefts _ List.mem_cons_self).symm.trans worth
      obtain ⟨vs, each, same⟩ := ih later fun side member =>
        lefts side (List.mem_cons_of_mem _ member)
      refine ⟨v :: vs, .cons second each, ?_⟩
      rw [List.any_cons, List.any_cons, w.truth_of_bool, same]

/-- Identical values are equal, so a membership test asks for equality alone. -/
theorem in_tuple_truth (x : w.Value) (vs : List w.Value) :
    (w.compare .member x (w.tuple vs)).map w.truth = some (vs.any (w.equal x)) := by
  have alone : (fun v => w.same x v || w.equal x v) = w.equal x := by
    funext v
    by_cases identical : w.same x v = true
    · rw [← w.eq_of_same x v identical, w.equal_refl, Bool.or_true]
    · rw [Bool.eq_false_iff.mpr identical, Bool.false_or]
  rw [w.in_tuple, alone, Option.map_some, w.truth_of_bool]

theorem membership_agrees {values : List Expr} {left : Expr} {others : List Expr}
    {sides : List (Expr × List Expr)} {marks : List Mark}
    (are : values.mapM equality? = some ((left, others) :: sides))
    (alike : ∀ side ∈ (left, others) :: sides, side.1.signature = .ok marks)
    (each : ∀ e ∈ values, (test env e).isSome = true) :
    (either env values).map w.truth =
      ((Advised.membership left (((left, others) :: sides).flatMap (·.2))).value env).map
        w.truth := by
  rw [map_some_iff] at are
  obtain ⟨answers, held⟩ := answers_exist each
  cases are with
  | @cons e _ values _ is more =>
    cases held with
    | @cons _ a _ answers first later =>
      obtain ⟨x, _, _, worth, _⟩ := equality_test is first
      have lefts : ∀ side ∈ (left, others) :: sides, w.value env side.1 = some x := by
        intro side member
        rw [← worth]
        exact w.alike env _ _ marks (alike side member) (alike _ List.mem_cons_self)
      obtain ⟨vs, items, same⟩ := equalities_held (.cons is more) (.cons first later) lefts
      rw [either_truth (.cons first later) (List.cons_ne_nil _ _), same, Advised.value, worth,
        spread_values items]
      exact (in_tuple_truth x vs).symm

def Unstarred (e : Expr) : Prop := ∀ span inner usage, e ≠ .starred span inner usage

theorem spread_cons {e : Expr} (plain : Unstarred e) (rest : List Expr) :
    spread env (e :: rest) = do return (← w.value env e) :: (← spread env rest) := by
  cases e with
  | starred span inner usage => exact absurd rfl (plain span inner usage)
  | _ => rfl

theorem instance_test {e object type : Expr} {a : w.Value}
    (is : instanceCheck? e = some (object, type)) (held : test env e = some a)
    (plain : Unstarred object) (bare : Unstarred type) :
    ∃ x t, w.value env object = some x ∧ w.value env type = some t ∧ w.isInstance x t = some a := by
  unfold instanceCheck? at is
  split at is
  · cases is
    rw [test] at held
    split at held
    · obtain ⟨given, spreads, called⟩ := Option.bind_eq_some_iff.mp held
      rw [spread_cons plain] at spreads
      obtain ⟨x, first, spreads⟩ := Option.bind_eq_some_iff.mp spreads
      obtain ⟨more, second, same⟩ := Option.bind_eq_some_iff.mp spreads
      rw [spread_cons bare] at second
      obtain ⟨t, typed, second⟩ := Option.bind_eq_some_iff.mp second
      obtain ⟨rest, _, others⟩ := Option.bind_eq_some_iff.mp second
      cases same
      cases others
      cases rest with
      | nil => exact ⟨x, t, first, typed, called⟩
      | cons => cases called
    · cases held
  · cases is

theorem checks_held {values : List Expr} {checks : List (Expr × Expr)} {answers : List w.Value}
    {x : w.Value} (are : List.Forall₂ (fun e check => instanceCheck? e = some check) values checks)
    (held : List.Forall₂ (fun e a => test env e = some a) values answers)
    (plain : ∀ check ∈ checks, Unstarred check.1 ∧ Unstarred check.2)
    (objects : ∀ check ∈ checks, w.value env check.1 = some x) :
    ∃ ts, List.Forall₂ (fun c t => w.value env c = some t) (checks.map (·.2)) ts ∧
      List.Forall₂ (fun t a => w.isInstance x t = some a) ts answers := by
  induction are generalizing answers with
  | nil =>
    cases held
    exact ⟨[], .nil, .nil⟩
  | @cons e check values checks is _ ih =>
    cases held with
    | cons first later =>
      obtain ⟨bare, stripped⟩ := plain check List.mem_cons_self
      obtain ⟨y, t, worth, type, answer⟩ := instance_test is first bare stripped
      cases (objects check List.mem_cons_self).symm.trans worth
      obtain ⟨ts, types, each⟩ := ih later
        (fun check member => plain check (List.mem_cons_of_mem _ member))
        fun check member => objects check (List.mem_cons_of_mem _ member)
      exact ⟨t :: ts, .cons type types, .cons answer each⟩

theorem instances_agree {values : List Expr} {object type : Expr} {checks : List (Expr × Expr)}
    {marks : List Mark} (are : values.mapM instanceCheck? = some ((object, type) :: checks))
    (alike : ∀ check ∈ (object, type) :: checks, check.1.signature = .ok marks)
    (each : ∀ e ∈ values, (test env e).isSome = true)
    (plain : ∀ check ∈ (object, type) :: checks, Unstarred check.1 ∧ Unstarred check.2) :
    (either env values).map w.truth =
      ((Advised.instances object (((object, type) :: checks).map (·.2))).value env).map
        w.truth := by
  rw [map_some_iff] at are
  obtain ⟨answers, held⟩ := answers_exist each
  cases are with
  | @cons e _ values _ is more =>
    cases held with
    | @cons _ a _ answers first later =>
      obtain ⟨bare, stripped⟩ := plain _ List.mem_cons_self
      obtain ⟨x, _, worth, _⟩ := instance_test is first bare stripped
      have objects : ∀ check ∈ (object, type) :: checks, w.value env check.1 = some x := by
        intro check member
        rw [← worth]
        exact w.alike env _ _ marks (alike check member) (alike _ List.mem_cons_self)
      obtain ⟨ts, types, answered⟩ :=
        checks_held (.cons is more) (.cons first later) plain objects
      have called := w.of_types x ts _ ((map_some_iff _ _ _).mpr answered)
      rw [either_truth (.cons first later) (List.cons_ne_nil _ _), Advised.value,
        spread_values types, spread_values (.cons worth .nil)]
      change _ = (w.isInstance x (w.tuple ts)).map w.truth
      rw [called, Option.map_some, w.truth_of_bool]

/-- Two comparisons that share an operand have the value of their chain. -/
theorem chain_agrees {span other : Span} {left mid again right : Expr} {op next : CompareOp}
    {more rest : List Expr} {marks : List Mark} (first : mid.signature = .ok marks)
    (second : again.signature = .ok marks) :
    both env [.compare span left [op] (mid :: more), .compare other again [next] (right :: rest)] =
      (Advised.chained left op mid next right).value env := by
  have shared := w.alike env _ _ marks second first
  simp only [both, test, Advised.value, List.zip_cons_cons, List.zip_nil_left, chain, shared]
  cases w.value env left with
  | none => rfl
  | some x =>
    cases w.value env mid with
    | none => rfl
    | some y =>
      cases w.compare op x y <;> rfl

open DictOperations (Lookup)

section Entries

variable {dict key : String} {d x : w.Value} {es : List (w.Value × w.Value)}
  (held : env dict = some d) (finite : w.entries d = some es) (keyed : env key = some x)

include held finite keyed

theorem entry_test (span one other : Span) (usage use : Usage) (more : List Expr) :
    test env (.compare span (.name one key usage) [.member] (.name other dict use :: more)) =
      some (w.ofBool (find es x).isSome) := by
  rw [test, w.named, keyed]
  change (w.value env (.name other dict use) >>= w.compare .member x) = _
  rw [w.named, held, find, Option.isSome_map, List.isSome_find?]
  exact w.in_map x d es finite

theorem entry_fetched (span one other : Span) (usage use way : Usage) :
    fetch env (.subscript span (.name one dict usage) (.name other key use) way) = find es x := by
  rw [fetch, w.named, held, w.named, keyed]
  simp only [bind, Option.bind_some, finite]

end Entries

theorem lookup_agrees {s : Stmt} {found : Lookup} (is : Lookup.of? s = some found) {d : w.Value}
    {es : List (w.Value × w.Value)} (held : env found.dict = some d)
    (finite : w.entries d = some es) (keyed : (env found.key).isSome = true)
    (spare : (fetch env found.default).isSome = true) :
    run env s = (Advised.lookup found.var found.dict found.key found.default).run env := by
  obtain ⟨x, key⟩ := Option.isSome_iff_exists.mp keyed
  obtain ⟨y, default⟩ := Option.isSome_iff_exists.mp spare
  have advised : (Advised.lookup found.var found.dict found.key found.default).run env =
      some (env.set found.var ((find es x).getD y)) := by
    simp [Advised.run, held, finite, key, default]
  rw [advised]
  unfold Lookup.of? at is
  split at is
  · split at is
    · rename_i alike
      cases is
      simp only [Bool.and_eq_true, beq_iff_eq] at alike
      obtain ⟨⟨rfl, rfl⟩, rfl⟩ := alike
      rw [run, entry_test held finite key, Option.bind_eq_bind, Option.bind_some, w.truth_of_bool,
        assign, assign, entry_fetched held finite key, default]
      cases find es x <;> rfl
    · cases is
  · cases is

end World

end Agreement

section Found

open Comparisons (equality? instanceCheck?)

variable {span : Span} {values : List Expr} {n : Notice}

theorem all_alike_true {marks : List Mark} {es : List Expr}
    (alike : Comparisons.allAlike marks es = .ok true) : ∀ e ∈ es, e.signature = .ok marks := by
  induction es with
  | nil => simp
  | cons e rest ih =>
    obtain ⟨own, signed, alike⟩ := (bind_ok_iff _ _ _).mp alike
    split at alike
    · rename_i same
      cases beq_iff_eq.mp same
      exact List.forall_mem_cons.mpr ⟨signed, ih alike⟩
    · cases alike

theorem alike_all_true {es : List Expr} (alike : Comparisons.alikeAll es = .ok true) :
    ∃ marks, ∀ e ∈ es, e.signature = .ok marks := by
  cases es with
  | nil => cases alike
  | cons e rest =>
    obtain ⟨marks, _, alike⟩ := (bind_ok_iff _ _ _).mp alike
    exact ⟨marks, all_alike_true alike⟩

theorem equality_chain_found (found : Comparisons.equalityChain span values = .ok (some n)) :
    ∃ left others sides marks text, values.mapM equality? = some ((left, others) :: sides) ∧
      (∀ side ∈ (left, others) :: sides, side.1.signature = .ok marks) ∧
      (Advised.membership left (((left, others) :: sides).flatMap (·.2))).text = .ok text ∧
      n.span = span ∧
      n.suggestion = "Use '" ++ text ++ "' instead of multiple '==' comparisons. " ++
        "Use a set if values are hashable for O(1) lookup." := by
  unfold Comparisons.equalityChain at found
  split at found
  · cases found
  · rename_i sides are
    obtain ⟨alike, same, found⟩ := (bind_ok_iff _ _ _).mp found
    split at found
    · cases found
    · rename_i agreed
      split at found
      · rename_i left others second rest _
        obtain ⟨var, first, found⟩ := (bind_ok_iff _ _ _).mp found
        obtain ⟨texts, items, found⟩ := (bind_ok_iff _ _ _).mp found
        cases found
        cases alike with
        | false => exact absurd rfl agreed
        | true =>
          obtain ⟨marks, each⟩ := alike_all_true same
          have written : (Advised.membership left
              (((left, others) :: second :: rest).flatMap (·.2))).text =
              .ok (var ++ " in (" ++ ", ".intercalate texts ++ ")") := by
            rw [Advised.text, first, items]
            rfl
          refine ⟨left, others, second :: rest, marks, _, are, ?_, written, rfl, ?_⟩
          · exact fun side member => each _ (List.mem_map_of_mem member)
          · simp only [Rule.notice, toString, String.append_assoc]
            rfl
      · cases found

theorem instance_checks_found (found : Comparisons.instanceChecks span values = .ok (some n)) :
    ∃ object type checks marks text, values.mapM instanceCheck? = some ((object, type) :: checks) ∧
      (∀ check ∈ (object, type) :: checks, check.1.signature = .ok marks) ∧
      (Advised.instances object (((object, type) :: checks).map (·.2))).text = .ok text ∧
      n.span = span ∧
      n.suggestion = "Use '" ++ text ++ "' instead of multiple isinstance comparisons" := by
  unfold Comparisons.instanceChecks at found
  split at found
  · cases found
  · split at found
    · rename_i object type checks are
      obtain ⟨alike, same, found⟩ := (bind_ok_iff _ _ _).mp found
      split at found
      · cases found
      · rename_i agreed
        obtain ⟨var, first, found⟩ := (bind_ok_iff _ _ _).mp found
        obtain ⟨texts, types, found⟩ := (bind_ok_iff _ _ _).mp found
        cases found
        cases alike with
        | false => exact absurd rfl agreed
        | true =>
          obtain ⟨marks, each⟩ := alike_all_true same
          have written : (Advised.instances object (((object, type) :: checks).map (·.2))).text =
              .ok ("isinstance(" ++ var ++ ", (" ++ ", ".intercalate texts ++ "))") := by
            rw [Advised.text, first, List.mapM_map, show (Expr.render ∘ fun check => check.2) =
              fun check : Expr × Expr => check.2.render from rfl, types]
            rfl
          refine ⟨object, type, checks, marks, _, are, ?_, written, rfl, ?_⟩
          · exact fun check member => each _ (List.mem_map_of_mem member)
          · simp only [Rule.notice, toString, String.append_assoc]
            rfl
    · cases found

theorem chain_symbol {op : CompareOp} {symbol : String}
    (chains : Comparisons.chainSymbol? op = some symbol) : symbol = op.symbol := by
  cases op <;> cases chains <;> rfl

theorem chained_text {left mid right : Expr} {op next : CompareOp} {l m r : String}
    (first : left.render = .ok l) (second : mid.render = .ok m) (third : right.render = .ok r) :
    (Advised.chained left op mid next right).text =
      .ok (l ++ " " ++ op.symbol ++ " " ++ m ++ " " ++ next.symbol ++ " " ++ r) := by
  rw [Advised.text, first, second, third]
  rfl

/-- The text of a chain is that of a form with the value of the pair it stands for. -/
theorem chain_found {first second : Expr} {text : String}
    (found : Comparisons.chain? first second = .ok (some text)) :
    ∃ advised : Advised, advised.text = .ok text ∧ ∀ (w : World) (env : w.Env),
      (∀ e ∈ [first, second], (World.test env e).isSome = true) →
      World.both env [first, second] = advised.value env := by
  unfold Comparisons.chain? at found
  split at found
  · rename_i left op mid more other again next comparators
    obtain ⟨marks, shared, found⟩ := (bind_ok_iff _ _ _).mp found
    obtain ⟨same, alike, found⟩ := (bind_ok_iff _ _ _).mp found
    split at found
    · cases found
    · rename_i agreed
      have same : marks = same := by simpa using agreed
      subst same
      split at found
      · rename_i symbol succeeding chains follows
        cases chain_symbol chains
        cases chain_symbol follows
        obtain ⟨l, one, found⟩ := (bind_ok_iff _ _ _).mp found
        obtain ⟨m, two, found⟩ := (bind_ok_iff _ _ _).mp found
        cases comparators with
        | nil =>
          cases found
          refine ⟨.chained left op mid next (.name other "c" .load), ?_, ?_⟩
          · exact chained_text one two rfl
          · -- a comparison with nothing on its right has no value
            intro w env each
            have held := each _ (List.mem_cons_of_mem _ List.mem_cons_self)
            cases worth : w.value env again <;> simp [World.test, World.chain, worth] at held
        | cons right rest =>
          obtain ⟨r, three, found⟩ := (bind_ok_iff right.render _ _).mp found
          cases found
          refine ⟨.chained left op mid next right, chained_text one two three, ?_⟩
          exact fun w env _ => World.chain_agrees shared alike
      · cases found
  · cases found

/-- The pair that is advised to be chained stands side by side among the operands. -/
theorem first_chain_found {text : String}
    (found : Comparisons.firstChain values = .ok (some text)) :
    ∃ before first second after, values = before ++ first :: second :: after ∧
      Comparisons.chain? first second = .ok (some text) := by
  fun_induction Comparisons.firstChain values with
  | case1 first second rest ih =>
    obtain ⟨chained, here, found⟩ := (bind_ok_iff _ _ _).mp found
    cases chained with
    | some other =>
      cases found
      exact ⟨[], first, second, rest, rfl, here⟩
    | none =>
      obtain ⟨before, one, other, after, same, there⟩ := ih found
      exact ⟨first :: before, one, other, after, by rw [same]; rfl, there⟩
  | case2 => cases found

end Found

section Sayings

inductive Said : Node → Notice → Prop
  | equalities {span : Span} {values : List Expr} {n : Notice}
      (found : Comparisons.equalityChain span values = .ok (some n))
      (code : n.rule = Rule.equalityChain.code) : Said (.expr (.boolOp span .or values)) n
  | instances {span : Span} {values : List Expr} {n : Notice}
      (found : Comparisons.instanceChecks span values = .ok (some n))
      (code : n.rule = Rule.repeatedInstanceCheck.code) : Said (.expr (.boolOp span .or values)) n
  | split {span : Span} {values : List Expr} {n : Notice}
      (found : Comparisons.splitComparison span values = .ok (some n))
      (code : n.rule = Rule.splitComparison.code) : Said (.expr (.boolOp span .and values)) n
  | singleton {e : Expr} {n : Notice} (found : Comparisons.singleton e = .ok (some n))
      (code : n.rule = Rule.equalsNone.code ∨ n.rule = Rule.equalsBool.code) : Said (.expr e) n
  | types {e : Expr} {n : Notice} (found : Comparisons.typeEquality e = .ok (some n))
      (code : n.rule = Rule.typeEquality.code) : Said (.expr e) n

theorem mem_as_notices_iff {outcome : Except Failure (Option Notice)} {n : Notice} :
    .ok n ∈ Comparisons.asNotices outcome ↔ outcome = .ok (some n) := by
  cases outcome with
  | error failure => simp [Comparisons.asNotices]
  | ok found => simp [Comparisons.asNotices]

theorem said_of_check {node : Node} {n : Notice} (told : .ok n ∈ Comparisons.check node) :
    Said node n := by
  unfold Comparisons.check at told
  split at told
  · rcases List.mem_append.mp told with first | second
    · have found := mem_as_notices_iff.mp first
      have speaks : Speaks 0 _ _ n := equality_chain_speaks found
      exact .equalities found speaks.code
    · have found := mem_as_notices_iff.mp second
      have speaks : Speaks 0 _ _ n := instance_checks_speak found
      exact .instances found speaks.code
  · have found := mem_as_notices_iff.mp told
    have speaks : Speaks 0 _ _ n := split_comparison_speaks found
    exact .split found speaks.code
  · rcases List.mem_append.mp told with first | second
    · have found := mem_as_notices_iff.mp first
      obtain ⟨rule, listed, speaks⟩ : ∃ rule ∈ _, Speaks 0 _ rule n := singleton_speaks found
      refine .singleton found ?_
      rcases List.mem_pair.mp listed with rfl | rfl
      · exact Or.inl speaks.code
      · exact Or.inr speaks.code
    · have found := mem_as_notices_iff.mp second
      have speaks : Speaks 0 _ _ n := type_equality_speaks found
      exact .types found speaks.code
  · cases told

end Sayings

section Things

inductive Thing where
  | bit (b : Bool)
  | kind (n : Nat)
  | row (items : List Thing)
  | map (pairs : List (Nat × Nat))

namespace Thing

def equal : Thing → Thing → Bool
  | .bit a, .bit b => a == b
  | .kind a, .kind b => a == b
  | .row xs, .row ys => xs.length == ys.length
  | .map ps, .map qs => ps == qs
  | _, _ => false

mutual
def kinds : Thing → List Nat
  | .kind n => [n]
  | .row items => kindsOf items
  | _ => []

def kindsOf : List Thing → List Nat
  | [] => []
  | t :: rest => t.kinds ++ kindsOf rest
end

def type : Thing → Nat
  | .bit _ => 0
  | .kind _ => 1
  | .row _ => 2
  | .map _ => 3

def truth : Thing → Bool
  | .bit b => b
  | _ => true

def entries : Thing → Option (List (Thing × Thing))
  | .map ps => some (ps.map fun p => (.kind p.1, .kind p.2))
  | _ => none

def compare : CompareOp → Thing → Thing → Option Thing
  | .eq, x, y => some (.bit (x.equal y))
  | .member, x, .row vs => some (.bit (vs.any x.equal))
  | .member, x, y => y.entries.map fun es => .bit (es.any fun entry => entry.1.equal x)
  | _, _, _ => none

def isInstance (x t : Thing) : Option Thing := some (.bit (t.kinds.contains x.type))

theorem kinds_of_any (k : Nat) (ts : List Thing) :
    (kindsOf ts).contains k = ts.any fun t => t.kinds.contains k := by
  induction ts with
  | nil => rfl
  | cons t rest ih =>
    rw [kindsOf, List.any_cons, ← ih]
    simp

def world : World where
  Value := Thing
  value env e := match e.signature with
    | .ok [⟨["name", id, _], _, _⟩] => env id
    | _ => none
  truth := truth
  ofBool := .bit
  tuple := .row
  unpack
    | .row items => some items
    | _ => none
  entries := entries
  same _ _ := false
  equal := equal
  compare := compare
  isInstance := isInstance
  named _ _ _ _ := rfl
  unstarred := by
    intro env span e usage
    split
    · rename_i signed
      unfold Expr.signature at signed
      split at signed
      · cases signed
      · simp [Expr.tree, Code.Tree.preorder, Node.mark, Expr.mark, Mark.of] at signed
    · rfl
  alike := by
    intro env e other marks first second
    rw [first, second]
  truth_of_bool _ := rfl
  equal_refl x := by cases x <;> simp [equal]
  eq_of_same := by simp
  compare_eq _ _ := rfl
  in_tuple _ _ := rfl
  in_map := by
    intro x d es finite
    cases d with
    | map ps =>
      cases finite
      rfl
    | _ => cases finite
  of_types := by
    intro x ts answers each
    rw [map_some_iff] at each
    have same : answers.any truth = ts.any fun t => t.kinds.contains x.type := by
      induction each with
      | nil => rfl
      | cons first _ ih =>
        cases first
        rw [List.any_cons, List.any_cons, ih]
        rfl
    rw [same, ← kinds_of_any]
    rfl

end Thing

end Things

section Reports

variable (m : Module) (f : Finding)

/-- The if statement that the finding is of does what the quoted form does, where the dictionary is
a finite map and the key and the default have values. -/
def LookupKept : Prop :=
  ∃ s found text, .stmt s ∈ m.tree.preorder ∧ f.spot = s.span.spot ∧
    DictOperations.Lookup.of? s = some found ∧
    (Advised.lookup found.var found.dict found.key found.default).text = .ok text ∧
    f.suggestion = some ("Use '" ++ text ++ "' instead of if/else block") ∧
    ∀ (w : World) (env : w.Env), ((env found.dict).bind w.entries).isSome = true →
      (env found.key).isSome = true → (World.fetch env found.default).isSome = true →
      World.run env s = (Advised.lookup found.var found.dict found.key found.default).run env

def MembershipKept : Prop :=
  ∃ span values left others sides text, .expr (.boolOp span .or values) ∈ m.tree.preorder ∧
    f.spot = span.spot ∧ values.mapM Comparisons.equality? = some ((left, others) :: sides) ∧
    (Advised.membership left (((left, others) :: sides).flatMap (·.2))).text = .ok text ∧
    f.suggestion = some ("Use '" ++ text ++ "' instead of multiple '==' comparisons. " ++
      "Use a set if values are hashable for O(1) lookup.") ∧
    ∀ (w : World) (env : w.Env), (∀ e ∈ values, (World.test env e).isSome = true) →
      (World.either env values).map w.truth =
        ((Advised.membership left (((left, others) :: sides).flatMap (·.2))).value env).map w.truth

def ChainKept : Prop :=
  ∃ span before first second after, ∃ form : Advised, ∃ text,
    .expr (.boolOp span .and (before ++ first :: second :: after)) ∈ m.tree.preorder ∧
    f.spot = span.spot ∧ Comparisons.chain? first second = .ok (some text) ∧
    form.text = .ok text ∧
    f.suggestion = some ("Use '" ++ text ++ "' instead of separate comparisons") ∧
    ∀ (w : World) (env : w.Env), (∀ e ∈ [first, second], (World.test env e).isSome = true) →
      World.both env [first, second] = form.value env

/-- The operands that the finding is of are true where the quoted form is, unless an object or a
type among them is starred. -/
def InstancesKept : Prop :=
  ∃ span values object type checks text, .expr (.boolOp span .or values) ∈ m.tree.preorder ∧
    f.spot = span.spot ∧
    values.mapM Comparisons.instanceCheck? = some ((object, type) :: checks) ∧
    (Advised.instances object (((object, type) :: checks).map (·.2))).text = .ok text ∧
    f.suggestion = some ("Use '" ++ text ++ "' instead of multiple isinstance comparisons") ∧
    ((∀ check ∈ (object, type) :: checks, World.Unstarred check.1 ∧ World.Unstarred check.2) →
      ∀ (w : World) (env : w.Env), (∀ e ∈ values, (World.test env e).isSome = true) →
      (World.either env values).map w.truth =
        ((Advised.instances object (((object, type) :: checks).map (·.2))).value env).map w.truth)

variable {m f}

theorem lookup_kept {settings : Settings} {sheet : Sheet} {outside : Bool} {verdict : Verdict}
    (examined : examine settings sheet outside m .dictOperations = .ok verdict)
    (reported : f ∈ verdict.findings) (code : f.rule = Rule.lookupWithDefault.code) :
    LookupKept m f := by
  obtain ⟨node, listed, n, told, rule, spot, suggestion⟩ :=
    finding_source DictOperations.check (by decide) rfl examined reported
  rcases DictOperations.check_cases told with
    ⟨s, rfl, looked⟩ | ⟨_, other, _, _, same, unlike, about⟩
  · obtain ⟨found, is, made⟩ := Option.map_eq_some_iff.mp looked
    obtain ⟨default, written, same⟩ := (bind_ok_iff _ _ _).mp made
    cases same
    have text : (Advised.lookup found.var found.dict found.key found.default).text =
        .ok (found.var ++ " = " ++ found.dict ++ ".get(" ++ found.key ++ ", " ++ default ++
          ")") := by
      rw [Advised.text, written]
      rfl
    refine ⟨s, found, _, listed, spot, is, text, ?_, ?_⟩
    · rw [suggestion]
      simp only [Rule.notice, toString, String.append_assoc]
      rfl
    · intro w env finite keyed spare
      obtain ⟨es, whole⟩ := Option.isSome_iff_exists.mp finite
      obtain ⟨d, held, entries⟩ := Option.bind_eq_some_iff.mp whole
      exact World.lookup_agrees is held entries keyed spare
  · cases same
    obtain ⟨_, _, rfl⟩ := about _ rfl
    exact absurd (rule.symm.trans code) unlike

/--
The advised forms mean what they stand for. In every module and every world, the statement or the
expression that a finding is of agrees with the form that the finding quotes, which has its names,
operators and operands in their order.
-/
theorem advised_forms_agree (m : Module) (settings : Settings) (sheet : Sheet) (outside : Bool) :
    (∀ verdict, examine settings sheet outside m .dictOperations = .ok verdict →
      ∀ f ∈ verdict.findings, f.rule = "R006" → LookupKept m f) ∧
    ∀ verdict, examine settings sheet outside m .comparisons = .ok verdict →
      ∀ f ∈ verdict.findings, (f.rule = "R011" → MembershipKept m f) ∧
        (f.rule = "R012" → ChainKept m f) ∧ (f.rule = "R013" → InstancesKept m f) := by
  refine ⟨fun verdict examined f reported code => lookup_kept examined reported code, ?_⟩
  intro verdict examined f reported
  obtain ⟨node, listed, n, told, rule, spot, suggestion⟩ :=
    finding_source Comparisons.check (by decide) rfl examined reported
  rw [rule]
  cases said_of_check told with
  | equalities found code =>
    rw [code]
    refine ⟨fun _ => ?_, fun other => absurd other (by decide),
      fun other => absurd other (by decide)⟩
    obtain ⟨left, others, sides, marks, text, are, alike, written, rfl, quoted⟩ :=
      equality_chain_found found
    exact ⟨_, _, left, others, sides, text, listed, spot, are, written, suggestion.trans
      (congrArg some quoted), fun w env each => World.membership_agrees are alike each⟩
  | instances found code =>
    rw [code]
    refine ⟨fun other => absurd other (by decide), fun other => absurd other (by decide),
      fun _ => ?_⟩
    obtain ⟨object, type, checks, marks, text, are, alike, written, rfl, quoted⟩ :=
      instance_checks_found found
    exact ⟨_, _, object, type, checks, text, listed, spot, are, written, suggestion.trans
      (congrArg some quoted), fun plain w env each => World.instances_agree are alike each plain⟩
  | split found code =>
    rw [code]
    refine ⟨fun other => absurd other (by decide), fun _ => ?_,
      fun other => absurd other (by decide)⟩
    obtain ⟨chained, chains, found⟩ := (bind_ok_iff _ _ _).mp found
    cases chained with
    | none => cases found
    | some text =>
      cases found
      obtain ⟨before, first, second, after, rfl, here⟩ := first_chain_found chains
      obtain ⟨form, written, agrees⟩ := chain_found here
      refine ⟨_, before, first, second, after, form, text, listed, spot, here, written, ?_, agrees⟩
      rw [suggestion]
      rfl
  | singleton found code =>
    have other : n.rule ∈ [Rule.equalsNone.code, Rule.equalsBool.code] := List.mem_pair.mpr code
    refine ⟨fun same => ?_, fun same => ?_, fun same => ?_⟩ <;>
      exact absurd (same ▸ other) (by decide)
  | types found code =>
    rw [code]
    exact ⟨fun other => absurd other (by decide), fun other => absurd other (by decide),
      fun other => absurd other (by decide)⟩

def advisable : List Char :=
  ("if a in d:\n    v = d[a]\nelse:\n    v = b\na == b or a == c\na == b and b == c\n" ++
    "isinstance(a, b) or isinstance(a, c)\n").toList

def plainNames : Thing.world.Env
  | "a" | "c" => some (.kind 1)
  | "b" => some (.kind 2)
  | "d" => some (.map [(1, 3)])
  | _ => none

def isStarred : Expr → Bool
  | .starred .. => true
  | _ => false

/-- Where the operands of a node have values, and none of its checks is starred. -/
def isValued : Node → Bool
  | .stmt s => (DictOperations.Lookup.of? s).all fun found =>
    ((plainNames found.dict).bind Thing.entries).isSome && (plainNames found.key).isSome &&
      (World.fetch plainNames found.default).isSome
  | .expr (.boolOp _ _ values) =>
    values.all (fun e => (World.test plainNames e).isSome) &&
      (values.filterMap Comparisons.instanceCheck?).all fun check =>
        !isStarred check.1 && !isStarred check.2
  | _ => true

theorem advised_forms_agree_advisable :
    ∃ m looked compared, parse noNames advisable = some m ∧
      examine {} ⟨"a.py", .ofList []⟩ false m .dictOperations = .ok looked ∧
      examine {} ⟨"a.py", .ofList []⟩ false m .comparisons = .ok compared ∧
      (∀ node ∈ m.tree.preorder, isValued node = true) ∧
      (∃ f ∈ looked.findings, f.rule = "R006" ∧ LookupKept m f) ∧
      (∃ f ∈ compared.findings, f.rule = "R011" ∧ MembershipKept m f) ∧
      (∃ f ∈ compared.findings, f.rule = "R012" ∧ ChainKept m f) ∧
      ∃ f ∈ compared.findings, f.rule = "R013" ∧ InstancesKept m f := by
  have spelled : (parse noNames advisable).any (fun m => m.tree.preorder.all isValued &&
      ((examine {} ⟨"a.py", .ofList []⟩ false m .dictOperations).toOption.any fun looked =>
        looked.findings.any (·.rule == "R006")) &&
      ((examine {} ⟨"a.py", .ofList []⟩ false m .comparisons).toOption.any fun compared =>
        ["R011", "R012", "R013"].all fun code => compared.findings.any (·.rule == code))) =
      true := by
    decide +kernel
  obtain ⟨m, parsed, holds⟩ := (Option.any_eq_true _ _).mp spelled
  simp only [Bool.and_eq_true, List.all_eq_true, Option.any_eq_true, List.any_eq_true,
    beq_iff_eq] at holds
  obtain ⟨⟨valued, looked, looks, f, reported, code⟩, compared, compares, each⟩ := holds
  have looks := ok_of_to_option _ _ looks
  have compares := ok_of_to_option _ _ compares
  obtain ⟨lookups, comparisons⟩ := advised_forms_agree m {} ⟨"a.py", .ofList []⟩ false
  obtain ⟨member, memberReported, membership⟩ := each "R011" (by decide)
  obtain ⟨pair, pairReported, chain⟩ := each "R012" (by decide)
  obtain ⟨check, checkReported, instances⟩ := each "R013" (by decide)
  exact ⟨m, looked, compared, parsed, looks, compares, valued,
    ⟨f, reported, code, lookups looked looks f reported code⟩,
    ⟨member, memberReported, membership,
      (comparisons compared compares member memberReported).1 membership⟩,
    ⟨pair, pairReported, chain, (comparisons compared compares pair pairReported).2.1 chain⟩,
    ⟨check, checkReported, instances,
      (comparisons compared compares check checkReported).2.2 instances⟩⟩

def starredChecks : List Char := "isinstance(a, *b, *c) or isinstance(a, *b, *d)\n".toList

def starredNames : Thing.world.Env
  | "a" => some (.bit true)
  | "b" => some (.row [])
  | "c" => some (.row [.kind 0])
  | "d" => some (.row [.kind 1])
  | _ => none

def misadvised (spot : Nat × Nat) : Node → Bool
  | .expr (.boolOp span .or values) =>
    decide (spot = span.spot) && values.all (fun e => (World.test starredNames e).isSome) &&
      (World.either starredNames values).any Thing.truth &&
      match values.mapM Comparisons.instanceCheck? with
      | some ((object, type) :: checks) =>
        ((Advised.instances object (((object, type) :: checks).map (·.2))).value starredNames).any
          (!Thing.truth ·)
      | _ => false
  | _ => false

/-- Checks of types are reported that hold where their advised form does not. -/
theorem starred_checks_misadvised :
    ∃ m verdict span values object type checks f, parse noNames starredChecks = some m ∧
      examine {} ⟨"a.py", .ofList []⟩ false m .comparisons = .ok verdict ∧
      f ∈ verdict.findings ∧ f.rule = "R013" ∧ f.spot = span.spot ∧
      .expr (.boolOp span .or values) ∈ m.tree.preorder ∧
      values.mapM Comparisons.instanceCheck? = some ((object, type) :: checks) ∧
      (∀ e ∈ values, (World.test starredNames e).isSome = true) ∧
      (World.either starredNames values).any Thing.truth = true ∧
      ((Advised.instances object (((object, type) :: checks).map (·.2))).value starredNames).any
        (!Thing.truth ·) = true := by
  have spelled : (parse noNames starredChecks).any (fun m =>
      (examine {} ⟨"a.py", .ofList []⟩ false m .comparisons).toOption.any fun verdict =>
        verdict.findings.any fun f =>
          f.rule == "R013" && m.tree.preorder.any (misadvised f.spot)) = true := by
    decide +kernel
  obtain ⟨m, parsed, holds⟩ := (Option.any_eq_true _ _).mp spelled
  obtain ⟨verdict, examined, holds⟩ := (Option.any_eq_true _ _).mp holds
  obtain ⟨f, reported, holds⟩ := List.any_eq_true.mp holds
  obtain ⟨code, among⟩ := (Bool.and_eq_true _ _).mp holds
  obtain ⟨node, listed, there⟩ := List.any_eq_true.mp among
  unfold misadvised at there
  split at there
  · simp only [Bool.and_eq_true, decide_eq_true_eq, List.all_eq_true] at there
    obtain ⟨⟨⟨spot, each⟩, held⟩, there⟩ := there
    split at there
    · rename_i checked
      exact ⟨m, verdict, _, _, _, _, _, f, parsed, ok_of_to_option _ _ examined, reported,
        beq_iff_eq.mp code, spot, listed, checked, each, held, there⟩
    · cases there
  · cases there

end Reports

end RefactorAdvice.Rules
