import RefactorAdvice.Proofs.Positions.Fields

/-!
Expressions, up to calls and subscripts. A level of the grammar is given the level below it as a
parser of which only this is known: it pays for what it reads, and of the room of the token that it
starts on it leaves what can stand above its own kinds. Brackets, displays, lambda parameters,
arguments and subscripts are read under that assumption, so no induction is needed here.
-/

namespace RefactorAdvice.Code

/-- The rank from which on kinds can still stand above an expression that starts with it. -/
def Goal.bound : Goal → Nat
  | .primary | .factor | .bitwiseOr => 2
  | .inversion => 3
  | .disjunction | .expression | .named | .starExpressions => 5

theorem Goal.bound_pos (goal : Goal) : 1 ≤ goal.bound := by cases goal <;> decide

attribute [local simp] Expr.span

namespace Grammar

open Code.Parser

section Lists

variable {α : Type} {k : Key} {bound credit : Nat} {item : Parser α} {cost : α → Nat}

theorem comma_rest_spends (reads : Spends k Anywhere 0 item cost) (first : α) :
    Spends k Anywhere (credit + cost first)
      (do
        let rest ← many (symbol "," *> item)
        let trailing ← trySymbol ","
        return (first :: rest, trailing || !rest.isEmpty))
      fun found => credit + total cost found.1 := by
  apply spends_bind (many_spends (spends_then (symbol_any ",") reads))
  intro others
  apply spends_bind (try_symbol_any ",")
  intro trailing
  apply spends_pure
  simp
  omega

theorem comma_list_spends (reads : Spends k Anywhere 0 item cost) :
    Spends k Anywhere credit (commaList item) fun found => credit + total cost found.1 :=
  spends_bind (spends_frame credit reads) fun first => comma_rest_spends reads first

theorem comma_items_spend (reads : Spends k Anywhere 0 item cost) :
    Spends k Anywhere credit ((·.1) <$> commaList item) fun items => credit + total cost items :=
  spends_map (comma_list_spends reads)

theorem reads_comma_list (reads : Reads k bound item cost) :
    Reads k bound (commaList item) fun found => total cost found.1 := by
  constructor
  · intro start
    apply spends_bind (reads.on start)
    intro first
    have rest : Spends k Anywhere (spare k start bound + cost first) _ _ :=
      comma_rest_spends reads.any first
    exact spends_weaken rest (by omega) fun found => by omega
  · exact spends_weaken (comma_list_spends reads.any) (Nat.le_refl 0) fun found => by omega

end Lists

section Targets

variable (k : Key) (usage : Usage)

mutual
theorem as_target_tally : ∀ e place : Expr, asTarget usage e = some place →
    place.tree.tally k = e.tree.tally k
  | .name .., place, same => by
    cases same
    simp [Expr.tree, Node.own]
  | .attribute .., place, same => by
    cases same
    simp [Expr.tree, Node.own]
  | .subscript .., place, same => by
    cases same
    simp [Expr.tree, Node.own]
  | .tuple span elements _, place, same => by
    obtain ⟨places, found, rfl⟩ := Option.map_eq_some_iff.mp same
    simpa [Expr.tree, Node.own] using as_targets_tally elements places found
  | .list span elements _, place, same => by
    obtain ⟨places, found, rfl⟩ := Option.map_eq_some_iff.mp same
    simpa [Expr.tree, Node.own] using as_targets_tally elements places found
  | .starred span value _, place, same => by
    unfold asTarget at same
    split at same
    · obtain ⟨inside, found, rfl⟩ := Option.map_eq_some_iff.mp same
      simpa [Expr.tree, Node.own] using as_target_tally value inside found
    · cases same
  | .boolOp .., _, same | .named .., _, same | .binary .., _, same | .unary .., _, same
  | .lambda .., _, same | .conditional .., _, same | .dict .., _, same | .set .., _, same
  | .listComp .., _, same | .setComp .., _, same | .dictComp .., _, same | .generator .., _, same
  | .await .., _, same | .yield .., _, same | .yieldFrom .., _, same | .compare .., _, same
  | .call .., _, same | .formatted .., _, same | .joined .., _, same | .constant .., _, same
  | .slice .., _, same => by
    unfold asTarget at same
    cases same

theorem as_targets_tally : ∀ es places : List Expr, asTargets usage es = some places →
    total (fun e => e.tree.tally k) places = total (fun e => e.tree.tally k) es
  | [], places, same => by
    cases same
    rfl
  | e :: rest, places, same => by
    unfold asTargets at same
    obtain ⟨place, first, same⟩ := Option.bind_eq_some_iff.mp same
    obtain ⟨others, later, same⟩ := Option.bind_eq_some_iff.mp same
    cases same
    simp [as_target_tally e place first, as_targets_tally rest others later]
end

theorem as_single_target_tally (e place : Expr) (same : asSingleTarget e = some place) :
    place.tree.tally k = e.tree.tally k := by
  unfold asSingleTarget at same
  split at same
  · cases same
    simp [Expr.tree, Node.own]
  · cases same
    simp [Expr.tree, Node.own]
  · cases same
    simp [Expr.tree, Node.own]
  · cases same

end Targets

section Entries

def Entry.tally (k : Key) : Entry → Nat
  | .plain p default => (parameterTree p).tally k + tallies k (optionTree default)
  | .variadic p | .keywordVariadic p => (parameterTree p).tally k
  | .slash | .star => 0

variable (k : Key)

theorem parameters_tally (ps : Parameters Expr) :
    (parametersTree ps).tally k =
      total (fun p => (parameterTree p).tally k) ps.positionalOnly +
      total (fun p => (parameterTree p).tally k) ps.regular +
      tallies k (optionParameter ps.variadic) +
      total (fun p => (parameterTree p).tally k) ps.keywordOnly +
      total (fun e => tallies k (optionTree e)) ps.keywordDefaults +
      tallies k (optionParameter ps.keywordVariadic) +
      total (fun e => e.tree.tally k) ps.defaults := by
  obtain ⟨positionalOnly, regular, variadic, keywordOnly, keywordDefaults, keywordVariadic,
    defaults⟩ := ps
  simp [parametersTree, Node.own]
  omega

theorem keyword_entries_tally (done result : Parameters Expr) (entries : List Entry)
    (found : keywordEntries done entries = some result) :
    (parametersTree result).tally k ≤
      (parametersTree done).tally k + total (Entry.tally k) entries := by
  fun_induction keywordEntries done entries with
  | case1 done =>
    cases found
    simp
  | case2 done p =>
    cases found
    simp [parameters_tally, optionParameter, Entry.tally]
    omega
  | case3 done p default rest ih =>
    have later := ih found
    simp [parameters_tally, Entry.tally] at later ⊢
    omega
  | case4 => cases found

theorem positional_entries_tally (slashed : Bool) (done result : Parameters Expr)
    (entries : List Entry) (found : positionalEntries slashed done entries = some result) :
    (parametersTree result).tally k ≤
      (parametersTree done).tally k + total (Entry.tally k) entries := by
  fun_induction positionalEntries slashed done entries with
  | case1 slashed done p rest _ ih =>
    have later := ih found
    simp [parameters_tally, Entry.tally] at later ⊢
    omega
  | case2 => cases found
  | case3 slashed done p rest value ih =>
    have later := ih found
    simp [parameters_tally, Entry.tally, optionTree] at later ⊢
    omega
  | case4 => cases found
  | case5 slashed done rest _ ih =>
    have later := ih found
    simp [parameters_tally, Entry.tally] at later ⊢
    omega
  | case6 slashed done p rest =>
    have later := keyword_entries_tally k _ result rest found
    simp [parameters_tally, optionParameter, Entry.tally] at later ⊢
    omega
  | case7 slashed done p default rest =>
    have later := keyword_entries_tally k _ result _ found
    simp [Entry.tally] at later ⊢
    omega
  | case8 => cases found
  | case9 slashed done p =>
    cases found
    simp [parameters_tally, optionParameter, Entry.tally]
    omega
  | case10 => cases found
  | case11 slashed done =>
    cases found
    simp

end Entries

section Looks

theorem looks_next_clause : Looks nextIsClause := by
  apply looks_bind (looks_next_keyword "for")
  intro first
  apply looks_bind (looks_next_keyword "async")
  intro second
  exact looks_pure _

theorem looks_next_named : Looks nextIsNamed := by
  apply looks_bind looks_peek
  intro first
  apply looks_bind looks_peek_second
  intro second
  split <;> exact looks_pure _

end Looks

section Leeway

variable (k : Key) (start : Nat × Nat)

/-- The room that is left at the start of an expression for what can begin with it: one call
more, if it has none there. -/
def leeway (e : Expr) : Nat := if e.calledAt start then spare k start 2 else spare k start 1

@[simp]
theorem leeway_attribute (span : Span) (value : Expr) (attr : String) (usage : Usage) :
    leeway k start (.attribute span value attr usage) = leeway k start value := rfl

@[simp]
theorem leeway_subscript (span : Span) (value slice : Expr) (usage : Usage) :
    leeway k start (.subscript span value slice usage) = leeway k start value := rfl

theorem leeway_low (e : Expr) : spare k start 2 ≤ leeway k start e := by
  unfold leeway
  split
  · exact Nat.le_refl _
  · exact spare_mono k start 1 2 (Nat.le_succ 1)

theorem leeway_high (e : Expr) : leeway k start e ≤ spare k start 1 := by
  unfold leeway
  split
  · exact spare_mono k start 1 2 (Nat.le_succ 1)
  · exact Nat.le_refl _

theorem call_own (last : Nat) (func : Expr) (args : List Expr)
    (keywords : List (Keyword Expr)) :
    (Node.expr (.call (.known start.1 start.2 last) func args keywords)).own k +
      leeway k start (.call (.known start.1 start.2 last) func args keywords) ≤
        leeway k start func := by
  have own := spare_mine k start .call 1 2 (Nat.le_refl 1) (Nat.lt_succ_self 1)
  by_cases called : func.calledAt start = true
  · simp [Node.own, leeway, Expr.calledAt, called]
  · simpa [Node.own, leeway, Expr.calledAt, called] using own

end Leeway

section Rules

variable {k : Key} {inner : Goal → Parser Expr}
  (reads : ∀ goal : Goal, Reads k goal.bound (inner goal) fun e => e.tree.tally k)

include reads

section Stars

theorem reads_star_or (goal : Goal) :
    Reads k goal.bound (starOr inner goal) fun e => e.tree.tally k := by
  apply leaves_position
  intro start
  have less := spare_mono k start 1 goal.bound (goal.bound_pos)
  apply spends_try_symbol_on
  · apply spends_bind (reads_any (reads .bitwiseOr))
    intro value
    apply spends_node
    intro last
    simp [Expr.tree, Node.own]
    omega
  · exact (reads goal).on start

theorem reads_star_expressions :
    Reads k 5 (starExpressions inner) fun e => e.tree.tally k := by
  apply leaves_position
  intro start
  apply spends_bind ((reads_comma_list (reads_star_or reads .expression)).on start)
  rintro ⟨items, commas⟩
  dsimp only
  split
  · apply spends_pure
    simp [Goal.bound]
  · apply spends_node
    intro last
    simp [Expr.tree, Node.own, Goal.bound]

theorem reads_yield : Reads k 1 (yieldExpr inner) fun e => e.tree.tally k := by
  apply leaves_position
  intro start
  apply spends_bind (keyword_on "yield")
  intro _
  apply spends_bind (try_keyword_any "from")
  intro found
  split
  · apply spends_bind (reads_any (reads .expression))
    intro value
    apply spends_node
    intro last
    simp [Expr.tree, Node.own]
    omega
  · have value : Spends k Anywhere (0 + spare k start 1) (optional (inner .starExpressions))
        fun value => spare k start 1 + tallies k (optionTree value) := by
      apply spends_optional
      · simpa [optionTree] using reads_any (reads .starExpressions)
      · simp [optionTree]
    apply spends_bind value
    intro value
    apply spends_node
    intro last
    simp [Expr.tree, Node.own]
    omega

end Stars

section Parameters

theorem parameter_spends (annotated starry : Bool) :
    Spends k Anywhere 0 (parameter inner annotated starry) fun p => (parameterTree p).tally k := by
  have bare : ∀ start id, Spends k Anywhere 0
      (do return (⟨← spanFrom start, id, none⟩ : Parameter Expr))
      fun p => (parameterTree p).tally k := by
    intro start id
    apply spends_node
    intro last
    simp [parameterTree, optionTree, Node.own]
  have noted : ∀ start id (e : Expr), Spends k Anywhere (e.tree.tally k)
      (do return (⟨← spanFrom start, id, some e⟩ : Parameter Expr))
      fun p => (parameterTree p).tally k := by
    intro start id e
    apply spends_node
    intro last
    simp [parameterTree, optionTree, Node.own]
  apply spends_position
  intro start
  apply spends_bind (spends_anywhere name_any)
  intro id
  split
  · apply spends_bind (try_symbol_any ":")
    intro found
    split
    · split
      · exact spends_bind (reads_star_or reads .expression).any fun e => noted start id e
      · exact spends_bind (reads .expression).any fun e => noted start id e
    · exact bare start id
  · exact bare start id

theorem entry_spends (annotated : Bool) :
    Spends k Anywhere 0 (entry inner annotated) (Entry.tally k) := by
  apply spends_bind (try_symbol_any "/")
  intro slash
  split
  · exact spends_pure _ (Nat.le_refl _)
  · apply spends_bind (try_symbol_any "**")
    intro doubled
    split
    · exact spends_bind (parameter_spends reads _ _) fun p => spends_pure _ (Nat.le_refl _)
    · apply spends_bind (try_symbol_any "*")
      intro starred
      split
      · apply spends_look looks_peek
        intro lexeme
        split
        · exact spends_bind (parameter_spends reads _ _) fun p => spends_pure _ (Nat.le_refl _)
        · exact spends_pure _ (Nat.zero_le _)
      · apply spends_bind (parameter_spends reads _ _)
        intro p
        apply spends_bind (try_symbol_any "=")
        intro given
        split
        · apply spends_bind (reads_any (reads .expression))
          intro default
          apply spends_pure
          simp [Entry.tally, optionTree]
        · apply spends_pure
          simp [Entry.tally, optionTree]

theorem parameters_spend (annotated : Bool) (ending : String) :
    Spends k Anywhere 0 (parameters inner annotated ending)
      fun ps => (parametersTree ps).tally k := by
  apply spends_look (looks_next_symbol ending)
  intro ended
  split
  · exact spends_pure _ (Nat.le_refl _)
  · apply spends_bind (comma_list_spends (entry_spends reads annotated))
    rintro ⟨entries, commas⟩
    dsimp only
    split
    · rename_i found read
      have paid := positional_entries_tally k false noParameters found entries read
      exact spends_pure _ paid
    · exact spends_failure

end Parameters

section Clauses

theorem reads_target : Reads k 2 (target inner) fun e => e.tree.tally k := by
  apply leaves_position
  intro start
  have less := spare_mono k start 1 2 (Nat.le_succ 1)
  apply spends_try_symbol_on
  · apply spends_bind (reads_any (reads .primary))
    intro place
    split
    · rename_i found same
      have kept := as_target_tally k .store place found same
      apply spends_node
      intro last
      simp [Expr.tree, Node.own]
      omega
    · exact spends_failure
  · apply spends_bind ((reads .primary).on start)
    intro place
    split
    · rename_i found same
      have kept := as_target_tally k .store place found same
      apply spends_pure
      simp [Goal.bound]
      omega
    · exact spends_failure

theorem reads_targets : Reads k 2 (targets inner) fun e => e.tree.tally k := by
  apply leaves_position
  intro start
  apply spends_bind ((reads_comma_list (reads_target reads)).on start)
  rintro ⟨items, commas⟩
  dsimp only
  split
  · apply spends_pure
    simp
  · apply spends_node
    intro last
    simp [Expr.tree, Node.own]

theorem clause_spends : Spends k Anywhere 0 (clause inner) fun c => (clauseTree c).tally k := by
  apply spends_bind (try_keyword_any "async")
  intro isAsync
  apply spends_bind (keyword_any "for")
  intro _
  apply spends_bind (reads_any (reads_targets reads))
  intro place
  apply spends_bind (keyword_any "in")
  intro _
  apply spends_bind (reads_any (reads .disjunction))
  intro iter
  apply spends_bind (many_spends (spends_then (keyword_any "if") (reads .disjunction).any))
  intro conditions
  apply spends_pure
  simp [clauseTree, Node.own]
  omega

theorem clauses_spend {credit : Nat} : Spends k Anywhere credit (clauses inner)
    fun found => credit + total (fun c => (clauseTree c).tally k) found :=
  many1_spends (clause_spends reads)

end Clauses

section Atoms

theorem reads_parenthesized : Reads k 1 (parenthesized inner) fun e => e.tree.tally k := by
  apply leaves_position
  intro start
  apply spends_bind (symbol_on "(")
  intro _
  apply spends_bind (try_symbol_any ")")
  intro closed
  split
  · apply spends_node
    intro last
    simp [Expr.tree, Node.own]
  · apply spends_look (looks_next_keyword "yield")
    intro yields
    split
    · apply spends_bind (reads_any (reads_yield reads))
      intro value
      apply spends_bind (symbol_any ")")
      intro _
      apply spends_pure
      omega
    · apply spends_look (looks_next_symbol "*")
      intro isStarred
      apply spends_bind (reads_any (reads_star_or reads .named))
      intro first
      apply spends_bind (try_symbol_any ",")
      intro comma
      split
      · have finish : ∀ more, Spends k Anywhere
            (0 + spare k start 1 + first.tree.tally k + total (fun e => e.tree.tally k) more)
            (do
              symbol ")"
              return Expr.tuple (← spanFrom start) (first :: more) .load)
            fun e => e.tree.tally k + spare k start 1 := by
          intro more
          apply spends_bind (symbol_any ")")
          intro _
          apply spends_node
          intro last
          simp [Expr.tree, Node.own]
          omega
        apply spends_look (looks_next_symbol ")")
        intro ended
        split
        · exact finish []
        · apply spends_bind (comma_items_spend (reads_star_or reads .named).any)
          exact finish
      · split
        · exact spends_failure_bind
        · apply spends_look looks_next_clause
          intro clausal
          split
          · apply spends_bind (clauses_spend reads)
            intro found
            apply spends_bind (symbol_any ")")
            intro _
            apply spends_node
            intro last
            simp [Expr.tree, Node.own]
            omega
          · apply spends_bind (symbol_any ")")
            intro _
            apply spends_pure
            omega

theorem reads_bracketed : Reads k 1 (bracketed inner) fun e => e.tree.tally k := by
  apply leaves_position
  intro start
  apply spends_bind (symbol_on "[")
  intro _
  apply spends_bind (try_symbol_any "]")
  intro closed
  split
  · apply spends_node
    intro last
    simp [Expr.tree, Node.own]
  · apply spends_look (looks_next_symbol "*")
    intro isStarred
    apply spends_bind (reads_any (reads_star_or reads .named))
    intro first
    apply spends_look looks_next_clause
    intro clausal
    split
    · apply spends_bind (clauses_spend reads)
      intro found
      apply spends_bind (symbol_any "]")
      intro _
      apply spends_node
      intro last
      simp [Expr.tree, Node.own]
      omega
    · apply spends_bind
        (many_spends (spends_then (symbol_any ",") (reads_star_or reads .named).any))
      intro more
      apply spends_bind (discard_spends (try_symbol_any ","))
      intro _
      apply spends_bind (symbol_any "]")
      intro _
      apply spends_node
      intro last
      simp [Expr.tree, Node.own]
      omega

theorem dict_entry_spends : Spends k Anywhere 0 (dictEntry inner)
    fun entry => tallies k (optionTree entry.1) + entry.2.tree.tally k := by
  apply spends_bind (try_symbol_any "**")
  intro doubled
  split
  · apply spends_bind (reads_any (reads .bitwiseOr))
    intro value
    apply spends_pure
    simp [optionTree]
  · apply spends_bind (reads_any (reads .expression))
    intro key
    apply spends_bind (symbol_any ":")
    intro _
    apply spends_bind (reads_any (reads .expression))
    intro value
    apply spends_pure
    simp [optionTree]

theorem set_rest_spends (start : Nat × Nat) (isStarred : Bool) (first : Expr) {credit : Nat} :
    Spends k Anywhere (credit + first.tree.tally k) (setRest inner start isStarred first)
      fun e => credit + e.tree.tally k := by
  apply spends_look looks_next_clause
  intro clausal
  split
  · apply spends_bind (clauses_spend reads)
    intro found
    apply spends_bind (symbol_any "\x7d")
    intro _
    apply spends_node
    intro last
    simp [Expr.tree, Node.own]
    omega
  · apply spends_bind (many_spends (spends_then (symbol_any ",") (reads_star_or reads .named).any))
    intro more
    apply spends_bind (discard_spends (try_symbol_any ","))
    intro _
    apply spends_bind (symbol_any "\x7d")
    intro _
    apply spends_node
    intro last
    simp [Expr.tree, Node.own]
    omega

theorem dict_rest_spends (start : Nat × Nat) (key : Option Expr) (value : Expr) {credit : Nat} :
    Spends k Anywhere (credit + (tallies k (optionTree key) + value.tree.tally k))
      (dictRest inner start key value) fun e => credit + e.tree.tally k := by
  apply spends_look looks_next_clause
  intro clausal
  split
  · apply spends_bind (clauses_spend reads)
    intro found
    apply spends_bind (symbol_any "\x7d")
    intro _
    apply spends_node
    intro last
    simp [Expr.tree, Node.own, optionTree]
    omega
  · apply spends_bind (many_spends (spends_then (symbol_any ",") (dict_entry_spends reads)))
    intro more
    apply spends_bind (discard_spends (try_symbol_any ","))
    intro _
    apply spends_bind (symbol_any "\x7d")
    intro _
    apply spends_node
    intro last
    simp [Expr.tree, Node.own, total_add]
    omega

theorem reads_braced : Reads k 1 (braced inner) fun e => e.tree.tally k := by
  apply leaves_position
  intro start
  have finish : ∀ p : Parser Expr,
      Spends k Anywhere (spare k start 1) p (fun e => spare k start 1 + e.tree.tally k) →
      Spends k Anywhere (0 + spare k start 1) p fun e => e.tree.tally k + spare k start 1 :=
    fun p spends => spends_weaken spends (by omega) fun e => by omega
  apply spends_bind (symbol_on "\x7b")
  intro _
  apply spends_bind (try_symbol_any "\x7d")
  intro closed
  split
  · apply spends_node
    intro last
    simp [Expr.tree, Node.own]
  · apply finish
    apply spends_look (looks_next_symbol "**")
    intro doubled
    split
    · apply spends_bind (spends_frame _ (dict_entry_spends reads))
      rintro ⟨key, value⟩
      exact dict_rest_spends reads start key value
    · apply spends_look (looks_next_symbol "*")
      intro starred
      split
      · apply spends_bind (reads_any (reads_star_or reads .named))
        intro first
        exact set_rest_spends reads start true first
      · apply spends_look looks_next_named
        intro assigned
        split
        · apply spends_bind (reads_any (reads .named))
          intro first
          exact set_rest_spends reads start false first
        · apply spends_bind (reads_any (reads .expression))
          intro first
          apply spends_bind (try_symbol_any ":")
          intro mapped
          split
          · apply spends_bind (reads_any (reads .expression))
            intro value
            have rest : Spends k Anywhere
                (spare k start 1 +
                  (tallies k (optionTree (some first)) + value.tree.tally k)) _ _ :=
              dict_rest_spends reads start (some first) value
            apply spends_weaken rest
            · simp [optionTree]
              omega
            · exact fun e => Nat.le_refl _
          · exact set_rest_spends reads start false first

theorem reads_atom : Reads k 1 (atom inner) fun e => e.tree.tally k := by
  apply leaves_position
  intro start
  have single : ∀ build : Span → Expr,
      (∀ line column last, (build (.known line column last)).tree.tally k = 0) →
      Spends k (Seen start true) 0
        (do
          discard next
          return build (← spanFrom start))
        fun e => e.tree.tally k + spare k start 1 := by
    intro build light
    apply spends_bind (discard_spends next_spends_seen)
    intro _
    apply spends_node
    intro last
    exact Nat.le_of_eq (by rw [light _ _ last])
  apply spends_peek
  intro lexeme
  dsimp only
  split
  · exact single (.name · _ .load) fun _ _ _ => by simp [Expr.tree, Node.own]
  · exact single (.constant · _) fun _ _ _ => by simp [Expr.tree, Node.own]
  · exact spends_pre ((reads_strings (reads .starExpressions).any).on start) seen_on
  · exact single (.constant · _) fun _ _ _ => by simp [Expr.tree, Node.own]
  · exact single (.constant · _) fun _ _ _ => by simp [Expr.tree, Node.own]
  · exact single (.constant · _) fun _ _ _ => by simp [Expr.tree, Node.own]
  · exact single (.constant · _) fun _ _ _ => by simp [Expr.tree, Node.own]
  · exact spends_pre ((reads_parenthesized reads).on start) seen_on
  · exact spends_pre ((reads_bracketed reads).on start) seen_on
  · exact spends_pre ((reads_braced reads).on start) seen_on
  · exact spends_failure

end Atoms

section Calls

def Arguments.tally (k : Key) (found : Arguments) : Nat :=
  total (fun e => e.tree.tally k) found.args +
    total (fun x => (keywordTree x).tally k) found.keywords

theorem argument_spends (done : Arguments) :
    Spends k Anywhere (done.tally k) (argument inner done) (Arguments.tally k) := by
  apply spends_position
  intro start
  apply spends_bind (spends_anywhere (try_symbol_any "**"))
  intro doubled
  split
  · apply spends_bind (reads_any (reads .expression))
    intro value
    apply spends_node
    intro last
    simp [Arguments.tally, keywordTree, Node.own]
    omega
  · apply spends_bind (try_symbol_any "*")
    intro starred
    split
    · split
      · exact spends_failure_bind
      · apply spends_bind (reads_any (reads .expression))
        intro value
        apply spends_node
        intro last
        simp [Arguments.tally, Expr.tree, Node.own]
        omega
    · apply spends_look looks_peek
      intro first
      apply spends_look looks_peek_second
      intro second
      split
      · apply spends_bind (discard_spends next_spends)
        intro _
        apply spends_bind (discard_spends next_spends)
        intro _
        apply spends_bind (reads_any (reads .expression))
        intro value
        apply spends_node
        intro last
        simp [Arguments.tally, keywordTree, Node.own]
        omega
      · split
        · apply spends_bind (reads_any (reads .named))
          intro value
          apply spends_pure
          simp [Arguments.tally]
          omega
        · exact spends_failure

theorem more_arguments_spend (first : Arguments) {credit : Nat} :
    Spends k Anywhere (credit + first.tally k) (moreArguments inner first)
      fun found => credit + found.tally k := by
  have step : ∀ done : Arguments, Spends k Anywhere (credit + done.tally k)
      (do
        symbol ","
        argument inner done)
      fun found => credit + found.tally k := by
    intro done
    apply spends_bind (symbol_any ",")
    intro _
    exact spends_frame credit (argument_spends reads done)
  apply spends_bind (iterate_spends first step (Nat.le_refl _))
  intro all
  apply spends_bind (discard_spends (try_symbol_any ","))
  intro _
  exact spends_pure _ (Nat.le_refl _)

theorem arguments_spend {credit : Nat} :
    Spends k Anywhere credit (arguments inner) fun found => credit + found.tally k := by
  apply spends_look (looks_next_symbol ")")
  intro ended
  split
  · exact spends_pure _ (Nat.le_refl _)
  · apply spends_bind (spends_frame credit (argument_spends reads ⟨.plain, [], []⟩))
    intro first
    exact more_arguments_spend reads first

theorem call_rest_spends (start : Nat × Nat) (func : Expr) :
    Spends k Anywhere (func.tree.tally k + leeway k start func) (callRest inner start func)
      fun e => e.tree.tally k + leeway k start e := by
  have finish : ∀ args keywords,
      Spends k Anywhere (func.tree.tally k + leeway k start func +
          (total (fun e => e.tree.tally k) args +
            total (fun x => (keywordTree x).tally k) keywords))
        (do
          symbol ")"
          return Expr.call (← spanFrom start) func args keywords)
        fun e => e.tree.tally k + leeway k start e := by
    intro args keywords
    apply spends_bind (symbol_any ")")
    intro _
    apply spends_node
    intro last
    have own := call_own k start last func args keywords
    simp only [Expr.tree, tally_node, List.cons_append, tallies_cons, tallies_append,
      tallies_exprs, tallies_keywords]
    omega
  apply spends_position
  intro opening
  apply spends_bind (spends_anywhere (symbol_any "("))
  intro _
  apply spends_look (looks_next_symbol ")")
  intro ended
  split
  · exact finish [] []
  · apply spends_bind (spends_frame _ (argument_spends reads ⟨.plain, [], []⟩))
    intro first
    apply spends_look looks_next_clause
    intro clausal
    split
    · exact spends_failure
    · rename_i value _ alone
      apply spends_bind (clauses_spend reads)
      intro found
      apply spends_bind (symbol_any ")")
      intro _
      apply spends_span
      intro inner
      apply spends_node
      intro last
      have own := call_own k start last func
        [.generator (.known opening.1 opening.2 inner) value found] []
      have plain : (Node.expr (.generator (.known opening.1 opening.2 inner) value found)).own k =
          0 := rfl
      simp [Expr.tree, plain, Arguments.tally, alone]
      omega
    · apply spends_bind (more_arguments_spend reads first)
      intro all
      exact finish all.args all.keywords

end Calls

section Subscripts

def sliceBound (inner : Goal → Parser Expr) : Parser (Option Expr) := do
  match ← peek with
  | .symbol ":" | .symbol "," | .symbol "]" => return none
  | _ => return some (← inner .expression)

def sliceFrom (inner : Goal → Parser Expr) (start : Nat × Nat) (lower : Option Expr) :
    Parser (Expr × Bool) := do
  symbol ":"
  let upper ← sliceBound inner
  let step ← if ← trySymbol ":" then sliceBound inner else pure none
  return (.slice (← spanFrom start) lower upper step, false)

omit reads in
theorem index_eq (inner : Goal → Parser Expr) :
    index inner = do
      let start ← position
      if ← trySymbol "*" then
        let value ← inner .expression
        return (.starred (← spanFrom start) value .load, true)
      if ← nextIsSymbol ":" then sliceFrom inner start none
      else if ← nextIsNamed then return (← inner .named, false)
      else
        let value ← inner .expression
        if ← nextIsSymbol ":" then sliceFrom inner start (some value) else return (value, false) :=
  rfl

theorem slice_bound_spends {credit : Nat} : Spends k Anywhere credit (sliceBound inner)
    fun e => credit + tallies k (optionTree e) := by
  apply spends_look looks_peek
  intro lexeme
  split
  · exact spends_pure _ (Nat.le_refl _)
  · exact spends_pure _ (Nat.le_refl _)
  · exact spends_pure _ (Nat.le_refl _)
  · apply spends_bind (reads_any (reads .expression))
    intro value
    apply spends_pure
    simp [optionTree]

theorem slice_from_spends (start : Nat × Nat) (lower : Option Expr) :
    Spends k Anywhere (tallies k (optionTree lower)) (sliceFrom inner start lower)
      fun found => found.1.tree.tally k := by
  apply spends_bind (symbol_any ":")
  intro _
  apply spends_bind (slice_bound_spends reads)
  intro upper
  have finish : ∀ step, Spends k Anywhere
      (tallies k (optionTree lower) + tallies k (optionTree upper) + tallies k (optionTree step))
      (do return (Expr.slice (← spanFrom start) lower upper step, false))
      fun found => found.1.tree.tally k := by
    intro step
    apply spends_node
    intro last
    simp [Expr.tree, Node.own]
    omega
  apply spends_bind (try_symbol_any ":")
  intro stepped
  split
  · exact spends_bind (slice_bound_spends reads) finish
  · exact finish none

theorem index_spends : Spends k Anywhere 0 (index inner) fun found => found.1.tree.tally k := by
  rw [index_eq]
  apply spends_position
  intro start
  apply spends_bind (spends_anywhere (try_symbol_any "*"))
  intro starred
  split
  · apply spends_bind (reads_any (reads .expression))
    intro value
    apply spends_node
    intro last
    simp [Expr.tree, Node.own]
  · apply spends_look (looks_next_symbol ":")
    intro open_
    split
    · exact slice_from_spends reads start none
    · apply spends_look looks_next_named
      intro assigned
      split
      · apply spends_bind (reads .named).any
        intro value
        exact spends_pure _ (Nat.le_refl _)
      · apply spends_bind (reads .expression).any
        intro value
        apply spends_look (looks_next_symbol ":")
        intro bounded
        split
        · exact spends_weaken (slice_from_spends reads start (some value))
            (by simp [optionTree]) fun found => Nat.le_refl _
        · exact spends_pure _ (Nat.le_refl _)

theorem subscript_rest_spends (start : Nat × Nat) (value : Expr) :
    Spends k Anywhere (value.tree.tally k + leeway k start value) (subscriptRest inner start value)
      fun e => e.tree.tally k + leeway k start e := by
  have finish : ∀ slice : Expr, Spends k Anywhere
      (value.tree.tally k + leeway k start value + slice.tree.tally k)
      (do
        symbol "]"
        return Expr.subscript (← spanFrom start) value slice .load)
      fun e => e.tree.tally k + leeway k start e := by
    intro slice
    apply spends_bind (symbol_any "]")
    intro _
    apply spends_node
    intro last
    simp [Expr.tree, Node.own]
    omega
  apply spends_bind (symbol_any "[")
  intro _
  apply spends_position
  intro inside
  apply spends_bind (spends_anywhere (comma_list_spends (index_spends reads)))
  rintro ⟨items, commas⟩
  dsimp only
  split
  · rename_i item
    exact spends_weaken (finish item) (by simp) fun e => Nat.le_refl _
  · apply spends_span
    intro last
    exact spends_weaken (finish (.tuple (.known inside.1 inside.2 last) (items.map (·.1)) .load))
      (by simp [Expr.tree, Node.own]) fun e => Nat.le_refl _

end Subscripts

end Rules

end Grammar

end RefactorAdvice.Code
