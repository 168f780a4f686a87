import RefactorAdvice.Code.Grammar.Pattern
import RefactorAdvice.Proofs.Positions.Operators

/-!
Patterns pay for the expressions in them; they bear no keys of their own.
-/

namespace RefactorAdvice.Code.Grammar

open Code.Parser

attribute [local simp] Expr.span

section Numbers

variable {k : Key}

theorem signed_number_spends :
    Spends k Anywhere 0 signedNumber fun found => found.1.tree.tally k := by
  apply spends_position
  intro start
  apply spends_bind (spends_anywhere (try_symbol_any "-"))
  intro negative
  apply spends_position
  intro inside
  apply spends_look looks_peek
  intro lexeme
  split
  · apply spends_bind (spends_anywhere (discard_spends next_spends))
    intro _
    apply spends_span
    intro last
    dsimp only
    split
    · apply spends_node
      intro whole
      simp [Expr.tree, Node.own]
    · apply spends_pure
      simp [Expr.tree, Node.own]
  · exact spends_failure

theorem joining_sign_spends {credit : Nat} :
    Spends k Anywhere credit joiningSign fun _ => credit := by
  apply spends_bind (try_symbol_any "+")
  intro plus
  split
  · exact spends_pure _ (Nat.le_refl _)
  · apply spends_bind (try_symbol_any "-")
    intro minus
    split
    · exact spends_pure _ (Nat.le_refl _)
    · exact spends_pure _ (Nat.le_refl _)

theorem number_literal_spends : Spends k Anywhere 0 numberLiteral fun e => e.tree.tally k := by
  apply spends_position
  intro start
  apply spends_bind (spends_anywhere signed_number_spends)
  rintro ⟨left, value⟩
  apply spends_bind joining_sign_spends
  intro sign
  split
  · exact spends_pure _ (Nat.le_refl _)
  · apply spends_position
    intro inside
    apply spends_look looks_peek
    intro lexeme
    split
    · apply spends_bind (spends_anywhere (discard_spends next_spends))
      intro _
      split
      · exact spends_failure_bind
      · apply spends_span
        intro last
        apply spends_node
        intro whole
        simp [Expr.tree, Node.own]
    · exact spends_failure

theorem dotted_name_spends (start : Nat × Nat) :
    Spends k Anywhere 0 (dottedName start) fun e => e.tree.tally k := by
  apply spends_bind name_any
  intro id
  apply spends_span
  intro last
  apply iterate_spends
  · intro value
    apply spends_bind (symbol_any ".")
    intro _
    apply spends_bind name_any
    intro attr
    apply spends_node
    intro whole
    simp [Expr.tree, Node.own]
  · simp [Expr.tree, Node.own]

end Numbers

section Simple

variable {k : Key}

theorem capture_name_spends {credit : Nat} :
    Spends k Anywhere credit captureName fun _ => credit := by
  apply spends_bind name_any
  intro id
  split
  · exact spends_failure_bind
  · apply spends_look looks_peek
    intro lexeme
    split
    · exact spends_failure
    · exact spends_failure
    · exact spends_failure
    · exact spends_pure _ (Nat.le_refl _)

theorem star_pattern_spends : Spends k Anywhere 0 starPattern fun p => p.tree.tally k := by
  apply spends_position
  intro start
  apply spends_bind (spends_anywhere (symbol_any "*"))
  intro _
  apply spends_bind name_any
  intro id
  apply spends_node
  intro last
  simp [Pattern.tree, Node.own]

end Simple

section Rules

variable {k : Key} {expr : Goal → Parser Expr} {inner : Parser Pattern}
  (exprs : ∀ goal : Goal, Reads k goal.bound (expr goal) fun e => e.tree.tally k)
  (inners : Spends k Anywhere 0 inner fun p => p.tree.tally k)

section Nesting

include inners

theorem maybe_star_spends : Spends k Anywhere 0 (maybeStar inner) fun p => p.tree.tally k := by
  apply spends_look (looks_next_symbol "*")
  intro starred
  split
  · exact star_pattern_spends
  · exact inners

theorem paren_pattern_spends :
    Spends k Anywhere 0 (parenPattern inner) fun p => p.tree.tally k := by
  apply spends_position
  intro start
  apply spends_bind (spends_anywhere (symbol_any "("))
  intro _
  apply spends_bind (try_symbol_any ")")
  intro closed
  split
  · apply spends_node
    intro last
    simp [Pattern.tree, Node.own]
  · apply spends_look (looks_next_symbol "*")
    intro isStarred
    apply spends_bind (comma_list_spends (maybe_star_spends inners))
    rintro ⟨items, commas⟩
    apply spends_bind (symbol_any ")")
    intro _
    split
    · apply spends_pure
      simp
    · split
      · apply spends_node
        intro last
        simp [Pattern.tree, Node.own]
      · exact spends_failure

theorem bracket_pattern_spends :
    Spends k Anywhere 0 (bracketPattern inner) fun p => p.tree.tally k := by
  have finish : ∀ (start : Nat × Nat) (items : List Pattern),
      Spends k Anywhere (0 + total (fun p => p.tree.tally k) items)
        (do
          symbol "]"
          return Pattern.sequence (← spanFrom start) items)
        fun p => p.tree.tally k := by
    intro start items
    apply spends_bind (symbol_any "]")
    intro _
    apply spends_node
    intro last
    simp [Pattern.tree, Node.own]
  apply spends_position
  intro start
  apply spends_bind (spends_anywhere (symbol_any "["))
  intro _
  apply spends_look (looks_next_symbol "]")
  intro closed
  split
  · exact finish start []
  · exact spends_bind (comma_items_spend (maybe_star_spends inners)) (finish start)

theorem shape_entry_spends :
    Spends k Anywhere 0 (shapeEntry inner) fun entry => entry.2.tree.tally k := by
  apply spends_look looks_peek
  intro first
  apply spends_look looks_peek_second
  intro second
  split
  · apply spends_bind (discard_spends next_spends)
    intro _
    apply spends_bind (discard_spends next_spends)
    intro _
    apply spends_bind inners
    intro p
    exact spends_pure _ (Nat.le_refl _)
  · apply spends_bind inners
    intro p
    exact spends_pure _ (Nat.le_refl _)

theorem shape_pattern_spends (start : Nat × Nat) (cls : Expr) :
    Spends k Anywhere (cls.tree.tally k) (shapePattern inner start cls)
      fun p => p.tree.tally k := by
  have finish : ∀ entries : List (Option String × Pattern),
      Spends k Anywhere (cls.tree.tally k + total (fun entry => entry.2.tree.tally k) entries)
        (do
          symbol ")"
          let byPosition := entries.takeWhile (·.1.isNone)
          let byName := entries.drop byPosition.length
          if byName.any (·.1.isNone) then failure
          return Pattern.shape (← spanFrom start) cls (byPosition.map (·.2))
            (byName.filterMap (·.1)) (byName.map (·.2)))
        fun p => p.tree.tally k := by
    intro entries
    have parts : total (fun entry => entry.2.tree.tally k) entries =
        total (fun entry => entry.2.tree.tally k) (entries.takeWhile (·.1.isNone)) +
        total (fun entry => entry.2.tree.tally k)
          (entries.drop (entries.takeWhile (·.1.isNone)).length) := by
      rw [← total_append, List.prefix_iff_eq_append.mp (List.takeWhile_prefix _)]
    apply spends_bind (symbol_any ")")
    intro _
    dsimp only
    split
    · exact spends_failure_bind
    · apply spends_node
      intro last
      simp [Pattern.tree, Node.own, -List.map_drop]
      omega
  apply spends_bind (symbol_any "(")
  intro _
  apply spends_look (looks_next_symbol ")")
  intro closed
  split
  · exact finish []
  · exact spends_bind (comma_items_spend (shape_entry_spends inners)) finish

end Nesting

include exprs

theorem pattern_key_spends : Spends k Anywhere 0 (patternKey expr) fun e => e.tree.tally k := by
  apply spends_position
  intro start
  apply spends_look looks_peek
  intro lexeme
  split
  · exact spends_anywhere (reads_strings (exprs .starExpressions).any).any
  · apply spends_bind (spends_anywhere (dotted_name_spends start))
    intro key
    split
    · exact spends_failure
    · exact spends_pure _ (Nat.le_refl _)
  · split
    · apply spends_bind (spends_anywhere (discard_spends next_spends))
      intro _
      apply spends_node
      intro last
      simp [Expr.tree, Node.own]
    · exact spends_anywhere number_literal_spends

def mappingTally (k : Key) : Sum (Expr × Pattern) String → Nat
  | .inl (key, p) => key.tree.tally k + p.tree.tally k
  | .inr _ => 0

def mappingPairs (entries : List (Sum (Expr × Pattern) String)) : List (Expr × Pattern) :=
  entries.filterMap fun
    | .inl pair => some pair
    | .inr _ => none

def closeMapping (start : Nat × Nat) (entries : List (Sum (Expr × Pattern) String)) :
    Parser Pattern := do
  symbol "\x7d"
  let rest := entries.filterMap fun
    | .inl _ => none
    | .inr id => some id
  let lastIsRest := match entries.getLast? with
    | some (.inr _) => true
    | _ => false
  match rest with
  | [] =>
    return .mapping (← spanFrom start) ((mappingPairs entries).map (·.1))
      ((mappingPairs entries).map (·.2)) none
  | [id] =>
    if lastIsRest then
      return .mapping (← spanFrom start) ((mappingPairs entries).map (·.1))
        ((mappingPairs entries).map (·.2)) (some id)
    else failure
  | _ => failure

omit exprs in
theorem mapping_pairs_tally (entries : List (Sum (Expr × Pattern) String)) :
    total (fun pair => pair.1.tree.tally k + pair.2.tree.tally k) (mappingPairs entries) =
      total (mappingTally k) entries := by
  induction entries with
  | nil => rfl
  | cons entry rest ih =>
    unfold mappingPairs at ih ⊢
    cases entry with
    | inl pair => simp [mappingTally, ih]
    | inr id => simp [mappingTally, ih]

omit exprs in
theorem close_mapping_spends (start : Nat × Nat) (entries : List (Sum (Expr × Pattern) String)) :
    Spends k Anywhere (0 + total (mappingTally k) entries) (closeMapping start entries)
      fun p => p.tree.tally k := by
  have made : ∀ rest, Spends k Anywhere (0 + total (mappingTally k) entries)
      (do
        return Pattern.mapping (← spanFrom start) ((mappingPairs entries).map (·.1))
          ((mappingPairs entries).map (·.2)) rest)
      fun p => p.tree.tally k := by
    intro rest
    apply spends_node
    intro last
    rw [← mapping_pairs_tally, total_add]
    simp [Pattern.tree, Node.own]
  apply spends_bind (symbol_any "\x7d")
  intro _
  dsimp only
  split
  · exact made none
  · split
    · exact made (some _)
    · exact spends_failure
  · exact spends_failure

include inners

theorem mapping_entry_spends :
    Spends k Anywhere 0 (mappingEntry expr inner) (mappingTally k) := by
  apply spends_bind (try_symbol_any "**")
  intro doubled
  split
  · apply spends_bind capture_name_spends
    intro id
    exact spends_pure _ (Nat.le_refl _)
  · apply spends_bind (pattern_key_spends exprs)
    intro key
    apply spends_bind (symbol_any ":")
    intro _
    apply spends_bind (spends_frame _ inners)
    intro p
    exact spends_pure _ (Nat.le_refl _)

theorem brace_pattern_spends :
    Spends k Anywhere 0 (bracePattern expr inner) fun p => p.tree.tally k := by
  apply spends_position
  intro start
  apply spends_bind (spends_anywhere (symbol_any "\x7b"))
  intro _
  apply spends_look (looks_next_symbol "\x7d")
  intro closed
  split
  · exact close_mapping_spends start []
  · exact spends_bind (comma_items_spend (mapping_entry_spends exprs inners))
      (close_mapping_spends start)

theorem closed_pattern_spends :
    Spends k Anywhere 0 (closedPattern expr inner) fun p => p.tree.tally k := by
  apply spends_position
  intro start
  apply spends_look looks_peek
  intro lexeme
  split
  · exact spends_anywhere (paren_pattern_spends inners)
  · exact spends_anywhere (bracket_pattern_spends inners)
  · exact spends_anywhere (brace_pattern_spends exprs inners)
  · apply spends_bind (spends_anywhere (reads_strings (exprs .starExpressions).any).any)
    intro value
    apply spends_node
    intro last
    simp [Pattern.tree, Node.own]
  · apply spends_bind (spends_anywhere (dotted_name_spends start))
    intro value
    apply spends_look looks_peek
    intro following
    split
    · exact shape_pattern_spends inners start value
    · exact spends_failure
    · split
      · apply spends_node
        intro last
        simp [Pattern.tree, optionPattern, Node.own]
      · apply spends_node
        intro last
        simp [Pattern.tree, Node.own]
  · split
    · apply spends_bind (spends_anywhere (discard_spends next_spends))
      intro _
      apply spends_node
      intro last
      simp [Pattern.tree, Node.own]
    · apply spends_bind (spends_anywhere number_literal_spends)
      intro value
      apply spends_node
      intro last
      simp [Pattern.tree, Node.own]

theorem pattern_spends : Spends k Anywhere 0 (pattern expr inner) fun p => p.tree.tally k := by
  have finish : ∀ (start : Nat × Nat) (either : Pattern),
      Spends k Anywhere (either.tree.tally k)
        (do
          if ← tryKeyword "as" then
            let id ← captureName
            return .bind (← spanFrom start) (some either) (some id)
          return either)
        fun p => p.tree.tally k := by
    intro start either
    apply spends_bind (try_keyword_any "as")
    intro bound
    split
    · apply spends_bind capture_name_spends
      intro id
      apply spends_node
      intro last
      simp [Pattern.tree, optionPattern, Node.own]
    · exact spends_pure _ (Nat.le_refl _)
  apply spends_position
  intro start
  apply spends_bind (spends_anywhere (separated_spends "|" (closed_pattern_spends exprs inners)))
  intro alternatives
  split
  · rename_i one
    exact spends_weaken (finish start one) (by simp) fun p => Nat.le_refl _
  · apply spends_span
    intro last
    exact spends_weaken (finish start (.either (.known start.1 start.2 last) alternatives))
      (by simp [Pattern.tree, Node.own]) fun p => Nat.le_refl _

end Rules

section Cases

variable {k : Key} {expr : Goal → Parser Expr}
  (exprs : ∀ goal : Goal, Reads k goal.bound (expr goal) fun e => e.tree.tally k)

include exprs

theorem nested_pattern_spends (depth : Nat) :
    Spends k Anywhere 0 (nestedPattern expr depth) fun p => p.tree.tally k := by
  induction depth with
  | zero => exact spends_failure
  | succ depth ih => exact pattern_spends exprs ih

theorem case_patterns_spend (depth : Nat) :
    Spends k Anywhere 0 (casePatterns expr depth) fun p => p.tree.tally k := by
  apply spends_position
  intro start
  apply spends_look (looks_next_symbol "*")
  intro isStarred
  apply spends_bind
    (spends_anywhere (comma_list_spends (maybe_star_spends (nested_pattern_spends exprs depth))))
  rintro ⟨items, commas⟩
  dsimp only
  split
  · split
    · exact spends_failure
    · apply spends_pure
      simp
  · apply spends_node
    intro last
    simp [Pattern.tree, Node.own]

end Cases

end RefactorAdvice.Code.Grammar
