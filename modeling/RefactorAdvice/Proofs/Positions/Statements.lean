import RefactorAdvice.Code.Grammar.Stmt
import RefactorAdvice.Proofs.Positions.Patterns

/-!
Statements pay for themselves, and so does a whole module. A statement stands above all that starts
with it, so what its first expression leaves is enough for it. With the room of the tokens this
gives the main statement: in a module that was read, no two nodes bear the same key.
-/

namespace RefactorAdvice.Code.Grammar

open Code.Parser

-- how a statement's tree is built, in every tally below
attribute [local simp] Expr.span Stmt.tree Stmt.span Node.own

section Light

variable {k : Key} {credit : Nat}

theorem newline_spends : Spends k Anywhere credit newline fun _ => credit := by
  apply spends_look looks_peek
  intro lexeme
  split
  · exact discard_spends next_spends
  · exact spends_failure

theorem indent_spends : Spends k Anywhere credit indent fun _ => credit := by
  apply spends_look looks_peek
  intro lexeme
  split
  · exact discard_spends next_spends
  · exact spends_failure

theorem dedent_spends : Spends k Anywhere credit dedent fun _ => credit := by
  apply spends_look looks_peek
  intro lexeme
  split
  · exact discard_spends next_spends
  · exact spends_failure

theorem separated_light {α : Type} {item : Parser α} (mark : String)
    (light : Spends k Anywhere 0 item fun _ => 0) :
    Spends k Anywhere credit (separated mark item) fun _ => credit := by
  have items : Spends k Anywhere credit (separated mark item)
      fun found => credit + total (fun _ => 0) found := separated_spends mark light
  exact spends_weaken items (Nat.le_refl _) fun found => by simp

theorem some_spends {p : Parser Expr}
    (reads : Spends k Anywhere credit p fun e => credit + e.tree.tally k) :
    Spends k Anywhere credit (some <$> p) fun e => credit + tallies k (optionTree e) := by
  apply spends_map
  simpa [optionTree] using reads

theorem looks_at_end : Looks atEnd := by
  apply looks_bind looks_peek
  intro lexeme
  split <;> exact looks_pure _

theorem looks_get : Looks (get : Parser Cursor) := by
  intro c value after read
  cases read
  rfl

/-- Nothing at a place ranks above a statement. -/
theorem stmt_mine (k : Key) (spot : Nat × Nat) : mine k .stmt spot ≤ spare k spot 5 := by
  have own := spare_mine k spot .stmt 5 6 (Nat.le_refl 5) (Nat.lt_succ_self 5)
  omega

theorem stmt_spare (k : Key) (spot : Nat × Nat) : mine k .stmt spot ≤ spare k spot 1 :=
  Nat.le_trans (stmt_mine k spot) (spare_mono k spot 1 5 (by decide))

end Light

section Imports

variable {k : Key} {credit : Nat}

theorem aliases_tally (names : List Alias) : tallies k (names.map Alias.tree) = 0 := by
  induction names with
  | nil => rfl
  | cons a rest ih => simp [Alias.tree, ih]

theorem as_name_spends : Spends k Anywhere credit asName fun _ => credit := by
  apply spends_bind (try_keyword_any "as")
  intro found
  split
  · exact spends_map name_any
  · exact spends_pure _ (Nat.le_refl _)

theorem dotted_text_spends : Spends k Anywhere credit dottedText fun _ => credit := by
  apply spends_bind (separated_light "." name_any)
  intro parts
  exact spends_pure _ (Nat.le_refl _)

theorem import_name_spends : Spends k Anywhere credit importName fun _ => credit := by
  apply spends_position
  intro start
  apply spends_bind (spends_anywhere dotted_text_spends)
  intro id
  apply spends_bind as_name_spends
  intro other
  apply spends_node
  exact fun _ => Nat.le_refl _

theorem import_statement_spends (start : Nat × Nat) :
    Spends k Anywhere (spare k start 1) (importStatement start) fun s => s.tree.tally k := by
  have own := stmt_spare k start
  apply spends_bind (separated_light "," import_name_spends)
  intro names
  apply spends_node
  intro last
  simp [aliases_tally]
  exact own

theorem from_name_spends : Spends k Anywhere credit fromName fun _ => credit := by
  apply spends_position
  intro start
  apply spends_bind (spends_anywhere name_any)
  intro id
  apply spends_bind as_name_spends
  intro other
  apply spends_node
  exact fun _ => Nat.le_refl _

theorem import_level_spends : Spends k Anywhere credit importLevel fun _ => credit := by
  apply iterate_spends
  · intro level
    apply spends_look looks_peek
    intro lexeme
    split
    · apply spends_bind (discard_spends next_spends)
      intro _
      exact spends_pure _ (Nat.le_refl _)
    · apply spends_bind (discard_spends next_spends)
      intro _
      exact spends_pure _ (Nat.le_refl _)
    · exact spends_failure
  · exact Nat.le_refl _

theorem imported_names_spend : Spends k Anywhere credit importedNames fun _ => credit := by
  apply spends_position
  intro start
  apply spends_bind (spends_anywhere (try_symbol_any "*"))
  intro starred
  split
  · apply spends_node
    exact fun _ => Nat.le_refl _
  · apply spends_bind (try_symbol_any "(")
    intro opened
    split
    · have names : Spends k Anywhere credit (commaList fromName)
          fun found => credit + total (fun _ => 0) found.1 := comma_list_spends from_name_spends
      apply spends_bind names
      rintro ⟨found, commas⟩
      apply spends_bind (symbol_any ")")
      intro _
      apply spends_pure
      simp
    · exact separated_light "," from_name_spends

theorem from_statement_spends (start : Nat × Nat) :
    Spends k Anywhere (spare k start 1) (fromStatement start) fun s => s.tree.tally k := by
  have own := stmt_spare k start
  apply spends_bind import_level_spends
  intro level
  have module : Spends k Anywhere (spare k start 1) (optional dottedText)
      fun _ => spare k start 1 := spends_optional dotted_text_spends (Nat.le_refl _)
  apply spends_bind module
  intro module
  split
  · exact spends_failure_bind
  · apply spends_bind (keyword_any "import")
    intro _
    apply spends_bind imported_names_spend
    intro names
    apply spends_node
    intro last
    simp [aliases_tally]
    exact own

end Imports

section Simple

variable {k : Key} {expr : Goal → Parser Expr}
  (exprs : ∀ goal : Goal, Reads k goal.bound (expr goal) fun e => e.tree.tally k)

include exprs

theorem assigned_spends {credit : Nat} :
    Spends k Anywhere credit (assigned expr) fun e => credit + e.tree.tally k := by
  apply spends_look (looks_next_keyword "yield")
  intro yields
  split
  · exact reads_any (reads_yield exprs)
  · exact reads_any (exprs .starExpressions)

theorem assign_chain_spends {credit : Nat} (first : Expr) :
    Spends k Anywhere (credit + first.tree.tally k) (assignChain expr first)
      fun found => credit + total (fun e => e.tree.tally k) found.1 + found.2.tree.tally k := by
  refine spends_bind (show Spends k Anywhere _ _ fun found : List Expr × Expr =>
    credit + total (fun e => e.tree.tally k) found.1 + found.2.tree.tally k from
      iterate_spends ([], first) ?_ (by simp)) ?_
  · rintro ⟨places, value⟩
    apply spends_bind (symbol_any "=")
    intro _
    split
    · rename_i place same
      have kept := as_target_tally k .store value place same
      apply spends_bind (assigned_spends exprs)
      intro next
      apply spends_pure
      simp
      omega
    · exact spends_failure
  · rintro ⟨places, value⟩
    apply spends_pure
    simp

theorem assign_statement_spends (start : Nat × Nat) (value : Expr) :
    Spends k Anywhere (value.tree.tally k + spare k start 5) (assignStatement expr start value)
      fun s => s.tree.tally k := by
  have own := stmt_mine k start
  have chain : Spends k Anywhere (spare k start 5 + value.tree.tally k) (assignChain expr value)
      _ := assign_chain_spends exprs value
  apply spends_bind (spends_weaken chain (by omega) fun found => Nat.le_refl _)
  rintro ⟨places, last⟩
  apply spends_node
  intro last
  simp
  omega

theorem annotated_statement_spends (start : Nat × Nat) (isName : Bool) (value : Expr) :
    Spends k Anywhere (value.tree.tally k + spare k start 5)
      (annotatedStatement expr start isName value) fun s => s.tree.tally k := by
  have own := stmt_mine k start
  unfold annotatedStatement
  dsimp only
  split
  · exact spends_failure
  · rename_i place same
    have kept := as_single_target_tally k value place same
    have finish : ∀ (note : Expr) (given : Option Expr) (simple : Bool), Spends k Anywhere
        (value.tree.tally k + spare k start 5 + note.tree.tally k +
          tallies k (optionTree given))
        (do return Stmt.annAssign (← spanFrom start) place note given simple)
        fun s => s.tree.tally k := by
      intro note given simple
      apply spends_node
      intro last
      simp
      omega
    apply spends_bind (discard_spends next_spends)
    intro _
    apply spends_bind (reads_any (exprs .expression))
    intro note
    apply spends_bind (try_symbol_any "=")
    intro set_
    split
    · exact spends_bind (some_spends (assigned_spends exprs)) fun given => finish note given _
    · exact finish note none _

theorem augmented_statement_spends (start : Nat × Nat) (value : Expr) (op : BinaryOp) :
    Spends k Anywhere (value.tree.tally k + spare k start 5)
      (augmentedStatement expr start value op) fun s => s.tree.tally k := by
  have own := stmt_mine k start
  unfold augmentedStatement
  split
  · exact spends_failure
  · rename_i place same
    have kept := as_single_target_tally k value place same
    apply spends_bind (discard_spends next_spends)
    intro _
    apply spends_bind (assigned_spends exprs)
    intro operand
    apply spends_node
    intro last
    simp
    omega

theorem expression_statement_spends :
    Spends k Anywhere 0 (expressionStatement expr) fun s => s.tree.tally k := by
  apply spends_position
  intro start
  have own := stmt_mine k start
  have least := stmt_spare k start
  apply spends_look (looks_next_keyword "yield")
  intro yields
  split
  · apply spends_bind ((reads_yield exprs).on start)
    intro value
    apply spends_node
    intro last
    simp
    omega
  · apply spends_look
    · apply looks_bind looks_peek
      intro lexeme
      split <;> exact looks_pure _
    intro isName
    apply spends_bind ((exprs .starExpressions).on start)
    intro value
    change Spends k Anywhere (value.tree.tally k + spare k start 5) _ _
    apply spends_look looks_peek
    intro lexeme
    split
    · exact assign_statement_spends exprs start value
    · exact annotated_statement_spends exprs start isName value
    · split
      · apply spends_node
        intro last
        simp
        omega
      · exact augmented_statement_spends exprs start value _

theorem delete_statement_spends (start : Nat × Nat) :
    Spends k Anywhere (spare k start 1) (deleteStatement expr start) fun s => s.tree.tally k := by
  have own := stmt_spare k start
  apply spends_bind
  · apply comma_list_spends
    apply spends_bind (exprs .primary).any
    intro value
    split
    · rename_i place same
      exact spends_pure _ (Nat.le_of_eq (as_target_tally k .del value place same))
    · exact spends_failure
  rintro ⟨places, commas⟩
  apply spends_look looks_at_end
  intro ended
  split
  · apply spends_node
    intro last
    simp
    omega
  · exact spends_failure

theorem return_statement_spends (start : Nat × Nat) :
    Spends k Anywhere (spare k start 1) (returnStatement expr start) fun s => s.tree.tally k := by
  have own := stmt_spare k start
  have finish : ∀ value : Option Expr, Spends k Anywhere
      (spare k start 1 + tallies k (optionTree value))
      (do return Stmt.ret (← spanFrom start) value) fun s => s.tree.tally k := by
    intro value
    apply spends_node
    intro last
    simp
    omega
  apply spends_look looks_at_end
  intro ended
  split
  · exact finish none
  · exact spends_bind (some_spends (reads_any (exprs .starExpressions))) finish

theorem raise_statement_spends (start : Nat × Nat) :
    Spends k Anywhere (spare k start 1) (raiseStatement expr start) fun s => s.tree.tally k := by
  have own := stmt_spare k start
  apply spends_look looks_at_end
  intro ended
  split
  · apply spends_node
    intro last
    simp [optionTree]
    exact own
  · apply spends_bind (reads_any (exprs .expression))
    intro exc
    have finish : ∀ cause : Option Expr, Spends k Anywhere
        (spare k start 1 + exc.tree.tally k + tallies k (optionTree cause))
        (do return Stmt.raise (← spanFrom start) (some exc) cause) fun s => s.tree.tally k := by
      intro cause
      apply spends_node
      intro last
      simp [optionTree]
      omega
    apply spends_bind (try_keyword_any "from")
    intro caused
    split
    · exact spends_bind (some_spends (reads_any (exprs .expression))) finish
    · exact finish none

theorem assert_statement_spends (start : Nat × Nat) :
    Spends k Anywhere (spare k start 1) (assertStatement expr start) fun s => s.tree.tally k := by
  have own := stmt_spare k start
  apply spends_bind (reads_any (exprs .expression))
  intro test
  have finish : ∀ message : Option Expr, Spends k Anywhere
      (spare k start 1 + test.tree.tally k + tallies k (optionTree message))
      (do return Stmt.assert (← spanFrom start) test message) fun s => s.tree.tally k := by
    intro message
    apply spends_node
    intro last
    simp
    omega
  apply spends_bind (try_symbol_any ",")
  intro told
  split
  · exact spends_bind (some_spends (reads_any (exprs .expression))) finish
  · exact finish none

omit exprs in
theorem names_statement_spends {build : Span → List String → Stmt}
    (light : ∀ (spot : Nat × Nat) last names,
      (build (.known spot.1 spot.2 last) names).tree.tally k = mine k .stmt spot)
    (start : Nat × Nat) :
    Spends k Anywhere (spare k start 1) (namesStatement build start) fun s => s.tree.tally k := by
  apply spends_bind (separated_light "," name_any)
  intro names
  apply spends_node
  intro last
  rw [light]
  exact stmt_spare k start

theorem simple_statement_spends :
    Spends k Anywhere 0 (simpleStatement expr) fun s => s.tree.tally k := by
  apply spends_position
  intro start
  -- The word that a statement starts with leaves room for all that starts there.
  have headed : ∀ rest : Parser Stmt,
      Spends k Anywhere (spare k start 1) rest (fun s => s.tree.tally k) →
      Spends k (Seen start true) 0
        (do
          discard next
          rest)
        fun s => s.tree.tally k := by
    intro rest spends
    have first : Spends k (Seen start true) 0 (discard next) fun _ => 0 + spare k start 1 :=
      discard_spends next_spends_seen
    exact spends_bind (spends_weaken first (Nat.le_refl _) fun _ => by omega) fun _ => spends
  have bare : ∀ build : Span → Stmt, (∀ (spot : Nat × Nat) last,
      (build (.known spot.1 spot.2 last)).tree.tally k = mine k .stmt spot) →
      Spends k Anywhere (spare k start 1)
        (do return build (← spanFrom start)) fun s => s.tree.tally k := by
    intro build light
    apply spends_node
    intro last
    rw [light]
    exact stmt_spare k start
  apply spends_peek
  intro lexeme
  split
  · exact headed _ (return_statement_spends exprs start)
  · exact headed _ (import_statement_spends start)
  · exact headed _ (from_statement_spends start)
  · exact headed _ (raise_statement_spends exprs start)
  · exact headed _ (bare .pass fun _ _ => by simp)
  · exact headed _ (bare .brk fun _ _ => by simp)
  · exact headed _ (bare .cont fun _ _ => by simp)
  · exact headed _ (delete_statement_spends exprs start)
  · exact headed _ (assert_statement_spends exprs start)
  · exact headed _ (names_statement_spends (fun _ _ _ => by simp) start)
  · exact headed _ (names_statement_spends (fun _ _ _ => by simp) start)
  · exact spends_anywhere (expression_statement_spends exprs)

theorem simple_line_spends {credit : Nat} : Spends k Anywhere credit (simpleLine expr)
    fun ss => credit + total (fun s => s.tree.tally k) ss := by
  apply spends_bind (separated_spends ";" (simple_statement_spends exprs))
  intro statements
  apply spends_bind (discard_spends (try_symbol_any ";"))
  intro _
  apply spends_bind newline_spends
  intro _
  exact spends_pure _ (Nat.le_refl _)

end Simple

section Compound

variable {k : Key} {g : Nested}
  (exprs : ∀ goal : Goal, Reads k goal.bound (g.expr goal) fun e => e.tree.tally k)
  (stmts : Spends k Anywhere 0 g.stmts fun ss => total (fun s => s.tree.tally k) ss)

include exprs stmts

section Blocks

theorem block_spends {credit : Nat} :
    Spends k Anywhere credit g.block fun ss => credit + total (fun s => s.tree.tally k) ss := by
  apply spends_bind (symbol_any ":")
  intro _
  apply spends_look looks_peek
  intro lexeme
  split
  · apply spends_bind newline_spends
    intro _
    apply spends_bind indent_spends
    intro _
    apply spends_bind (many1_spends stmts)
    intro statements
    apply spends_bind dedent_spends
    intro _
    apply spends_pure
    exact Nat.le_of_eq (by rw [total_flatten])
  · exact simple_line_spends exprs

theorem else_block_spends {credit : Nat} : Spends k Anywhere credit (elseBlock g)
    fun ss => credit + total (fun s => s.tree.tally k) ss := by
  apply spends_bind (try_keyword_any "else")
  intro found
  split
  · exact block_spends exprs stmts
  · exact spends_pure _ (Nat.le_refl _)

end Blocks

section Branches

def branchTally (k : Key) (branch : (Nat × Nat) × Expr × List Stmt) : Nat :=
  mine k .stmt branch.1 + branch.2.1.tree.tally k + total (fun s => s.tree.tally k) branch.2.2

omit exprs stmts in
theorem if_tally (start : Nat × Nat) (endLine : Nat) (test : Expr) (body orelse : List Stmt) :
    (Stmt.ifElse (.known start.1 start.2 endLine) test body orelse).tree.tally k =
      mine k .stmt start + (test.tree.tally k + (total (fun s => s.tree.tally k) body +
        total (fun s => s.tree.tally k) orelse)) := by
  simp

omit exprs stmts in
theorem branches_tally (endLine : Nat) (others : List ((Nat × Nat) × Expr × List Stmt))
    (last : List Stmt) :
    total (fun s => s.tree.tally k) (others.foldr
      (fun (start, test, body) orelse =>
        [Stmt.ifElse (.known start.1 start.2 endLine) test body orelse]) last) =
      total (branchTally k) others + total (fun s => s.tree.tally k) last := by
  induction others with
  | nil => simp
  | cons branch rest ih =>
    obtain ⟨start, test, body⟩ := branch
    simp only [List.foldr_cons, total_cons, total_nil, if_tally, branchTally, ih]
    omega

theorem elif_spends :
    Spends k Anywhere 0
      (do
        let start ← position
        keyword "elif"
        let test ← g.expr .named
        return (start, test, ← g.block))
      (branchTally k) := by
  apply spends_position
  intro start
  have own := stmt_spare k start
  apply spends_bind (keyword_on "elif")
  intro _
  apply spends_bind (reads_any (exprs .named))
  intro test
  apply spends_bind (block_spends exprs stmts)
  intro body
  apply spends_pure
  simp [branchTally]
  omega

theorem if_statement_spends : Spends k Anywhere 0 (ifStatement g) fun s => s.tree.tally k := by
  apply spends_position
  intro start
  have own := stmt_spare k start
  apply spends_bind (keyword_on "if")
  intro _
  apply spends_bind (reads_any (exprs .named))
  intro test
  apply spends_bind (block_spends exprs stmts)
  intro body
  apply spends_bind (many_spends (elif_spends exprs stmts))
  intro others
  apply spends_bind (else_block_spends exprs stmts)
  intro last
  apply spends_look looks_get
  intro c
  apply spends_pure
  simp only [if_tally, branches_tally]
  omega

theorem while_statement_spends :
    Spends k Anywhere 0 (whileStatement g) fun s => s.tree.tally k := by
  apply spends_position
  intro start
  have own := stmt_spare k start
  apply spends_bind (keyword_on "while")
  intro _
  apply spends_bind (reads_any (exprs .named))
  intro test
  apply spends_bind (block_spends exprs stmts)
  intro body
  apply spends_bind (else_block_spends exprs stmts)
  intro orelse
  apply spends_node
  intro last
  simp
  omega

end Branches

section Headers

def forRest (g : Nested) (start : Nat × Nat) (isAsync : Bool) : Parser Stmt := do
  let place ← targets g.expr
  keyword "in"
  let iter ← g.expr .starExpressions
  let body ← g.block
  let orelse ← elseBlock g
  return .forLoop (← spanFrom start) isAsync place iter body orelse

theorem for_rest_spends (start : Nat × Nat) (isAsync : Bool) :
    Spends k Anywhere (0 + spare k start 1) (forRest g start isAsync) fun s => s.tree.tally k := by
  have own := stmt_spare k start
  apply spends_bind (reads_any (reads_targets exprs))
  intro place
  apply spends_bind (keyword_any "in")
  intro _
  apply spends_bind (reads_any (exprs .starExpressions))
  intro iter
  apply spends_bind (block_spends exprs stmts)
  intro body
  apply spends_bind (else_block_spends exprs stmts)
  intro orelse
  apply spends_node
  intro last
  simp
  omega

omit stmts in
theorem with_item_spends : Spends k Anywhere 0 (withItem g) fun item => item.tree.tally k := by
  apply spends_bind (exprs .expression).any
  intro context
  apply spends_bind (try_keyword_any "as")
  intro named
  split
  · apply spends_bind (reads_any (reads_target exprs))
    intro place
    apply spends_look looks_peek
    intro lexeme
    have fine : (WithItem.mk context (some place)).tree.tally k ≤
        context.tree.tally k + place.tree.tally k := by
      simp [WithItem.tree, optionTree]
    split
    · exact spends_pure _ fine
    · exact spends_pure _ fine
    · exact spends_pure _ fine
    · exact spends_failure
  · apply spends_pure
    simp [WithItem.tree, optionTree]

omit stmts in
theorem with_items_spend {credit : Nat} : Spends k Anywhere credit (withItems g)
    fun items => credit + total (fun item => item.tree.tally k) items := by
  apply spends_or
  · apply spends_bind (symbol_any "(")
    intro _
    apply spends_bind (comma_list_spends (with_item_spends exprs))
    rintro ⟨items, commas⟩
    apply spends_bind (symbol_any ")")
    intro _
    apply spends_look (looks_next_symbol ":")
    intro colon
    split
    · exact spends_pure _ (Nat.le_refl _)
    · exact spends_failure
  · exact separated_spends "," (with_item_spends exprs)

omit exprs stmts in
theorem with_items_tally (items : List WithItem) :
    tallies k (items.map WithItem.tree) = total (fun item => item.tree.tally k) items := by
  induction items with
  | nil => rfl
  | cons item rest ih => simp [ih]

def withRest (g : Nested) (start : Nat × Nat) (isAsync : Bool) : Parser Stmt := do
  let items ← withItems g
  let body ← g.block
  return .withBlock (← spanFrom start) isAsync items body

theorem with_rest_spends (start : Nat × Nat) (isAsync : Bool) :
    Spends k Anywhere (0 + spare k start 1) (withRest g start isAsync) fun s => s.tree.tally k := by
  have own := stmt_spare k start
  apply spends_bind (with_items_spend exprs)
  intro items
  apply spends_bind (block_spends exprs stmts)
  intro body
  apply spends_node
  intro last
  simp [with_items_tally]
  omega

theorem handler_spends :
    Spends k Anywhere 0 (handler g) fun found => (handlerTree found.1).tally k := by
  apply spends_position
  intro start
  apply spends_bind (spends_anywhere (keyword_any "except"))
  intro _
  apply spends_bind (try_symbol_any "*")
  intro isStar
  have typed : Spends k Anywhere 0
      (do
        let type ← g.expr .expression
        let id ← asName
        let body ← g.block
        return ((⟨← spanFrom start, some type, id, body⟩ : Handler Stmt), isStar))
      fun found => (handlerTree found.1).tally k := by
    apply spends_bind (exprs .expression).any
    intro type
    apply spends_bind as_name_spends
    intro id
    apply spends_bind (block_spends exprs stmts)
    intro body
    apply spends_node
    intro last
    simp [handlerTree, optionTree]
  apply spends_look (looks_next_symbol ":")
  intro colon
  split
  · apply spends_bind (block_spends exprs stmts)
    intro body
    apply spends_node
    intro last
    simp [handlerTree, optionTree]
  · exact typed

end Headers

section Definitions

theorem try_statement_spends : Spends k Anywhere 0 (tryStatement g) fun s => s.tree.tally k := by
  apply spends_position
  intro start
  have own := stmt_spare k start
  apply spends_bind (keyword_on "try")
  intro _
  apply spends_bind (block_spends exprs stmts)
  intro body
  apply spends_bind (many_spends (handler_spends exprs stmts))
  intro handlers
  have made : ∀ orelse finalbody : List Stmt,
      Spends k Anywhere (0 + spare k start 1 + total (fun s => s.tree.tally k) body +
          total (fun found => (handlerTree found.1).tally k) handlers +
          total (fun s => s.tree.tally k) orelse + total (fun s => s.tree.tally k) finalbody)
        (do
          if handlers.isEmpty && finalbody.isEmpty then failure
          return Stmt.tryBlock (← spanFrom start) (handlers.any (·.2)) body (handlers.map (·.1))
            orelse finalbody : Parser Stmt)
        fun s : Stmt => s.tree.tally k := by
    intro orelse finalbody
    dsimp only
    split
    · exact spends_failure_bind
    · apply spends_node
      intro last
      simp
      omega
  have ending : ∀ orelse : List Stmt,
      Spends k Anywhere (0 + spare k start 1 + total (fun s => s.tree.tally k) body +
          total (fun found => (handlerTree found.1).tally k) handlers +
          total (fun s => s.tree.tally k) orelse)
        (do
          let finalbody ← if ← tryKeyword "finally" then g.block else pure []
          if handlers.isEmpty && finalbody.isEmpty then failure
          return Stmt.tryBlock (← spanFrom start) (handlers.any (·.2)) body (handlers.map (·.1))
            orelse finalbody : Parser Stmt)
        fun s : Stmt => s.tree.tally k := by
    intro orelse
    apply spends_bind (try_keyword_any "finally")
    intro found
    dsimp only
    split
    · exact spends_bind (block_spends exprs stmts) (made orelse)
    · exact made orelse []
  dsimp only
  split
  · exact spends_failure_bind
  · split
    · exact ending []
    · exact spends_bind (else_block_spends exprs stmts) ending

def functionRest (g : Nested) (start : Nat × Nat) (isAsync : Bool) (decorators : List Expr) :
    Parser Stmt := do
  let id ← name
  symbol "("
  let params ← parameters g.expr true ")"
  symbol ")"
  let returns ← if ← trySymbol "->" then some <$> g.expr .expression else pure none
  let body ← g.block
  return .function (← spanFrom start) isAsync id params body decorators returns

theorem function_rest_spends (start : Nat × Nat) (isAsync : Bool) (decorators : List Expr) :
    Spends k Anywhere (total (fun e => e.tree.tally k) decorators + spare k start 1)
      (functionRest g start isAsync decorators) fun s => s.tree.tally k := by
  have own := stmt_spare k start
  apply spends_bind name_any
  intro id
  apply spends_bind (symbol_any "(")
  intro _
  apply spends_bind (spends_frame _ (parameters_spend exprs true ")"))
  intro params
  apply spends_bind (symbol_any ")")
  intro _
  have ending : ∀ (returns : Option Expr),
      Spends k Anywhere (total (fun e => e.tree.tally k) decorators + spare k start 1 +
          (parametersTree params).tally k + tallies k (optionTree returns))
        (do
          let body ← g.block
          return Stmt.function (← spanFrom start) isAsync id params body decorators returns :
            Parser Stmt)
        fun s : Stmt => s.tree.tally k := by
    intro returns
    apply spends_bind (block_spends exprs stmts)
    intro body
    apply spends_node
    intro last
    simp
    omega
  apply spends_bind (try_symbol_any "->")
  intro arrow
  split
  · apply spends_bind (some_spends (reads_any (exprs .expression)))
    exact ending
  · exact ending none

theorem function_statement_spends (start : Nat × Nat) (isAsync : Bool) (decorators : List Expr) :
    Spends k (On start) (total (fun e => e.tree.tally k) decorators)
      (functionStatement g start isAsync decorators) fun s => s.tree.tally k :=
  spends_bind (keyword_on "def") fun _ => function_rest_spends exprs stmts start isAsync decorators

theorem class_statement_spends (decorators : List Expr) :
    Spends k Anywhere (total (fun e => e.tree.tally k) decorators)
      (classStatement g decorators) fun s => s.tree.tally k := by
  apply spends_position
  intro start
  have own := stmt_spare k start
  apply spends_bind (keyword_on "class")
  intro _
  apply spends_bind name_any
  intro id
  have ending : ∀ (given : Arguments),
      Spends k Anywhere
        (total (fun e => e.tree.tally k) decorators + spare k start 1 + given.tally k)
        (do
          let body ← g.block
          return Stmt.cls (← spanFrom start) id given.args given.keywords body decorators :
            Parser Stmt)
        fun s : Stmt => s.tree.tally k := by
    intro given
    apply spends_bind (block_spends exprs stmts)
    intro body
    apply spends_node
    intro last
    simp [Arguments.tally]
    omega
  apply spends_bind (try_symbol_any "(")
  intro opened
  split
  · apply spends_bind (arguments_spend exprs)
    intro given
    apply spends_bind (symbol_any ")")
    intro _
    exact ending given
  · exact ending ⟨.plain, [], []⟩

theorem definition_spends (decorators : List Expr) :
    Spends k Anywhere (total (fun e => e.tree.tally k) decorators)
      (definition g decorators) fun s => s.tree.tally k := by
  apply spends_position
  intro start
  apply spends_peek
  intro lexeme
  split
  · exact spends_anywhere (class_statement_spends exprs stmts decorators)
  · apply spends_bind (discard_spends next_spends_seen)
    intro _
    exact spends_bind (keyword_any "def")
      fun _ => function_rest_spends exprs stmts start true decorators
  · exact spends_pre (function_statement_spends exprs stmts start false decorators) seen_on

theorem decorated_spends : Spends k Anywhere 0 (decorated g) fun s => s.tree.tally k := by
  have decorator : Spends k Anywhere 0
      (do
        symbol "@"
        let value ← g.expr .named
        newline
        return value)
      fun e => e.tree.tally k := by
    apply spends_bind (symbol_any "@")
    intro _
    apply spends_bind (exprs .named).any
    intro value
    apply spends_bind newline_spends
    intro _
    exact spends_pure _ (Nat.le_refl _)
  apply spends_bind (many1_spends decorator)
  intro decorators
  rw [Nat.zero_add]
  exact definition_spends exprs stmts decorators

end Definitions

section Matching

omit stmts in
theorem match_subject_spends {credit : Nat} :
    Spends k Anywhere credit (matchSubject g) fun e => credit + e.tree.tally k := by
  apply spends_position
  intro start
  apply spends_look (looks_next_symbol "*")
  intro isStarred
  apply spends_bind (spends_anywhere (reads_any (reads_star_or exprs .named)))
  intro first
  have ending : ∀ (more : List Expr),
      Spends k Anywhere (credit + first.tree.tally k + total (fun e => e.tree.tally k) more)
        (do return Expr.tuple (← spanFrom start) (first :: more) .load : Parser Expr)
        fun e : Expr => credit + e.tree.tally k := by
    intro more
    apply spends_node
    intro last
    simp [Expr.tree]
    omega
  apply spends_bind (try_symbol_any ",")
  intro comma
  split
  · apply spends_look (looks_next_symbol ":")
    intro colon
    split
    · exact ending []
    · apply spends_bind (comma_items_spend (reads_star_or exprs .named).any)
      exact ending
  · split
    · exact spends_failure
    · exact spends_pure _ (Nat.le_refl _)

omit exprs stmts in
theorem soft_word_on {start : Nat × Nat} {credit : Nat} (word : String) :
    Spends k (On start) credit (softWord word) fun _ => credit + spare k start 1 := by
  apply spends_bind name_on
  intro found
  split
  · exact spends_pure _ (Nat.le_refl _)
  · exact spends_failure

omit exprs stmts in
theorem soft_word_any {credit : Nat} (word : String) :
    Spends k Anywhere credit (softWord word) fun _ => credit := by
  apply spends_bind name_any
  intro found
  split
  · exact spends_pure _ (Nat.le_refl _)
  · exact spends_failure

theorem match_case_spends : Spends k Anywhere 0 (matchCase g) fun c => (caseTree c).tally k := by
  apply spends_bind (soft_word_any "case")
  intro _
  apply spends_bind (case_patterns_spend exprs g.depth)
  intro found
  have ending : ∀ (guard : Option Expr),
      Spends k Anywhere (found.tree.tally k + tallies k (optionTree guard))
        (do
          let body ← g.block
          return ⟨found, guard, body⟩)
        fun c => (caseTree c).tally k := by
    intro guard
    apply spends_bind (block_spends exprs stmts)
    intro body
    apply spends_pure
    simp [caseTree]
    omega
  apply spends_bind (try_keyword_any "if")
  intro guarded
  split
  · apply spends_bind (some_spends (reads_any (exprs .named)))
    exact ending
  · exact ending none

theorem match_statement_spends :
    Spends k Anywhere 0 (matchStatement g) fun s => s.tree.tally k := by
  apply spends_position
  intro start
  have own := stmt_spare k start
  apply spends_bind (soft_word_on "match")
  intro _
  apply spends_bind (match_subject_spends exprs)
  intro subject
  apply spends_bind (symbol_any ":")
  intro _
  apply spends_bind newline_spends
  intro _
  apply spends_bind indent_spends
  intro _
  apply spends_bind (many1_spends (match_case_spends exprs stmts))
  intro cases
  apply spends_bind dedent_spends
  intro _
  apply spends_node
  intro last
  simp
  omega

end Matching

section Whole

omit exprs stmts in
theorem one_spends {pre : Cursor → Prop} {credit : Nat} {p : Parser Stmt}
    (reads : Spends k pre credit p fun s => s.tree.tally k) :
    Spends k pre credit (do return [← p]) fun ss => total (fun s => s.tree.tally k) ss := by
  apply spends_bind reads
  intro s
  exact spends_pure _ (by simp)

theorem statement_spends :
    Spends k Anywhere 0 (statement g) fun ss => total (fun s => s.tree.tally k) ss := by
  have simple : Spends k Anywhere 0 (simpleLine g.expr)
      fun ss => total (fun s => s.tree.tally k) ss :=
    spends_weaken (simple_line_spends exprs) (Nat.le_refl 0) fun ss => by simp
  have defined : Spends k Anywhere 0 (definition g []) fun s => s.tree.tally k :=
    definition_spends exprs stmts []
  apply spends_position
  intro start
  apply spends_peek
  intro lexeme
  dsimp only
  split
  · exact spends_anywhere (one_spends (if_statement_spends exprs stmts))
  · exact spends_anywhere (one_spends (while_statement_spends exprs stmts))
  · apply one_spends
    exact spends_pre (spends_bind (keyword_on "for")
      fun _ => for_rest_spends exprs stmts start false) seen_on
  · apply one_spends
    exact spends_pre (spends_bind (keyword_on "with")
      fun _ => with_rest_spends exprs stmts start false) seen_on
  · exact spends_anywhere (one_spends (try_statement_spends exprs stmts))
  · exact spends_anywhere (one_spends defined)
  · exact spends_anywhere (one_spends defined)
  · exact spends_anywhere (one_spends (decorated_spends exprs stmts))
  · apply spends_look looks_peek_second
    intro second
    split
    · apply spends_bind (discard_spends next_spends_seen)
      intro _
      apply one_spends
      exact spends_bind (keyword_any "for") fun _ => for_rest_spends exprs stmts start true
    · apply spends_bind (discard_spends next_spends_seen)
      intro _
      apply one_spends
      exact spends_bind (keyword_any "with") fun _ => with_rest_spends exprs stmts start true
    · exact spends_anywhere (one_spends defined)
  · apply spends_anywhere
    exact spends_or (one_spends (match_statement_spends exprs stmts)) simple
  · exact spends_anywhere simple

end Whole

end Compound

section Modules

theorem nested_statement_spends {k : Key} {expr : Goal → Parser Expr}
    (exprs : ∀ goal : Goal, Reads k goal.bound (expr goal) fun e => e.tree.tally k)
    (patternDepth depth : Nat) :
    Spends k Anywhere 0 (nestedStatement expr patternDepth depth)
      fun ss => total (fun s => s.tree.tally k) ss := by
  induction depth with
  | zero => exact spends_failure
  | succ depth ih => exact statement_spends exprs ih

theorem whole_module_spends (k : Key) (depth : Nat) :
    Spends k Anywhere 0 (wholeModule depth) fun module => module.tree.tally k := by
  apply spends_bind (many_spends (nested_statement_spends (reads_nested depth k) depth depth))
  intro statements
  apply spends_look looks_peek
  intro lexeme
  split
  · apply spends_pure
    simp [Module.tree]
  · exact spends_failure

end Modules

end RefactorAdvice.Code.Grammar

namespace RefactorAdvice.Code

def Lexeme.literal? : Lexeme → Option Literal
  | .text literal => some literal
  | _ => none

/-- The replacement fields of a text have their true places: a literal with fields stands on one
line, or without a tripled quote in it. -/
def FieldsPlaced (cs : List Char) : Prop :=
  ∀ t ∈ (tokens cs).getD [], ∀ literal ∈ t.lexeme.literal?, literal.isFormat = true →
    '\n' ∉ literal.body ∨ Untripled literal.body

instance (cs : List Char) : Decidable (FieldsPlaced cs) :=
  inferInstanceAs (Decidable (∀ t ∈ (tokens cs).getD [], _))

theorem parse_tally {names : CharNames} {cs : List Char} {module : Module}
    (read : parse names cs = some module) (k : Key)
    (placed : k.Real → k.kind ≠ .stmt → FieldsPlaced cs) :
    module.tree.tally k ≤ ahead k (1, 0) := by
  obtain ⟨ts, found, read⟩ := Option.bind_eq_some_iff.mp read
  obtain ⟨⟨_, after⟩, read, same⟩ := Option.bind_eq_some_iff.mp read
  cases same
  obtain ⟨sound, fits⟩ := tokens_fit found
  have tame : (Cursor.start names ts 1).Tame k := by
    intro t member
    refine ⟨tokens_below found t member, fun real literal text format => ?_⟩
    obtain ⟨margin, unified, _⟩ := sound t member literal text
    unfold FieldsPlaced at placed
    rw [found] at placed
    exact ⟨margin, unified,
      fun other => placed real other t member literal (by rw [text]; rfl) format⟩
  obtain ⟨_, spent⟩ :=
    Grammar.whole_module_spends k (cs.length + 2) _ module after trivial tame read
  dsimp only at spent
  have bounded : room k (Cursor.start names ts 1).rest ≤ ahead k (1, 0) := fits k
  omega

/-- No two nodes of a module that was read bear the same key. -/
theorem parse_tally_le_one {names : CharNames} {cs : List Char} {module : Module}
    (read : parse names cs = some module)
    (placed : FieldsPlaced cs) (k : Key) : module.tree.tally k ≤ 1 :=
  Nat.le_trans (parse_tally read k fun _ _ => placed) (ahead_le_one k _)

end RefactorAdvice.Code
