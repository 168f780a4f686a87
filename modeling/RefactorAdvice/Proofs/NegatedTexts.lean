import Mathlib.Data.List.Basic
import Mathlib.Data.Option.Basic
import RefactorAdvice.Code.Likeness
import RefactorAdvice.Proofs.Positions.Operators

/-!
Texts behind `not`. A text spells an expression if its lexemes read as the expression wherever they
stand. Scanning goes on behind `not` as it does at the beginning of a text, only at other places;
and what is read as an expression is read as an operand of `not`, unless it is an operation that
binds less tightly. So the text behind `not` spells the negation.
-/

namespace RefactorAdvice.Code

section Scanning

/-- A scan that goes on over the same characters as another, behind tokens with some lexemes and at
another place. -/
structure Scan.Trails (front : List Lexeme) (s t : Scan) : Prop where
  rest : t.rest = s.rest
  lineStart : t.lineStart = s.lineStart
  blocks : t.blocks = s.blocks
  brackets : t.brackets = s.brackets
  found : t.found.map (·.lexeme) = s.found.map (·.lexeme) ++ front

def blanks : List Char := [' ', '\t', '\x0c', '\n', '\r', '#', '\\']

def Scan.Begun (s : Scan) : Prop :=
  s.found ≠ [] ∨ s.lineStart = false ∧ ∃ c rest, s.rest = c :: rest ∧ c ∉ blanks

variable {front : List Lexeme} {origin : Origin} {s t : Scan}

theorem line_is_blank_trails (trails : s.Trails front t) (begun : s.found ≠ []) :
    t.lineIsBlank = s.lineIsBlank := by
  have same := trails.found
  unfold Scan.lineIsBlank
  cases first : s.found with
  | nil => exact absurd first begun
  | cons a rest =>
    cases second : t.found with
    | nil =>
      rw [first, second] at same
      cases same
    | cons b others =>
      rw [first, second] at same
      have heads : b.lexeme = a.lexeme := (List.cons.inj same).1
      dsimp only
      rw [heads]

theorem push_trails (trails : s.Trails front t) (lexeme : Lexeme) (size : Nat) (rest : List Char) :
    (s.push origin lexeme size rest).Trails front (t.push origin lexeme size rest) := by
  refine ⟨rfl, trails.lineStart, trails.blocks, trails.brackets, ?_⟩
  simp [Scan.push, Origin.token, trails.found]

theorem found_of_begun (begun : s.Begun) {c : Char} {rest : List Char}
    (standing : s.rest = c :: rest) (blank : c ∈ blanks) : s.found ≠ [] := by
  rcases begun with found | ⟨_, d, _, other, clear⟩
  · exact found
  · rw [standing] at other
    obtain ⟨rfl, _⟩ := List.cons.inj other
    exact absurd blank clear

theorem rel_map {α β γ : Type} {r : β → γ → Prop} {f : α → β} {g : α → γ} (x : Option α)
    (each : ∀ a, r (f a) (g a)) : Option.Rel r (x.map f) (x.map g) := by
  cases x with
  | none => exact .none
  | some a => exact .some (each a)

/-- A scan that trails another takes the same step, or neither takes one. -/
theorem next_trails (trails : s.Trails front t) (begun : s.Begun) :
    Option.Rel (fun a b => a.Trails front b ∧ a.found ≠ []) (s.next origin) (t.next origin) := by
  obtain ⟨here, starts, blocks, brackets, found⟩ := trails
  have onward : ∀ (rest : List Char) (line column line' column' : Nat), s.found ≠ [] →
      ({ s with rest := rest, line := line, column := column } : Scan).Trails front
        { t with rest := rest, line := line', column := column' } ∧ s.found ≠ [] :=
    fun _ _ _ _ _ kept => ⟨⟨rfl, starts, blocks, brackets, found⟩, kept⟩
  have onto : ∀ (lexeme : Lexeme) (size : Nat) (rest : List Char),
      (s.push origin lexeme size rest).Trails front (t.push origin lexeme size rest) ∧
        (s.push origin lexeme size rest).found ≠ [] :=
    fun lexeme size rest => ⟨push_trails ⟨here, starts, blocks, brackets, found⟩ lexeme size rest,
      List.cons_ne_nil _ _⟩
  unfold Scan.next
  rw [here]
  split
  · exact .none
  · -- the end of a line is told only behind a token, so both must have found one
    rename_i standing
    have kept := found_of_begun begun standing (by decide)
    rw [line_is_blank_trails ⟨here, starts, blocks, brackets, found⟩ kept, brackets]
    dsimp only
    split
    · exact .some ⟨⟨rfl, rfl, blocks, rfl, by simp [Origin.token, found]⟩, List.cons_ne_nil _ _⟩
    · exact .some ⟨⟨rfl, rfl, blocks, rfl, found⟩, kept⟩
  · rename_i standing
    exact .some (onward _ _ _ _ _ (found_of_begun begun standing (by decide)))
  · rename_i standing
    exact .some (onward _ _ _ _ _ (found_of_begun begun standing (by decide)))
  · rename_i standing
    exact .some (onward _ _ _ _ _ (found_of_begun begun standing (by decide)))
  · rename_i standing
    exact .some (onward _ _ _ _ _ (found_of_begun begun standing (by decide)))
  · rename_i standing
    exact rel_map _ fun _ => onward _ _ _ _ _ (found_of_begun begun standing (by decide))
  · split
    · exact .none
    · exact .some ⟨⟨rfl, starts, blocks, brackets, by simp [Origin.token, found]⟩,
        List.cons_ne_nil _ _⟩
    · split
      · exact rel_map _ fun _ => onto _ _ _
      · split
        · exact rel_map _ fun _ => onto _ _ _
        · split
          · rw [brackets]
            refine rel_map _ fun _ => ⟨⟨rfl, starts, blocks, rfl, ?_⟩, List.cons_ne_nil _ _⟩
            exact (onto _ 0 []).1.found
          · exact .none

/-- The margin of a line is the same wherever the line stands. -/
theorem read_margin_trails (width narrow : Nat) (fixed : Option Nat) (line column : Nat)
    (cs : List Char) (line' column' : Nat) :
    Option.Rel (fun a b => b.margin = a.margin ∧ b.rest = a.rest)
      (readMargin width narrow fixed line column cs)
      (readMargin width narrow fixed line' column' cs) := by
  fun_induction readMargin width narrow fixed line column cs generalizing line' column' with
  | case1 width narrow fixed line column rest ih => exact ih _ _
  | case2 width narrow fixed line column rest ih => exact ih _ _
  | case3 width narrow fixed line column rest ih => exact ih _ _
  | case4 width narrow fixed line column rest last =>
    change Option.Rel _ none (if rest.isEmpty = true then none else _)
    rw [if_pos last]
    exact .none
  | case5 width narrow fixed line column rest more kept ih =>
    change Option.Rel _ _ (if rest.isEmpty = true then none else
      readMargin width narrow kept (line' + 1) 0 rest)
    rw [if_neg more]
    exact ih _ _
  | case6 width narrow fixed line column rest other =>
    rw [readMargin]
    · exact .none
    · exact other
  | case7 width narrow fixed line column rest blank tab feed broken slash =>
    rw [readMargin.eq_def]
    split
    · exact absurd rfl (blank _)
    · exact absurd rfl (tab _)
    · exact absurd rfl (feed _)
    · exact absurd rfl (broken _)
    · exact absurd rfl (slash _)
    · exact .some ⟨rfl, rfl⟩

theorem start_line_trails (trails : s.Trails front t) (begun : s.found ≠ []) :
    Option.Rel (fun a b => a.Trails front b ∧ a.found ≠ []) (s.startLine origin)
      (t.startLine origin) := by
  obtain ⟨here, starts, blocks, brackets, found⟩ := trails
  unfold Scan.startLine
  rw [here]
  have margins := read_margin_trails 0 0 none s.line s.column s.rest t.line t.column
  cases first : readMargin 0 0 none s.line s.column s.rest with
  | none =>
    rw [first] at margins
    cases second : readMargin 0 0 none t.line t.column s.rest with
    | none => exact .none
    | some b =>
      rw [second] at margins
      cases margins
  | some a =>
    rw [first] at margins
    cases second : readMargin 0 0 none t.line t.column s.rest with
    | none =>
      rw [second] at margins
      cases margins
    | some b =>
      rw [second] at margins
      obtain ⟨margin, rest⟩ : b.margin = a.margin ∧ b.rest = a.rest := by
        cases margins with
        | some same => exact same
      simp only [Option.bind_eq_bind, Option.bind_some, rest, margin, blocks, brackets]
      split
      · exact .some ⟨⟨rfl, rfl, rfl, rfl, found⟩, begun⟩
      · exact .some ⟨⟨rfl, rfl, rfl, rfl, found⟩, begun⟩
      · split
        · cases moveMargin s.blocks a.margin with
          | none => exact .none
          | some moved =>
            refine .some ⟨⟨rfl, rfl, rfl, rfl, ?_⟩, ?_⟩
            · simp [Origin.token, found]
            · simp [begun]
        · exact .some ⟨⟨rfl, rfl, rfl, rfl, found⟩, begun⟩

/-- A scan that trails another finds the same lexemes, behind those it has. -/
theorem run_trails (trails : s.Trails front t) (begun : s.Begun) {steps more : Nat}
    (le : steps ≤ more) {ts : List Token} (ran : Scan.run origin steps s = some ts) :
    ∃ us, Scan.run origin more t = some us ∧
      us.map (·.lexeme) = front.reverse ++ ts.map (·.lexeme) := by
  induction steps generalizing s t more with
  | zero => cases ran
  | succ steps ih =>
    obtain ⟨more, rfl⟩ := Nat.exists_eq_add_of_le' (Nat.le_trans (Nat.le_add_left 1 steps) le)
    unfold Scan.run at ran ⊢
    rw [trails.rest]
    split at ran
    · rename_i empty
      rw [if_pos empty]
      unfold Scan.finish at ran ⊢
      rw [trails.brackets, trails.blocks]
      split at ran
      · rename_i closed
        cases ran
        rw [if_pos closed]
        refine ⟨_, rfl, ?_⟩
        simp [Origin.token, trails.found]
      · cases ran
    · rename_i nonempty
      rw [if_neg nonempty, trails.lineStart]
      have stepped : Option.Rel (fun a b => a.Trails front b ∧ a.found ≠ [])
          (if s.lineStart then s.startLine origin else s.next origin)
          (if s.lineStart then t.startLine origin else t.next origin) := by
        split
        · rename_i starts
          apply start_line_trails trails
          rcases begun with found | ⟨inside, _⟩
          · exact found
          · rw [inside] at starts
            cases starts
        · exact next_trails trails begun
      generalize (if s.lineStart then s.startLine origin else s.next origin) = first
        at ran stepped
      generalize (if s.lineStart then t.startLine origin else t.next origin) = second at stepped ⊢
      cases stepped with
      | none => cases ran
      | some both => exact ih both.1 (Or.inl both.2) (by omega) ran

theorem unify_onto_behind (done front cs : List Char) (plain : '\r' ∉ front) :
    Text.unifyBreaksOnto done (front ++ cs) = Text.unifyBreaksOnto (front.reverse ++ done) cs := by
  induction front generalizing done with
  | nil => rfl
  | cons c rest ih =>
    obtain ⟨other, later⟩ := not_or.mp (mt List.mem_cons.mpr plain)
    rw [List.cons_append, Text.unifyBreaksOnto, ih _ later]
    · simp
    all_goals
      intros
      simp_all

theorem unify_onto_done (done base cs : List Char) :
    Text.unifyBreaksOnto (done ++ base) cs = base.reverse ++ Text.unifyBreaksOnto done cs := by
  fun_induction Text.unifyBreaksOnto done cs with
  | case1 done => simp [Text.unifyBreaksOnto]
  | case2 done rest ih => exact ih
  | case3 done rest other ih =>
    rw [← ih, Text.unifyBreaksOnto]
    · rfl
    · exact other
  | case4 done c rest other single ih =>
    rw [← ih, Text.unifyBreaksOnto]
    · rfl
    · exact other
    · exact single

theorem unify_breaks_behind (front cs : List Char) (plain : '\r' ∉ front) :
    Text.unifyBreaks (front ++ cs) = front ++ Text.unifyBreaks cs := by
  have clear : front.any (· == '\r') = false := by
    simpa using fun c member (same : c = '\r') => plain (same ▸ member)
  unfold Text.unifyBreaks
  rw [List.any_append, clear, Bool.false_or]
  split
  · rw [unify_onto_behind _ _ _ plain, List.append_nil, ← List.nil_append front.reverse,
      unify_onto_done, List.reverse_reverse]
  · rfl

theorem close_last_line_behind (front : List Char) {cs : List Char} (more : cs ≠ []) :
    closeLastLine (front ++ cs) = front ++ closeLastLine cs := by
  unfold closeLastLine
  rw [List.getLast?_append_of_ne_nil _ more]
  split
  · rfl
  · rfl
  · exact List.append_assoc _ _ _

def Opens (cs : List Char) : Prop := ∃ c rest, cs = c :: rest ∧ c ∉ blanks

def scanned (cs : List Char) : List Char := closeLastLine (Text.unifyBreaks cs)

theorem opens_unified {cs : List Char} (opens : Opens cs) : Opens (Text.unifyBreaks cs) := by
  obtain ⟨c, rest, rfl, clear⟩ := opens
  have plain : '\r' ∉ [c] := fun member => clear (List.mem_singleton.mp member ▸ by decide)
  exact ⟨c, _, unify_breaks_behind [c] rest plain, clear⟩

theorem opens_scanned {cs : List Char} (opens : Opens cs) : Opens (scanned cs) := by
  obtain ⟨c, rest, kept, clear⟩ := opens_unified opens
  unfold scanned closeLastLine
  rw [kept]
  split
  · exact ⟨c, _, rfl, clear⟩
  · exact ⟨c, _, rfl, clear⟩
  · exact ⟨c, _, rfl, clear⟩

theorem start_line_opened {cs : List Char} (opens : Opens cs) (origin : Origin) :
    (⟨cs, 1, 0, true, [], [], []⟩ : Scan).startLine origin =
      some ⟨cs, 1, 0, false, [], [], []⟩ := by
  obtain ⟨c, rest, rfl, clear⟩ := opens
  have unlike {blank : Char} (among : blank ∈ blanks) (others : List Char) :
      c :: rest ≠ blank :: others := fun same => clear ((List.cons.inj same).1 ▸ among)
  have margin : readMargin 0 0 none 1 0 (c :: rest) = some ⟨⟨0, 0⟩, c :: rest, 1, 0⟩ := by
    rw [readMargin.eq_def]
    split
    case h_6 => rfl
    all_goals
      rename_i same
      exact absurd same (unlike (by decide) _)
  unfold Scan.startLine
  simp only [margin]
  dsimp only [Option.bind_eq_bind, Option.bind_some]
  split
  · rename_i same
    exact absurd same (unlike (by decide) _)
  · rename_i same
    exact absurd same (unlike (by decide) _)
  · rfl

/-- The scan of a text that begins with a token, once its first line is started. -/
theorem tokens_opened {cs : List Char} (opens : Opens cs) :
    tokens cs = if (scanned cs).contains '\x00' then none else
      Scan.run ⟨1, 0⟩ (2 * (scanned cs).length) ⟨scanned cs, 1, 0, false, [], [], []⟩ := by
  have nonempty : (scanned cs).isEmpty = false := by
    obtain ⟨c, rest, same, _⟩ := opens_scanned opens
    rw [same]
    rfl
  unfold tokens tokensAt
  change (if (scanned cs).contains '\x00' then none else
    Scan.run ⟨1, 0⟩ (2 * (scanned cs).length + 1) ⟨scanned cs, 1, 0, true, [], [], []⟩) = _
  rw [Scan.run]
  simp [nonempty, start_line_opened (opens_scanned opens)]

/-- The scan of a text behind `not`. -/
theorem run_negated (steps : Nat) (cs : List Char) :
    Scan.run ⟨1, 0⟩ (steps + 2) ⟨"not ".toList ++ cs, 1, 0, false, [], [], []⟩ =
      Scan.run ⟨1, 0⟩ steps ⟨cs, 1, 4, false, [], [], [⟨.keyword "not", 1, 0, 1⟩]⟩ := rfl

theorem negated_tokens {cs : List Char} {ts : List Token} (opens : Opens cs)
    (cut : tokens cs = some ts) :
    ∃ us, tokens ("not ".toList ++ cs) = some us ∧
      us.map (·.lexeme) = .keyword "not" :: ts.map (·.lexeme) := by
  have whole : scanned ("not ".toList ++ cs) = "not ".toList ++ scanned cs := by
    obtain ⟨c, rest, kept, _⟩ := opens_unified opens
    unfold scanned
    rw [unify_breaks_behind _ _ (by decide), close_last_line_behind]
    rw [kept]
    exact List.cons_ne_nil c rest
  rw [tokens_opened opens] at cut
  have fresh : Opens ("not ".toList ++ cs) := ⟨'n', _, rfl, by decide⟩
  rw [tokens_opened fresh, whole]
  split at cut
  · cases cut
  · rename_i clean
    have longer : 2 * ("not ".toList ++ scanned cs).length = 2 * (scanned cs).length + 6 + 2 := by
      simp
      omega
    have trails : (⟨scanned cs, 1, 0, false, [], [], []⟩ : Scan).Trails [.keyword "not"]
        ⟨scanned cs, 1, 4, false, [], [], [⟨.keyword "not", 1, 0, 1⟩]⟩ := ⟨rfl, rfl, rfl, rfl, rfl⟩
    rw [if_neg (by simpa using clean), longer, run_negated]
    exact run_trails trails (Or.inr ⟨rfl, opens_scanned opens⟩) (Nat.le_add_right _ 6) cut

end Scanning

section Descent

open RefactorAdvice.Code.Parser Grammar

def Expr.isLoose : Expr → Bool
  | .boolOp .. | .conditional .. | .lambda .. => true
  | _ => false

theorem looks_position : Looks position := by
  rintro ⟨rest, endLine, size⟩ start after read
  cases rest with
  | nil => cases read
  | cons t others =>
    cases read
    rfl

variable {α β : Type} {inner : Goal → Parser Expr} {c between after : Cursor} {e : Expr}

theorem bind_ran {x : Parser α} {next : α → Parser β} {value : α}
    (ran : x c = some (value, between)) : (x >>= next) c = next value between := by
  change (x c).bind _ = _
  rw [ran]
  rfl

theorem bind_failed {x : Parser α} {next : α → Parser β} (failed : x c = none) :
    (x >>= next) c = none := by
  change (x c).bind _ = _
  rw [failed]
  rfl

theorem position_ran {t : Token} {rest : List Token} (standing : c.rest = t :: rest) :
    position c = some ((t.line, t.column), c) := by
  obtain ⟨_, endLine, size⟩ := c
  cases standing
  rfl

-- each step of a repetition adds an item, so one without items has taken none
theorem many_empty {item : Parser α} (read : many item c = some ([], after)) : after = c := by
  obtain ⟨items, between, ran, read⟩ := bind_read read
  obtain ⟨reversed, rfl⟩ := Prod.mk.inj (Option.some.inj read)
  have kept := iterate_keeps (P := fun (items : List α) here => items = [] → here = c)
    (by
      intro items here next after _ stepped
      obtain ⟨value, _, _, stepped⟩ := bind_read stepped
      cases stepped
      intro empty
      cases empty)
    [] items c between (fun _ => rfl) ran
  exact kept (List.reverse_eq_nil_iff.mp reversed)

/-- What is read as a chain of operands, and is no loose operation, is read as an operand. -/
theorem operand_of_chain {word : String} {op : BoolOp} {operand : Parser Expr}
    (read : boolChain word op operand c = some (e, after)) (tight : e.isLoose = false) :
    operand c = some (e, after) := by
  obtain ⟨start, _, positioned, read⟩ := bind_read read
  rw [looks_position _ _ _ positioned] at read
  obtain ⟨first, between, one, read⟩ := bind_read read
  obtain ⟨rest, last, more, read⟩ := bind_read read
  split at read
  · rename_i empty
    cases read
    rw [List.isEmpty_iff.mp empty] at more
    rw [one, many_empty more]
  · cases read
    cases tight

theorem inversion_of_expression (read : expression inner c = some (e, after))
    (tight : e.isLoose = false) : inversion inner c = some (e, after) := by
  obtain ⟨found, _, peeked, read⟩ := bind_read read
  rw [looks_next_keyword _ _ _ _ peeked] at read
  split at read
  · obtain ⟨_, _, _, read⟩ := bind_read read
    obtain ⟨_, _, _, read⟩ := bind_read read
    obtain ⟨_, _, _, read⟩ := bind_read read
    obtain ⟨_, _, _, read⟩ := bind_read read
    obtain ⟨_, _, _, read⟩ := bind_read read
    cases read
    cases tight
  · obtain ⟨start, _, positioned, read⟩ := bind_read read
    rw [looks_position _ _ _ positioned] at read
    obtain ⟨body, between, chained, read⟩ := bind_read read
    have plain : (body, between) = (e, after) := by
      rcases (Option.orElse_eq_some _ _ _).mp read with branched | ⟨_, plain⟩
      · obtain ⟨_, _, _, branched⟩ := bind_read branched
        obtain ⟨_, _, _, branched⟩ := bind_read branched
        obtain ⟨_, _, _, branched⟩ := bind_read branched
        obtain ⟨_, _, _, branched⟩ := bind_read branched
        cases branched
        cases tight
      · exact Option.some.inj plain
    cases plain
    exact operand_of_chain (operand_of_chain chained tight) tight

def Cursor.AtBreak (c : Cursor) : Prop := ∃ t rest, c.rest = t :: rest ∧ t.lexeme = .newline

theorem peek_ran {t : Token} {rest : List Token} (standing : c.rest = t :: rest) :
    peek c = some (t.lexeme, c) := by
  obtain ⟨_, endLine, size⟩ := c
  cases standing
  rfl

theorem keyword_at_break (broken : c.AtBreak) (word : String) : keyword word c = none := by
  obtain ⟨t, rest, standing, ends⟩ := broken
  have peeked : nextIsKeyword word c = some (false, c) := by
    rw [nextIsKeyword, bind_ran (peek_ran standing), ends]
    rfl
  rw [keyword, bind_ran peeked]
  rfl

theorem many_none {item : Parser α} (fails : item c = none) : many item c = some ([], c) := by
  have stays : iterateFor (fun (items : List α) => do return (← item) :: items) c.size [] c =
      ([], c) := by
    cases c.size with
    | zero => rfl
    | succ n => rw [iterateFor, bind_failed fails]
  have ran : iterate (fun (items : List α) => do return (← item) :: items) [] c =
      some ([], c) := congrArg some stays
  rw [many, bind_ran ran]
  rfl

/-- Where a line ends behind an operand, a chain ends with it. -/
theorem chain_of_operand {word : String} {op : BoolOp} {operand : Parser Expr} {t : Token}
    {rest : List Token} (standing : c.rest = t :: rest) (read : operand c = some (e, after))
    (broken : after.AtBreak) : boolChain word op operand c = some (e, after) := by
  have alone : many (keyword word *> operand) after = some ([], after) := by
    apply many_none
    rw [seqRight_eq_bind]
    exact bind_failed (keyword_at_break broken word)
  rw [boolChain, bind_ran (position_ran standing), bind_ran read, bind_ran alone]
  rfl

/-- An inversion that ends a line is read behind `not`. -/
theorem expression_of_inversion {t : Token} {rest : List Token} {endLine size : Nat}
    {names : CharNames}
    (word : t.lexeme = .keyword "not")
    (read : inner .inversion ⟨rest, t.endLine, size, names⟩ = some (e, after))
    (broken : after.AtBreak) :
    ∃ span, expression inner ⟨t :: rest, endLine, size, names⟩ =
      some (.unary span .not e, after) := by
  have standing : (⟨t :: rest, endLine, size, names⟩ : Cursor).rest = t :: rest := rfl
  have negated : inversion inner ⟨t :: rest, endLine, size, names⟩ =
      some (.unary (.known t.line t.column after.endLine) .not e, after) := by
    have taken : tryKeyword "not" ⟨t :: rest, endLine, size, names⟩ =
        some (true, ⟨rest, t.endLine, size, names⟩) := by
      obtain ⟨lexeme, line, column, last⟩ := t
      cases word
      rfl
    rw [inversion, bind_ran (position_ran standing), bind_ran taken]
    change (inner .inversion >>= _) _ = _
    rw [bind_ran read]
    rfl
  have other : nextIsKeyword "lambda" ⟨t :: rest, endLine, size, names⟩ =
      some (false, ⟨t :: rest, endLine, size, names⟩) := by
    rw [nextIsKeyword, bind_ran (peek_ran standing), word]
    rfl
  have joined : boolChain "and" .and (inversion inner) ⟨t :: rest, endLine, size, names⟩ = _ :=
    chain_of_operand standing negated broken
  have chained : disjunction inner ⟨t :: rest, endLine, size, names⟩ = _ :=
    chain_of_operand standing joined broken
  refine ⟨.known t.line t.column after.endLine, ?_⟩
  rw [expression, bind_ran other]
  change (position >>= _) _ = _
  rw [bind_ran (position_ran standing), bind_ran chained]
  apply (Option.orElse_eq_some _ _ _).mpr
  exact Or.inr ⟨bind_failed (keyword_at_break broken "if"), rfl⟩

end Descent

section Spelling

def Expr.marks (e : Expr) : List Mark := e.tree.preorder.map Node.mark

/-- An expression is read from all tokens with these lexemes, wherever they stand, at every depth
of nesting and with every bound on repetitions from some on. -/
def Yields (names : CharNames) (ls : List Lexeme) (e : Expr) : Prop :=
  ∃ least, ∀ depth c, least ≤ depth → least ≤ c.size → c.names = names →
    c.rest.map (·.lexeme) = ls → ∃ found after,
      Grammar.nested depth .expression c = some (found, after) ∧ found.marks = e.marks ∧
      after.rest.map (·.lexeme) = [.newline, .done]

def Spells (names : CharNames) (text : String) (e : Expr) : Prop :=
  Opens text.toList ∧ ∃ ts, tokens text.toList = some ts ∧ Yields names (ts.map (·.lexeme)) e

theorem marks_unary (span : Span) (op : UnaryOp) (operand : Expr) :
    (Expr.unary span op operand).marks = .of ["unary", op.symbol] [] :: operand.marks := by
  simp [Expr.marks, Expr.tree, Tree.preorder, preorders, Node.mark, Expr.mark]

theorem marks_head (e : Expr) : e.marks.head? = some e.mark := by cases e <;> rfl

/-- Whether an operation is loose is told by its mark. -/
theorem loose_mark (e : Expr) :
    e.isLoose = ["bool", "conditional", "lambda"].contains (e.mark.words.headD "") := by
  cases e <;> rfl

theorem loose_of_marks {e other : Expr} (alike : other.marks = e.marks) :
    other.isLoose = e.isLoose := by
  have heads := congrArg List.head? alike
  rw [marks_head, marks_head] at heads
  rw [loose_mark, loose_mark, Option.some.inj heads]

theorem at_break {c : Cursor} (ends : c.rest.map (·.lexeme) = [.newline, .done]) : c.AtBreak := by
  obtain ⟨t, others, standing, first, _⟩ := List.map_eq_cons_iff.mp ends
  exact ⟨t, others, standing, first⟩

theorem yields_not {names : CharNames} {ls : List Lexeme} {e : Expr} (yields : Yields names ls e)
    (tight : e.isLoose = false) (span : Span) :
    Yields names (.keyword "not" :: ls) (.unary span .not e) := by
  obtain ⟨least, reads⟩ := yields
  refine ⟨least + 2, fun depth c deep wide named standing => ?_⟩
  obtain ⟨depth, rfl⟩ := Nat.exists_eq_add_of_le' (Nat.le_trans (Nat.le_add_left 2 least) deep)
  obtain ⟨rest, endLine, size, table⟩ := c
  obtain ⟨t, others, rfl, word, behind⟩ := List.map_eq_cons_iff.mp standing
  obtain ⟨found, after, read, alike, ends⟩ := reads (depth + 1) ⟨others, t.endLine, size, table⟩
    (by omega) (by dsimp only at wide ⊢; omega) named behind
  have inverted : Grammar.nested (depth + 1) .inversion ⟨others, t.endLine, size, table⟩ =
      some (found, after) :=
    inversion_of_expression read ((loose_of_marks alike).trans tight)
  obtain ⟨spanned, negated⟩ := expression_of_inversion word inverted (at_break ends)
  exact ⟨_, after, negated, by rw [marks_unary, marks_unary, alike], ends⟩

theorem spells_not {names : CharNames} {text : String} {e : Expr} (spells : Spells names text e)
    (tight : e.isLoose = false) (span : Span) :
    Spells names ("not " ++ text) (.unary span .not e) := by
  obtain ⟨opens, ts, cut, yields⟩ := spells
  obtain ⟨us, negated, lexemes⟩ := negated_tokens opens cut
  rw [Spells, String.toList_append]
  refine ⟨⟨'n', _, rfl, by decide⟩, us, negated, ?_⟩
  rw [lexemes]
  exact yields_not yields tight span

end Spelling

end RefactorAdvice.Code
