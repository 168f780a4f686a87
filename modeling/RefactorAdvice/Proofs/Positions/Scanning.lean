import RefactorAdvice.Proofs.Positions.Lexemes

/-!
Tokens take their places in turn. Each step of the scanner takes some characters, and the token it
finds stands where the step starts and has its room before the place that the step leads to. So the
room of all tokens is no more than what lies between the beginning of a text and its end, and a key
has room in one of them at most.
-/

namespace RefactorAdvice.Code

section Origins

def Origin.place (origin : Origin) (p : Nat × Nat) : Nat × Nat :=
  (p.1, if p.1 = origin.line then origin.column + p.2 else p.2)

theorem place_precedes (origin : Origin) {p q : Nat × Nat} (before : Precedes p q) :
    Precedes (origin.place p) (origin.place q) := by
  unfold Precedes Origin.place at *
  grind

theorem place_advance (origin : Origin) (line column : Nat) (cs : List Char)
    (le : origin.line ≤ line) :
    origin.place (advance line column cs) = advance line (origin.place (line, column)).2 cs := by
  fun_induction advance line column cs with
  | case1 => rfl
  | case2 line column rest ih =>
    have later : (origin.place (line + 1, 0)).2 = 0 := if_neg (by dsimp only; omega)
    rw [ih (by omega), later]
    rfl
  | case3 line column c rest other ih =>
    have moved : (origin.place (line, column + c.utf8Size)).2 =
        (origin.place (line, column)).2 + c.utf8Size := by
      unfold Origin.place
      grind
    rw [ih le, moved]
    simp [advance]

theorem place_stop (origin : Origin) (lexeme : Lexeme) (line column : Nat)
    (le : origin.line ≤ line) :
    origin.place (lexeme.stop line column) = lexeme.stop line (origin.place (line, column)).2 := by
  have moved : ∀ width, (origin.place (line, column + width)) =
      (line, (origin.place (line, column)).2 + width) := by
    intro width
    unfold Origin.place
    grind
  unfold Lexeme.stop
  split
  · split
    · rw [place_advance origin _ _ _ le, moved]
    · exact moved 1
  · exact moved 1

end Origins

section Moves

def Scan.spot (origin : Origin) (s : Scan) : Nat × Nat := origin.place (s.line, s.column)

/-- A step of the scanner: over characters that leave layout at most, or onto a token, which has
its room between the place where the step starts and the one it leads to. No step but that over the
last line break takes that break. -/
inductive Move (origin : Origin) (s after : Scan) : Prop where
  | past (used : List Char) (fresh : List Token) (taken : s.rest = used ++ after.rest)
      (found : after.found = fresh ++ s.found)
      (layout : ∀ t ∈ fresh, t.lexeme.isContent = false)
      (onward : Precedes (s.line, s.column) (after.line, after.column))
      (within : Precedes (after.line, after.column) (advance s.line s.column used))
      (ends : Ended after.rest ∨ used = ['\n'] ∧ after.rest = [])
  | onto (used : List Char) (t : Token) (taken : s.rest = used ++ after.rest)
      (found : after.found = t :: s.found)
      (spot : t.spot = s.spot origin) (stop : Precedes t.stop (after.spot origin))
      (onward : Precedes (s.line, s.column) (after.line, after.column))
      (within : Precedes (after.line, after.column) (advance s.line s.column used))
      (ends : Ended after.rest)
      (literals : ∀ literal, t.lexeme = .text literal → 1 ≤ literal.margin ∧
        literal.body ⊆ s.rest ∧ (Plain s.rest → '\n' ∉ literal.body))

variable {origin : Origin} {s after : Scan}

theorem margin_layout (blocks : List Margin) (margin : Margin) (lexemes : List Lexeme)
    (opened : List Margin) (moved : moveMargin blocks margin = some (lexemes, opened)) :
    ∀ lexeme ∈ lexemes, lexeme.isContent = false := by
  unfold moveMargin at moved
  dsimp only at moved
  split at moved
  · split at moved
    · cases moved
      simp
    · cases moved
  · split at moved
    · split at moved
      · cases moved
      · cases moved
        simp [Lexeme.isContent]
    · split at moved
      · cases moved
        intro lexeme member
        obtain ⟨_, _, rfl⟩ := List.mem_map.mp member
        rfl
      · cases moved

theorem fold_tokens (found : List Token) (token : Lexeme → Token) (lexemes : List Lexeme) :
    lexemes.foldl (fun found lexeme => token lexeme :: found) found =
      (lexemes.map token).reverse ++ found := by
  induction lexemes generalizing found with
  | nil => rfl
  | cons lexeme rest ih => simp [ih]

theorem start_line_moves (ended : Ended s.rest) (moved : s.startLine origin = some after) :
    Move origin s after := by
  unfold Scan.startLine at moved
  obtain ⟨read, found, moved⟩ := Option.bind_eq_some_iff.mp moved
  obtain ⟨used, whole, led, closed⟩ := read_margin_taken _ _ _ _ _ _ _ found ended
  have onward : Precedes (s.line, s.column) (read.line, read.column) := by
    rw [← led]
    exact precedes_advance _ _ _
  have within : Precedes (read.line, read.column) (advance s.line s.column used) := by
    rw [led]
    exact precedes_refl _
  have silent : Move origin s
      { s with rest := read.rest, line := read.line, column := read.column, lineStart := false } :=
    .past used [] whole rfl (by simp) onward within (Or.inl closed)
  dsimp only at moved
  split at moved
  · cases moved
    exact silent
  · cases moved
    exact silent
  · split at moved
    · obtain ⟨⟨lexemes, blocks⟩, margins, moved⟩ := Option.bind_eq_some_iff.mp moved
      cases moved
      have layout := margin_layout _ _ _ _ margins
      exact .past used _ whole (fold_tokens _ _ _) (by simpa [Origin.token] using layout) onward
        within
        (Or.inl closed)
    · cases moved
      exact silent

/-- A token that is no text takes its characters, or as many columns as there are of them. -/
theorem push_moves (lexeme : Lexeme) (size : Nat) (used : List Char) (le : origin.line ≤ s.line)
    (ended : Ended s.rest) (textless : ∀ literal, lexeme ≠ .text literal)
    (taken : s.rest = used ++ after.rest) (line : after.line = s.line)
    (column : after.column = s.column + size)
    (found : after.found = origin.token lexeme s.line s.column s.line :: s.found)
    (wide : 1 ≤ size) (fits : size ≤ bytes used) (unbroken : '\n' ∉ used) :
    Move origin s after := by
  have stop : lexeme.stop s.line (origin.place (s.line, s.column)).2 =
      origin.place (s.line, s.column + 1) := by
    have plain : ∀ column, lexeme.stop s.line column = (s.line, column + 1) := by
      intro column
      unfold Lexeme.stop
      split
      · exact absurd rfl (textless _)
      · rfl
    rw [← plain, place_stop _ _ _ _ le]
  apply Move.onto used _ taken found
  · rfl
  · change Precedes (lexeme.stop s.line (origin.place (s.line, s.column)).2)
      (origin.place (after.line, after.column))
    rw [stop, line, column]
    exact place_precedes origin (Or.inr ⟨rfl, by dsimp only; omega⟩)
  · rw [line, column]
    exact precedes_column _ _ _
  · rw [advance_unbroken _ _ _ unbroken, line, column]
    exact Or.inr ⟨rfl, by dsimp only; omega⟩
  · rw [taken] at ended
    exact ended_rest used ended fun last => unbroken (List.mem_of_getLast? last)
  · intro literal text
    exact absurd text (textless literal)

theorem opening_advance (line column : Nat) (opening : List Char)
    (narrow : ∀ c ∈ opening, c.utf8Size = 1 ∧ c ≠ '\n') :
    advance line column opening = (line, column + opening.length) := by
  rw [advance_unbroken _ _ _ fun member => (narrow _ member).2 rfl,
    bytes_narrow _ fun c member => (narrow c member).1]

theorem string_stop {cs opening closing : List Char} {read : StringRead}
    (spelled : Spelled cs read opening closing) (line column : Nat) :
    Precedes (Lexeme.stop (.text read.literal) line column)
      (advance line column (opening ++ (read.literal.body ++ closing))) := by
  rw [advance_append, opening_advance _ _ _ spelled.narrow, advance_append, ← spelled.margin]
  unfold Lexeme.stop
  dsimp only
  split
  · exact precedes_advance _ _ _
  · have wide := List.length_pos_iff.mpr spelled.opens
    rw [← spelled.margin] at wide
    have past : Precedes (line, column + 1) (line, column + read.literal.margin) :=
      Or.inr ⟨rfl, Nat.add_le_add_left wide column⟩
    exact precedes_trans past (precedes_trans (precedes_advance _ _ _) (precedes_advance _ _ _))

theorem string_moves (read : StringRead) (le : origin.line ≤ s.line) (ended : Ended s.rest)
    (straight : origin.column = 0 ∨ Plain s.rest) (string : readString s.rest = some (some read))
    (rest : after.rest = read.rest)
    (led : (after.line, after.column) = advance s.line s.column (s.rest.take read.size))
    (found : after.found =
      origin.token (.text read.literal) s.line s.column after.line :: s.found) :
    Move origin s after := by
  obtain ⟨opening, closing, spelled⟩ := read_string_spelled _ _ string
  have used : s.rest.take read.size = opening ++ (read.literal.body ++ closing) := by
    rw [spelled.whole, spelled.size, ← List.append_assoc, ← List.append_assoc, List.take_left']
    · simp
    · simp
  rw [used] at led
  have spot :
      (origin.token (.text read.literal) s.line s.column after.line).spot = s.spot origin := by
    rcases straight with first | plain
    · unfold Scan.spot Token.spot Origin.place Origin.token
      grind
    · have flat : '\n' ∉ opening ++ (read.literal.body ++ closing) := by
        have body := spelled_flat spelled plain
        have front : '\n' ∉ opening := fun member => (spelled.narrow _ member).2 rfl
        simp [body, front, spelled.unbroken]
      rw [advance_unbroken _ _ _ flat] at led
      have same : after.line = s.line := congrArg Prod.fst led
      rw [same]
      rfl
  apply Move.onto _ _ _ found spot
  · change Precedes (Lexeme.stop (.text read.literal) s.line
      (origin.token (.text read.literal) s.line s.column after.line).spot.2) (after.spot origin)
    rw [spot]
    unfold Scan.spot
    rw [← place_stop _ _ _ _ le, led]
    exact place_precedes origin (string_stop spelled s.line s.column)
  · rw [led]
    exact precedes_advance _ _ _
  · rw [led]
    exact precedes_refl _
  · have closed : Ended ((opening ++ (read.literal.body ++ closing)) ++ read.rest) := by
      rw [List.append_assoc, List.append_assoc, ← spelled.whole]
      exact ended
    rw [rest]
    apply ended_rest _ closed
    intro last
    rw [← List.append_assoc, List.getLast?_append,
      List.getLast?_eq_some_getLast spelled.closes] at last
    apply spelled.unbroken
    rw [← Option.some.inj last]
    exact List.getLast_mem spelled.closes
  · intro literal text
    cases text
    constructor
    · have wide := List.length_pos_iff.mpr spelled.opens
      rw [spelled.margin]
      exact wide
    · constructor
      · rw [spelled.whole]
        intro c member
        simp [member]
      · exact spelled_flat spelled
  · rw [rest, List.append_assoc, List.append_assoc]
    exact spelled.whole

theorem symbols_proper : ∀ symbol ∈ symbols, symbol ≠ [] ∧ '\n' ∉ symbol := by decide

/-- A step that leaves no token. -/
theorem skip_moves (used : List Char) (taken : s.rest = used ++ after.rest)
    (found : after.found = s.found)
    (onward : Precedes (s.line, s.column) (after.line, after.column))
    (within : Precedes (after.line, after.column) (advance s.line s.column used))
    (ends : Ended after.rest) : Move origin s after :=
  .past used [] taken (by simp [found]) (by simp) onward within (Or.inl ends)

theorem blank_moves (c : Char) (other : c ≠ '\n') (narrow : c.utf8Size = 1)
    (taken : s.rest = c :: after.rest) (ended : Ended s.rest) (found : after.found = s.found)
    (line : after.line = s.line) (column : after.column = s.column + 1) : Move origin s after := by
  have led : advance s.line s.column [c] = (s.line, s.column + 1) := by simp [advance, narrow]
  rw [taken] at ended
  apply skip_moves [c] taken found
  · rw [line, column]
    exact precedes_column _ _ _
  · rw [line, column, led]
    exact precedes_refl _
  · exact ended_rest [c] ended (by simpa using other)

theorem break_moves (fresh : List Token) (layout : ∀ t ∈ fresh, t.lexeme.isContent = false)
    (taken : s.rest = '\n' :: after.rest) (ended : Ended s.rest)
    (found : after.found = fresh ++ s.found)
    (line : after.line = s.line + 1) (column : after.column = 0) : Move origin s after := by
  rw [taken] at ended
  apply Move.past ['\n'] fresh taken found layout
  · rw [line, column]
    exact Or.inl (Nat.lt_succ_self s.line)
  · rw [line, column]
    exact precedes_refl _
  · by_cases more : after.rest = []
    · exact Or.inr ⟨rfl, more⟩
    · exact Or.inl (ended_after_break more ended)

theorem comment_moves (rest : List Char) (standing : s.rest = '#' :: rest) (ended : Ended s.rest) :
    Move origin s { s with rest := rest.dropWhile (· != '\n') } := by
  have whole : s.rest = '#' :: rest.takeWhile (· != '\n') ++ rest.dropWhile (· != '\n') := by
    rw [standing, List.cons_append, List.takeWhile_append_dropWhile]
  have unbroken : '\n' ∉ '#' :: rest.takeWhile (· != '\n') := by
    intro member
    rcases List.mem_cons.mp member with same | inside
    · cases same
    · have other := List.all_eq_true.mp List.all_takeWhile _ inside
      simp at other
  rw [whole] at ended
  have ends := ended_rest _ ended fun last => unbroken (List.mem_of_getLast? last)
  exact skip_moves _ whole rfl (precedes_refl _) (precedes_advance _ _ _) ends

theorem continued_moves (rest : List Char) (continues : continued s.rest = some rest)
    (ended : Ended s.rest) :
    Move origin s { s with rest := rest, line := s.line + 1, column := 0 } := by
  unfold continued at continues
  split at continues
  · rename_i c more standing
    cases continues
    rw [standing] at ended
    have ends := ended_after_break (by simp) (ended_rest ['\\'] ended (by decide))
    exact skip_moves ['\\', '\n'] standing rfl (Or.inl (Nat.lt_succ_self s.line))
      (precedes_refl (s.line + 1, 0)) ends
  · cases continues

theorem word_moves (lexeme : Lexeme) (c : Char) (rest : List Char) (le : origin.line ≤ s.line)
    (ended : Ended s.rest) (standing : s.rest = c :: rest) (starts : isWordStart c = true)
    (word : wordLexeme (s.rest.takeWhile isWordChar) = some lexeme) :
    Move origin s (s.push origin lexeme (bytes (s.rest.takeWhile isWordChar))
      (s.rest.drop (s.rest.takeWhile isWordChar).length)) := by
  have used := List.prefix_iff_eq_append.mp (List.takeWhile_prefix isWordChar (l := s.rest))
  have fits : isWordChar c = true := by
    simp only [isWordStart, Bool.or_eq_true] at starts
    rcases starts with (letter | score) | wide
    · simp [isWordChar, Char.isAlphanum, letter]
    · simp [isWordChar, score]
    · simp [isWordChar, wide]
  have textless : ∀ literal, lexeme ≠ .text literal := by
    rintro literal rfl
    unfold wordLexeme at word
    split at word
    · dsimp only at word
      split at word <;> cases word
    · split at word <;> cases word
  have nonempty : 1 ≤ (s.rest.takeWhile isWordChar).length := by simp [standing, fits]
  have unbroken : '\n' ∉ s.rest.takeWhile isWordChar := by
    intro broken
    have plain := List.all_eq_true.mp List.all_takeWhile _ broken
    revert plain
    decide
  exact push_moves lexeme _ _ le ended textless used.symm rfl rfl rfl
    (Nat.le_trans nonempty (length_le_bytes _)) (Nat.le_refl _) unbroken

theorem number_moves (read : NumberRead) (c : Char) (rest : List Char) (le : origin.line ≤ s.line)
    (ended : Ended s.rest) (standing : s.rest = c :: rest) (first : isNumeral c = true)
    (numeral : Numeral rest read.rest) :
    Move origin s (s.push origin (.number read.value) (numberRun s.rest - numberRun read.rest)
      read.rest) := by
  obtain ⟨used, rfl, all⟩ := numeral
  have every : ∀ d ∈ c :: used, isNumeral d = true := by simpa [first] using all
  have size : numberRun s.rest - numberRun read.rest = (c :: used).length := by
    rw [standing]
    exact number_run_numeral (c :: used) read.rest every
  have unbroken : '\n' ∉ c :: used := by
    intro broken
    have plain := every _ broken
    revert plain
    decide
  rw [size]
  exact push_moves _ _ (c :: used) le ended (fun literal => Lexeme.noConfusion) standing rfl rfl rfl
    (by simp) (length_le_bytes _) unbroken

theorem symbol_moves (symbol brackets : List Char) (le : origin.line ≤ s.line)
    (ended : Ended s.rest)
    (found : symbols.find? (·.isPrefixOf s.rest) = some symbol) :
    Move origin s { s.push origin (.symbol (String.ofList symbol)) symbol.length
      (s.rest.drop symbol.length) with brackets := brackets } := by
  have fits := List.find?_some found
  have used := List.prefix_iff_eq_append.mp (List.isPrefixOf_iff_prefix.mp fits)
  obtain ⟨nonempty, unbroken⟩ := symbols_proper symbol (List.mem_of_find?_eq_some found)
  exact push_moves _ _ symbol le ended (fun literal => Lexeme.noConfusion) used.symm rfl rfl rfl
    (List.length_pos_iff.mpr nonempty) (length_le_bytes _) unbroken

theorem next_moves (le : origin.line ≤ s.line) (ended : Ended s.rest)
    (straight : origin.column = 0 ∨ Plain s.rest) (moved : s.next origin = some after) :
    Move origin s after := by
  unfold Scan.next at moved
  split at moved
  · cases moved
  · rename_i rest standing
    dsimp only at moved
    split at moved
    · cases moved
      exact break_moves [_] (by simp [Origin.token, Lexeme.isContent]) standing ended rfl rfl rfl
    · cases moved
      exact break_moves [] (by simp) standing ended rfl rfl rfl
  · rename_i rest standing
    cases moved
    exact blank_moves ' ' (by decide) (by decide) standing ended rfl rfl rfl
  · rename_i rest standing
    cases moved
    exact blank_moves '\t' (by decide) (by decide) standing ended rfl rfl rfl
  · rename_i rest standing
    cases moved
    exact blank_moves '\x0c' (by decide) (by decide) standing ended rfl rfl rfl
  · rename_i rest standing
    cases moved
    exact comment_moves rest standing ended
  · obtain ⟨rest, continues, rfl⟩ := Option.map_eq_some_iff.mp moved
    exact continued_moves rest continues ended
  · rename_i c rest _ _ _ _ _ _ standing
    split at moved
    · cases moved
    · rename_i read string
      cases moved
      exact string_moves read le ended straight string rfl rfl rfl
    · split at moved
      · rename_i starts
        obtain ⟨lexeme, word, rfl⟩ := Option.map_eq_some_iff.mp moved
        exact word_moves lexeme c rest le ended standing starts word
      · split at moved
        · rename_i starts
          obtain ⟨read, number, rfl⟩ := Option.map_eq_some_iff.mp moved
          split at number
          · rename_i pointed
            cases beq_iff_eq.mp pointed
            exact number_moves read '.' rest le ended standing (by decide)
              (after_point_numeral [] rest read number)
          · rename_i unpointed
            have digit : c.isDigit = true := by simpa [unpointed] using starts
            rw [standing] at number
            exact number_moves read c rest le ended standing (digit_numeral c digit)
              (read_number_numeral c rest read digit number)
        · split at moved
          · rename_i symbol found
            obtain ⟨brackets, _, rfl⟩ := Option.map_eq_some_iff.mp moved
            exact symbol_moves symbol brackets le ended found
          · cases moved

end Moves

section Runs

variable {origin : Origin} {s after : Scan}

theorem layout_room (k : Key) (ts : List Token) (layout : ∀ t ∈ ts, t.lexeme.isContent = false) :
    room k ts = 0 := by
  induction ts with
  | nil => rfl
  | cons t rest ih =>
    have first : t.room k = 0 := by simp [Token.room, layout t List.mem_cons_self]
    have others := ih fun u member => layout u (List.mem_cons_of_mem t member)
    change t.room k + room k rest = 0
    omega

theorem move_line (move : Move origin s after) : s.line ≤ after.line := by
  have onward : Precedes (s.line, s.column) (after.line, after.column) := by
    cases move with
    | past => assumption
    | onto => assumption
  rcases onward with later | ⟨same, _⟩
  · exact Nat.le_of_lt later
  · exact Nat.le_of_eq same

theorem token_stop (t : Token) : Precedes t.spot t.stop := by
  unfold Token.stop Lexeme.stop
  split
  · split
    · exact precedes_trans (precedes_column _ _ _) (precedes_advance _ _ _)
    · exact precedes_column _ _ _
  · exact precedes_column _ _ _

/-- What a step finds is paid for by the way it goes. -/
theorem move_pays (k : Key) (move : Move origin s after) :
    room k after.found + ahead k (after.spot origin) ≤
      room k s.found + ahead k (s.spot origin) := by
  cases move with
  | past used fresh taken found layout onward within ends =>
    have none := layout_room k fresh layout
    have less := ahead_antitone k (place_precedes origin onward)
    unfold Scan.spot room at *
    rw [found, total_append]
    omega
  | onto used t taken found spot stop onward within ends literals =>
    have less := ahead_antitone k stop
    have own : t.room k ≤ ahead k (s.spot origin) - ahead k t.stop := by
      unfold Token.room
      split
      · exact Nat.le_of_eq (by rw [spot])
      · exact Nat.zero_le _
    have past := ahead_antitone k (token_stop t)
    rw [spot] at past
    unfold room at *
    rw [found, total_cons]
    omega

theorem move_taken (move : Move origin s after) : ∃ used, s.rest = used ++ after.rest := by
  cases move with
  | past used fresh taken => exact ⟨used, taken⟩
  | onto used t taken => exact ⟨used, taken⟩

theorem plain_rest (used : List Char) {rest : List Char} (plain : Plain (used ++ rest)) :
    Plain rest := by
  constructor
  · exact fun member => plain.1 (List.mem_append_right used member)
  · rcases plain.2 with single | untripled
    · by_cases empty : rest = []
      · subst empty
        exact Or.inl List.not_mem_nil
      · rw [List.dropLast_append_of_ne_nil empty] at single
        exact Or.inl fun member => single (List.mem_append_right used member)
    · apply Or.inr
      intro quote quoted inside
      exact untripled quote quoted (inside.trans (List.suffix_append used rest).isInfix)

structure Scan.Sane (origin : Origin) (s : Scan) : Prop where
  line : origin.line ≤ s.line
  straight : origin.column = 0 ∨ Plain s.rest
  ended : s.rest = [] ∨ Ended s.rest

theorem move_sane (sane : s.Sane origin) (move : Move origin s after) : after.Sane origin := by
  constructor
  · exact Nat.le_trans sane.line (move_line move)
  · rcases sane.straight with first | plain
    · exact Or.inl first
    · obtain ⟨used, taken⟩ := move_taken move
      rw [taken] at plain
      exact Or.inr (plain_rest used plain)
  · cases move with
    | past used fresh taken found layout onward within ends =>
      rcases ends with closed | ⟨_, finished⟩
      · exact Or.inr closed
      · exact Or.inl finished
    | onto used t taken found spot stop onward within ends => exact Or.inr ends

/-- What holds at the start and is kept by each step holds at the end of a run. -/
theorem run_keeps {P : Scan → Prop}
    (step : ∀ s after : Scan, Ended s.rest → Move origin s after → P s → P after) (steps : Nat)
    (s : Scan) (tokens : List Token) (sane : s.Sane origin) (holds : P s)
    (ran : Scan.run origin steps s = some tokens) :
    ∃ last : Scan, last.rest = [] ∧ P last ∧ last.finish origin = some tokens := by
  induction steps generalizing s with
  | zero => cases ran
  | succ steps ih =>
    unfold Scan.run at ran
    split at ran
    · rename_i empty
      exact ⟨s, List.isEmpty_iff.mp empty, holds, ran⟩
    · rename_i more
      have ended : Ended s.rest := by
        rcases sane.ended with empty | ended
        · simp [empty] at more
        · exact ended
      split at ran
      · rename_i after moved
        have move : Move origin s after := by
          split at moved
          · exact start_line_moves ended moved
          · exact next_moves sane.line ended sane.straight moved
        exact ih after (move_sane sane move) (step s after ended move holds) ran
      · cases ran

theorem finish_found (tokens : List Token) (finished : s.finish origin = some tokens) :
    ∃ ending, tokens = s.found.reverse ++ ending ∧ ∀ t ∈ ending, t.lexeme.isContent = false := by
  unfold Scan.finish at finished
  split at finished
  · cases finished
    have layout : ∀ t ∈ (s.blocks.map (fun _ => Lexeme.dedent) ++ [Lexeme.done]).map
        (fun lexeme => origin.token lexeme s.line 0 s.line), t.lexeme.isContent = false := by
      simp only [List.mem_map, List.mem_append, List.mem_singleton]
      rintro t ⟨lexeme, (⟨_, _, rfl⟩ | rfl), rfl⟩
      · rfl
      · rfl
    exact ⟨_, rfl, layout⟩
  · cases finished

/-- The way to the end of the text, its last line break apart, is still to be paid. -/
def Scan.Paid (origin : Origin) (k : Key) (credit : Nat) (stop : Nat × Nat) (s : Scan) : Prop :=
  if s.rest = [] then room k s.found + ahead k stop ≤ credit
  else room k s.found + ahead k (s.spot origin) ≤ credit ∧
    ahead k stop ≤ ahead k (advance (s.spot origin).1 (s.spot origin).2 s.rest.dropLast)

theorem way_antitone (k : Key) (used : List Char) (le : origin.line ≤ s.line)
    (taken : s.rest = used ++ after.rest) (more : after.rest ≠ [])
    (within : Precedes (after.line, after.column) (advance s.line s.column used)) :
    ahead k (advance (s.spot origin).1 (s.spot origin).2 s.rest.dropLast) ≤
      ahead k (advance (after.spot origin).1 (after.spot origin).2 after.rest.dropLast) := by
  have placed := place_precedes origin within
  rw [place_advance origin _ _ _ le] at placed
  rw [taken, List.dropLast_append_of_ne_nil more, advance_append]
  exact ahead_antitone k (advance_precedes placed _)

theorem ended_nonempty {cs : List Char} (ended : Ended cs) : cs ≠ [] := by
  rintro rfl
  cases ended

theorem move_paid (k : Key) (credit : Nat) (stop : Nat × Nat) (le : origin.line ≤ s.line)
    (ended : Ended s.rest) (move : Move origin s after) (paid : s.Paid origin k credit stop) :
    after.Paid origin k credit stop := by
  have pays := move_pays k move
  unfold Scan.Paid at paid ⊢
  rw [if_neg (ended_nonempty ended)] at paid
  obtain ⟨spent, way⟩ := paid
  cases move with
  | past used fresh taken found layout onward within ends =>
    rcases ends with closed | ⟨rfl, finished⟩
    · have less := way_antitone k used le taken (ended_nonempty closed) within
      rw [if_neg (ended_nonempty closed)]
      omega
    · have none := layout_room k fresh layout
      have same : room k after.found = room k s.found := by
        unfold room at *
        rw [found, total_append, none, Nat.zero_add]
      have here : s.rest.dropLast = [] := by simp [taken, finished]
      rw [here] at way
      rw [if_pos finished]
      change ahead k stop ≤ ahead k (s.spot origin) at way
      omega
  | onto used t taken found spot stop_ onward within ends literals =>
    have less := way_antitone k used le taken (ended_nonempty ends) within
    rw [if_neg (ended_nonempty ends)]
    omega

def Token.Sound (flat : Prop) (t : Token) : Prop :=
  ∀ literal, t.lexeme = .text literal → 1 ≤ literal.margin ∧ '\r' ∉ literal.body ∧
    (flat → '\n' ∉ literal.body)

theorem layout_sound (flat : Prop) (t : Token) (layout : t.lexeme.isContent = false) :
    t.Sound flat := by
  intro literal text
  rw [text] at layout
  cases layout

theorem move_sound (flat : Prop) (move : Move origin s after) (unified : '\r' ∉ s.rest)
    (plain : flat → Plain s.rest) (sound : ∀ t ∈ s.found, t.Sound flat) :
    ∀ t ∈ after.found, t.Sound flat := by
  cases move with
  | past used fresh taken found layout =>
    rw [found]
    intro t member
    rcases List.mem_append.mp member with new | old
    · exact layout_sound flat t (layout t new)
    · exact sound t old
  | onto used u taken found spot stop onward within ends literals =>
    rw [found]
    intro t member
    rcases List.mem_cons.mp member with rfl | old
    · intro literal text
      obtain ⟨wide, inside, level⟩ := literals literal text
      exact ⟨wide, fun member => unified (inside member), fun holds => level (plain holds)⟩
    · exact sound t old

end Runs

section Texts

theorem close_last_line_ended (cs : List Char) :
    closeLastLine cs = [] ∨ Ended (closeLastLine cs) := by
  unfold closeLastLine
  split
  · rename_i last
    exact Or.inr last
  · rename_i none
    exact Or.inl (List.getLast?_eq_none_iff.mp none)
  · exact Or.inr (by simp [Ended])

structure Scan.Kept (origin : Origin) (flat : Prop) (stop : Nat × Nat) (s : Scan) : Prop where
  line : origin.line ≤ s.line
  unified : '\r' ∉ s.rest
  plain : flat → Plain s.rest
  sound : ∀ t ∈ s.found, t.Sound flat
  paid : ∀ k, s.Paid origin k (ahead k (origin.line, origin.column)) stop

theorem move_kept {origin : Origin} {flat : Prop} {stop : Nat × Nat} (s after : Scan)
    (ended : Ended s.rest) (move : Move origin s after) (kept : s.Kept origin flat stop) :
    after.Kept origin flat stop := by
  obtain ⟨used, taken⟩ := move_taken move
  have unified := kept.unified
  have plain := kept.plain
  rw [taken] at unified plain
  constructor
  · exact Nat.le_trans kept.line (move_line move)
  · exact fun member => unified (List.mem_append_right used member)
  · exact fun holds => plain_rest used (plain holds)
  · exact move_sound flat move kept.unified kept.plain kept.sound
  · exact fun k => move_paid k _ stop kept.line ended move (kept.paid k)

/-- The tokens of a text fit between its beginning and its end. -/
theorem tokens_at_fit {origin : Origin} {cs text : List Char} {tokens : List Token} (flat : Prop)
    (closed : closeLastLine (Text.unifyBreaks cs) = text) (unified : '\r' ∉ text)
    (plain : flat → Plain text) (straight : origin.column = 0 ∨ flat)
    (found : tokensAt origin cs = some tokens) :
    (∀ t ∈ tokens, t.Sound flat) ∧ ∀ k, room k tokens +
      ahead k (advance origin.line origin.column text.dropLast) ≤
        ahead k (origin.line, origin.column) := by
  unfold tokensAt at found
  rw [closed] at found
  dsimp only at found
  split at found
  · cases found
  · have sane : Scan.Sane origin ⟨text, origin.line, 0, true, [], [], []⟩ := by
      constructor
      · exact Nat.le_refl _
      · exact straight.imp id plain
      · rw [← closed]
        exact close_last_line_ended _
    have kept : Scan.Kept origin flat (advance origin.line origin.column text.dropLast)
        ⟨text, origin.line, 0, true, [], [], []⟩ := by
      constructor
      · exact Nat.le_refl _
      · exact unified
      · exact plain
      · simp
      · intro k
        unfold Scan.Paid
        split
        · rename_i empty
          change text = [] at empty
          simp [room, empty, advance]
        · simp [room, Scan.spot, Origin.place]
    obtain ⟨last, empty, kept, finished⟩ := run_keeps move_kept _ _ tokens sane kept found
    obtain ⟨ending, rfl, layout⟩ := finish_found tokens finished
    constructor
    · intro t member
      rcases List.mem_append.mp member with old | new
      · exact kept.sound t (List.mem_reverse.mp old)
      · exact layout_sound flat t (layout t new)
    · intro k
      have paid := kept.paid k
      have none := layout_room k ending layout
      unfold Scan.Paid at paid
      rw [if_pos empty] at paid
      unfold room at *
      rw [total_append, total_reverse, none]
      exact paid

theorem read_margin_below (width narrow : Nat) (fixed : Option Nat) (line column : Nat)
    (cs : List Char) (read : MarginRead)
    (found : readMargin width narrow fixed line column cs = some read) : line ≤ read.line := by
  fun_induction readMargin width narrow fixed line column cs with
  | case1 _ _ _ _ _ _ ih | case2 _ _ _ _ _ _ ih | case3 _ _ _ _ _ _ ih => exact ih found
  | case4 | case6 => cases found
  | case5 _ _ _ line _ _ _ _ ih => exact Nat.le_trans (Nat.le_succ line) (ih found)
  | case7 _ _ _ line _ _ =>
    cases found
    exact Nat.le_refl line

structure Scan.Below (top : Nat) (s : Scan) : Prop where
  line : top ≤ s.line
  found : ∀ t ∈ s.found, top ≤ t.line

theorem below_moved {top : Nat} {s after : Scan} (fresh : List Token) (below : s.Below top)
    (line : s.line ≤ after.line) (found : after.found = fresh ++ s.found)
    (onward : ∀ t ∈ fresh, s.line ≤ t.line) : after.Below top := by
  refine ⟨Nat.le_trans below.line line, fun t member => ?_⟩
  rw [found] at member
  rcases List.mem_append.mp member with new | old
  · exact Nat.le_trans below.line (onward t new)
  · exact below.found t old

theorem start_line_below {origin : Origin} {top : Nat} {s after : Scan} (below : s.Below top)
    (moved : s.startLine origin = some after) : after.Below top := by
  obtain ⟨read, margin, moved⟩ := Option.bind_eq_some_iff.mp moved
  have onward := read_margin_below _ _ _ _ _ _ _ margin
  have silent : Scan.Below top { s with
      rest := read.rest, line := read.line, column := read.column, lineStart := false } :=
    below_moved [] below onward rfl (by simp)
  dsimp only at moved
  split at moved
  · cases moved
    exact silent
  · cases moved
    exact silent
  · split at moved
    · obtain ⟨⟨lexemes, blocks⟩, _, moved⟩ := Option.bind_eq_some_iff.mp moved
      cases moved
      exact below_moved _ below onward (fold_tokens _ _ _) (by simp [Origin.token, onward])
    · cases moved
      exact silent

theorem next_below {origin : Origin} {top : Nat} {s after : Scan} (below : s.Below top)
    (moved : s.next origin = some after) : after.Below top := by
  unfold Scan.next at moved
  split at moved
  · cases moved
  · dsimp only at moved
    split at moved
    · cases moved
      exact below_moved [_] below (Nat.le_succ _) rfl (by simp [Origin.token])
    · cases moved
      exact below_moved [] below (Nat.le_succ _) rfl (by simp)
  iterate 4
    · cases moved
      exact below_moved [] below (Nat.le_refl _) rfl (by simp)
  · obtain ⟨rest, _, rfl⟩ := Option.map_eq_some_iff.mp moved
    exact below_moved [] below (Nat.le_succ _) rfl (by simp)
  · split at moved
    · cases moved
    · rename_i read _
      cases moved
      have onward := precedes_advance s.line s.column (s.rest.take read.size)
      refine below_moved [_] below ?_ rfl (by simp [Origin.token])
      unfold Precedes at onward
      dsimp only at onward ⊢
      omega
    · split at moved
      · obtain ⟨lexeme, _, rfl⟩ := Option.map_eq_some_iff.mp moved
        exact below_moved [_] below (Nat.le_refl _) rfl (by simp [Origin.token])
      · split at moved
        · obtain ⟨read, _, rfl⟩ := Option.map_eq_some_iff.mp moved
          exact below_moved [_] below (Nat.le_refl _) rfl (by simp [Origin.token])
        · split at moved
          · obtain ⟨brackets, _, rfl⟩ := Option.map_eq_some_iff.mp moved
            exact below_moved [_] below (Nat.le_refl _) rfl (by simp [Origin.token])
          · cases moved

/-- No token stands above the line on which the text begins. -/
theorem tokens_below {origin : Origin} {cs : List Char} {tokens : List Token}
    (found : tokensAt origin cs = some tokens) : ∀ t ∈ tokens, origin.line ≤ t.line := by
  have run : ∀ (steps : Nat) (s : Scan), s.Below origin.line →
      Scan.run origin steps s = some tokens → ∀ t ∈ tokens, origin.line ≤ t.line := by
    intro steps
    induction steps with
    | zero =>
      intro s _ ran
      cases ran
    | succ steps ih =>
      intro s below ran
      unfold Scan.run at ran
      split at ran
      · unfold Scan.finish at ran
        split at ran
        · cases ran
          have last := below.line
          simp only [List.mem_append, List.mem_reverse, List.mem_map]
          rintro t (old | ⟨lexeme, _, rfl⟩)
          · exact below.found t old
          · exact last
        · cases ran
      · split at ran
        · rename_i after moved
          refine ih after ?_ ran
          split at moved
          · exact start_line_below below moved
          · exact next_below below moved
        · cases ran
  unfold tokensAt at found
  dsimp only at found
  split at found
  · cases found
  · exact run _ _ ⟨Nat.le_refl _, by simp⟩ found

theorem unify_onto_unified (done cs : List Char) (clean : '\r' ∉ done) :
    '\r' ∉ Text.unifyBreaksOnto done cs := by
  fun_induction Text.unifyBreaksOnto done cs with
  | case1 done => simpa using clean
  | case2 done rest ih => exact ih (by simpa using clean)
  | case3 done rest _ ih => exact ih (by simpa using clean)
  | case4 done c rest _ other ih =>
    apply ih
    simp only [List.mem_cons, not_or]
    exact ⟨fun same => other same.symm, clean⟩

theorem unify_breaks_unified (cs : List Char) : '\r' ∉ Text.unifyBreaks cs := by
  unfold Text.unifyBreaks
  split
  · exact unify_onto_unified [] cs List.not_mem_nil
  · rename_i clean
    simpa using clean

theorem close_last_line_unified {cs : List Char} (clean : '\r' ∉ cs) : '\r' ∉ closeLastLine cs := by
  unfold closeLastLine
  split
  · exact clean
  · exact clean
  · simpa using clean

/-- A key has room in one token of a text at most, and in none if it is before the first line. -/
theorem tokens_fit {cs : List Char} {ts : List Token} (found : tokens cs = some ts) :
    (∀ t ∈ ts, t.Sound False) ∧ ∀ k, room k ts ≤ ahead k (1, 0) := by
  have unified := close_last_line_unified (unify_breaks_unified cs)
  obtain ⟨sound, fits⟩ := tokens_at_fit False rfl unified False.elim (Or.inl rfl) found
  constructor
  · exact sound
  · intro k
    exact Nat.le_trans (Nat.le_add_right _ _) (fits k)

end Texts

end RefactorAdvice.Code
