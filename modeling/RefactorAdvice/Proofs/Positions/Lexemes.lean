import RefactorAdvice.Proofs.Positions.Reading

/-!
What a lexeme takes of the text. Numbers take characters of numbers only, a string literal is what
opens it, its body and what closes it, and the margin of a line is what it goes over. How far that
leads is told by the characters taken.
-/

namespace RefactorAdvice.Code

section Advancing

theorem advance_append (line column : Nat) (first second : List Char) :
    advance line column (first ++ second) =
      advance (advance line column first).1 (advance line column first).2 second := by
  fun_induction advance line column first with
  | case1 => rfl
  | case2 line column rest ih => simpa [advance] using ih
  | case3 line column c rest other ih => simpa [advance] using ih

theorem advance_precedes {p q : Nat × Nat} (before : Precedes p q) (cs : List Char) :
    Precedes (advance p.1 p.2 cs) (advance q.1 q.2 cs) := by
  induction cs generalizing p q with
  | nil => exact before
  | cons c rest ih =>
    by_cases break_ : c = '\n'
    · subst break_
      apply ih (p := (p.1 + 1, 0)) (q := (q.1 + 1, 0))
      unfold Precedes at *
      omega
    · simp only [advance]
      apply ih (p := (p.1, p.2 + c.utf8Size)) (q := (q.1, q.2 + c.utf8Size))
      unfold Precedes at *
      omega

theorem bytes_from (n : Nat) (cs : List Char) :
    cs.foldl (fun n c => n + c.utf8Size) n = n + bytes cs := by
  unfold bytes
  induction cs generalizing n with
  | nil => rfl
  | cons c rest ih =>
    simp only [List.foldl_cons]
    rw [ih (n + c.utf8Size), ih (0 + c.utf8Size)]
    omega

theorem bytes_cons (c : Char) (cs : List Char) : bytes (c :: cs) = c.utf8Size + bytes cs := by
  have rest := bytes_from (0 + c.utf8Size) cs
  unfold bytes at rest ⊢
  rw [List.foldl_cons, rest]
  omega

theorem length_le_bytes (cs : List Char) : cs.length ≤ bytes cs := by
  induction cs with
  | nil => exact Nat.le_refl 0
  | cons c rest ih =>
    have wide := c.utf8Size_pos
    rw [bytes_cons, List.length_cons]
    omega

theorem advance_unbroken (line column : Nat) (cs : List Char) (unbroken : '\n' ∉ cs) :
    advance line column cs = (line, column + bytes cs) := by
  fun_induction advance line column cs with
  | case1 => rfl
  | case2 => simp at unbroken
  | case3 line column c rest _ ih =>
    rw [ih fun member => unbroken (List.mem_cons_of_mem c member), bytes_cons, Nat.add_assoc]

theorem bytes_narrow (cs : List Char) (narrow : ∀ c ∈ cs, c.utf8Size = 1) :
    bytes cs = cs.length := by
  induction cs with
  | nil => rfl
  | cons c rest ih =>
    rw [bytes_cons, ih fun d member => narrow d (List.mem_cons_of_mem c member),
      narrow c List.mem_cons_self, List.length_cons]
    omega

end Advancing

section Numbers

def isNumeral (c : Char) : Bool := isWordChar c || c == '.' || c == '+' || c == '-'

def Numeral (cs rest : List Char) : Prop :=
  ∃ used, cs = used ++ rest ∧ ∀ c ∈ used, isNumeral c = true

theorem numeral_refl (cs : List Char) : Numeral cs cs := ⟨[], rfl, by simp⟩

theorem numeral_cons {c : Char} {cs rest : List Char} (fits : isNumeral c = true)
    (more : Numeral cs rest) : Numeral (c :: cs) rest := by
  obtain ⟨used, rfl, all⟩ := more
  exact ⟨c :: used, rfl, by simpa [fits] using all⟩

theorem numeral_trans {cs middle rest : List Char} (first : Numeral cs middle)
    (second : Numeral middle rest) : Numeral cs rest := by
  obtain ⟨front, rfl, head⟩ := first
  obtain ⟨back, rfl, tail⟩ := second
  apply Exists.intro (front ++ back)
  constructor
  · simp
  · intro c member
    rcases List.mem_append.mp member with inside | inside
    · exact head c inside
    · exact tail c inside

theorem digit_run_numeral (accept : Char → Bool) (fits : ∀ c, accept c = true → isNumeral c = true)
    (taken cs digits rest : List Char) (read : digitRun accept taken cs = some (digits, rest)) :
    Numeral cs rest := by
  fun_induction digitRun accept taken cs with
  | case1 taken c more accepted ih =>
    exact numeral_cons (by decide) (numeral_cons (fits c accepted) (ih read))
  | case2 => cases read
  | case3 => cases read
  | case4 taken c more _ _ accepted ih => exact numeral_cons (fits c accepted) (ih read)
  | case5 =>
    cases read
    exact numeral_refl _
  | case6 =>
    cases read
    exact numeral_refl _

theorem digit_numeral (c : Char) (digit : c.isDigit = true) : isNumeral c = true := by
  simp [isNumeral, isWordChar, Char.isAlphanum, digit]

theorem exponent_numeral (cs rest : List Char) (exponent : Int)
    (read : exponentPart cs = some (exponent, rest)) : Numeral cs rest := by
  unfold exponentPart at read
  split at read
  rename_i negative digits split_
  obtain ⟨⟨run, after⟩, found, same⟩ := Option.map_eq_some_iff.mp read
  cases same
  have run := digit_run_numeral _ digit_numeral _ _ _ _ found
  split at split_
  · cases split_
    exact numeral_cons (by decide) run
  · cases split_
    exact numeral_cons (by decide) run
  · cases split_
    exact run

theorem finish_float_numeral (whole fraction cs : List Char) (read : NumberRead)
    (finished : finishFloat whole fraction cs = some read) : Numeral cs read.rest := by
  unfold finishFloat at finished
  extract_lets mantissa places build at finished
  have built : ∀ exponent rest, build exponent rest = some read → Numeral rest read.rest := by
    intro exponent rest made
    dsimp only [build] at made
    split at made
    · split at made
      · cases made
        exact numeral_cons (by decide) (numeral_refl _)
      · cases made
    · split at made
      · cases made
        exact numeral_cons (by decide) (numeral_refl _)
      · cases made
    · split at made
      · cases made
        exact numeral_refl _
      · cases made
  have raised : ∀ letter rest exponent after, isNumeral letter = true →
      exponentPart rest = some (exponent, after) → build exponent after = some read →
      Numeral (letter :: rest) read.rest := by
    intro letter rest exponent after fits part made
    exact numeral_cons fits (numeral_trans (exponent_numeral rest after exponent part)
      (built exponent after made))
  split at finished
  · split at finished
    · split at finished
      · rename_i exponent after part
        exact raised _ _ _ _ (by decide) part finished
      · cases finished
    · split at finished
      · cases finished
      · cases finished
        exact numeral_refl _
  · split at finished
    · split at finished
      · rename_i exponent after part
        exact raised _ _ _ _ (by decide) part finished
      · cases finished
    · split at finished
      · cases finished
      · cases finished
        exact numeral_refl _
  · exact built 0 cs finished

theorem after_point_numeral (whole cs : List Char) (read : NumberRead)
    (finished : afterPoint whole cs = some read) : Numeral cs read.rest := by
  unfold afterPoint at finished
  split at finished
  · split at finished
    · split at finished
      · rename_i fraction rest digits
        exact numeral_trans (digit_run_numeral _ digit_numeral _ _ _ _ digits)
          (finish_float_numeral _ _ _ _ finished)
      · cases finished
    · exact finish_float_numeral _ _ _ _ finished
  · exact finish_float_numeral _ _ _ _ finished

theorem decimal_numeral (digits cs : List Char) (read : NumberRead)
    (finished : decimalNumber digits cs = some read) : Numeral cs read.rest := by
  have whole : decimalNumber.wholeNumber digits cs = some read → Numeral cs read.rest := by
    intro made
    unfold decimalNumber.wholeNumber at made
    dsimp only at made
    split at made
    · cases made
    · cases made
      exact numeral_refl _
  unfold decimalNumber at finished
  split at finished
  · exact numeral_cons (by decide) (after_point_numeral _ _ _ finished)
  · split at finished
    · exact finish_float_numeral _ _ _ _ finished
    · exact whole finished
  · split at finished
    · exact finish_float_numeral _ _ _ _ finished
    · exact whole finished
  · exact finish_float_numeral _ _ _ _ finished
  · exact finish_float_numeral _ _ _ _ finished
  · exact whole finished

theorem base_numeral (accept : Char → Bool) (fits : ∀ c, accept c = true → isNumeral c = true)
    (base : Nat) (cs : List Char) (read : NumberRead)
    (finished : baseNumber accept base cs = some read) : Numeral cs read.rest := by
  unfold baseNumber at finished
  split at finished
  · rename_i digits rest run
    split at finished
    · cases finished
    · split at finished
      · cases finished
      · cases finished
        exact digit_run_numeral accept fits _ _ _ _ run
  · cases finished

theorem hex_numeral (c : Char) (digit : isHexDigit c = true) : isNumeral c = true := by
  have word : c.isAlphanum = true := by
    simp only [isHexDigit, Bool.or_eq_true, Bool.and_eq_true, decide_eq_true_eq] at digit
    delta Char.isAlphanum Char.isAlpha Char.isUpper Char.isLower
    simp only [Bool.or_eq_true, Bool.and_eq_true, decide_eq_true_eq, ge_iff_le]
    rcases digit with (decimal | ⟨low, high⟩) | ⟨low, high⟩
    · exact Or.inr decimal
    · exact Or.inl (Or.inr ⟨low, UInt32.le_trans high (by decide)⟩)
    · exact Or.inl (Or.inl ⟨low, UInt32.le_trans high (by decide)⟩)
  simp [isNumeral, isWordChar, word]

theorem octal_numeral (c : Char) (digit : isOctalDigit c = true) : isNumeral c = true := by
  apply digit_numeral
  simp only [isOctalDigit, Bool.and_eq_true, decide_eq_true_eq, Char.le_def,
    UInt32.le_iff_toNat_le] at digit
  simp only [Char.isDigit, Bool.and_eq_true, decide_eq_true_eq, ge_iff_le, UInt32.le_iff_toNat_le]
  have least : '9'.val.toNat = 57 := rfl
  have most : '7'.val.toNat = 55 := rfl
  omega

theorem binary_numeral (c : Char) (digit : isBinaryDigit c = true) : isNumeral c = true := by
  simp only [isBinaryDigit, Bool.or_eq_true, beq_iff_eq] at digit
  rcases digit with rfl | rfl
  · decide
  · decide

theorem digit_run_more (c : Char) (cs digits rest : List Char) (digit : c.isDigit = true)
    (read : digitRun Char.isDigit [] (c :: cs) = some (digits, rest)) : Numeral cs rest := by
  unfold digitRun at read
  split at read
  · rename_i same
    cases same
    cases digit
  · rename_i same
    cases same
    cases digit
  · rename_i same
    cases same
    rw [if_pos digit] at read
    exact digit_run_numeral _ digit_numeral _ _ _ _ read
  · rename_i same
    cases same

theorem read_number_numeral (c : Char) (cs : List Char) (read : NumberRead)
    (digit : c.isDigit = true) (finished : readNumber (c :: cs) = some read) :
    Numeral cs read.rest := by
  unfold readNumber at finished
  split at finished
  case h_7 =>
    split at finished
    · rename_i digits rest run
      exact numeral_trans (digit_run_more c cs digits rest digit run)
        (decimal_numeral digits rest read finished)
    · cases finished
  all_goals
    rename_i same
    cases same
    apply numeral_cons (by decide)
  · exact base_numeral _ hex_numeral _ _ _ finished
  · exact base_numeral _ hex_numeral _ _ _ finished
  · exact base_numeral _ octal_numeral _ _ _ finished
  · exact base_numeral _ octal_numeral _ _ _ finished
  · exact base_numeral _ binary_numeral _ _ _ finished
  · exact base_numeral _ binary_numeral _ _ _ finished

/-- The width that the scanner gives a number is the number of its characters. -/
theorem number_run_numeral (used rest : List Char) (all : ∀ c ∈ used, isNumeral c = true) :
    numberRun (used ++ rest) - numberRun rest = used.length := by
  have whole : numberRun (used ++ rest) = used.length + numberRun rest := by
    change ((used ++ rest).takeWhile isNumeral).length =
      used.length + (rest.takeWhile isNumeral).length
    rw [List.takeWhile_append_of_pos all, List.length_append]
  omega

end Numbers

section Strings

def isQuote (c : Char) : Prop := c = '\'' ∨ c = '"'

theorem short_body_spelled (quote : Char) (taken cs body rest : List Char)
    (read : shortBody quote taken cs = some (body, rest)) :
    ∃ used, body = taken.reverse ++ used ∧ cs = used ++ quote :: rest ∧
      ('\\' ∉ cs → '\n' ∉ used) := by
  fun_induction shortBody quote taken cs with
  | case1 => cases read
  | case2 taken c more ih =>
    obtain ⟨used, rfl, rfl, _⟩ := ih read
    exact ⟨'\\' :: c :: used, by simp, rfl, fun unescaped => absurd List.mem_cons_self unescaped⟩
  | case3 taken c more _ same =>
    cases read
    cases beq_iff_eq.mp same
    exact ⟨[], by simp, rfl, fun _ => List.not_mem_nil⟩
  | case4 => cases read
  | case5 taken c more _ _ unbroken ih =>
    obtain ⟨used, rfl, rfl, flat⟩ := ih read
    apply Exists.intro (c :: used)
    constructor
    · simp
    · constructor
      · rfl
      · intro unescaped
        have other : '\n' ≠ c := fun same => unbroken (beq_iff_eq.mpr same.symm)
        simp only [List.mem_cons, not_or]
        exact ⟨other, flat fun member => unescaped (List.mem_cons_of_mem c member)⟩

theorem long_body_spelled (quote : Char) (taken cs body rest : List Char)
    (read : longBody quote taken cs = some (body, rest)) :
    ∃ used, body = taken.reverse ++ used ∧ cs = used ++ quote :: quote :: quote :: rest := by
  fun_induction longBody quote taken cs with
  | case1 => cases read
  | case2 taken c more ih =>
    obtain ⟨used, rfl, rfl⟩ := ih read
    exact ⟨'\\' :: c :: used, by simp, rfl⟩
  | case3 taken a b c more _ same =>
    cases read
    simp only [Bool.and_eq_true, beq_iff_eq] at same
    obtain ⟨⟨rfl, rfl⟩, rfl⟩ := same
    exact ⟨[], by simp, rfl⟩
  | case4 taken a b c more _ _ ih =>
    obtain ⟨used, rfl, whole⟩ := ih read
    exact ⟨a :: used, by simp, by rw [whole]; rfl⟩
  | case5 taken c more _ _ ih =>
    obtain ⟨used, rfl, whole⟩ := ih read
    exact ⟨c :: used, by simp, by rw [whole]; rfl⟩

theorem string_marks_spelled (cs marks opened : List Char)
    (read : stringMarks cs = some (marks, opened)) :
    cs = marks ++ opened ∧ (∀ c ∈ marks, c.isAlpha = true) ∧
      ∃ quote rest, opened = quote :: rest ∧ isQuote quote := by
  unfold stringMarks at read
  dsimp only at read
  have whole := List.prefix_iff_eq_append.mp (List.takeWhile_prefix Char.isAlpha (l := cs))
  split at read
  · rename_i c rest standing
    rw [standing] at whole
    split at read
    · rename_i fits
      cases read
      have quoted : isQuote c := by
        simp only [Bool.and_eq_true, Bool.or_eq_true, beq_iff_eq] at fits
        exact fits.1
      exact ⟨whole.symm, List.all_eq_true.mp List.all_takeWhile, c, rest, rfl, quoted⟩
    · cases read
  · cases read

structure Spelled (cs : List Char) (read : StringRead) (opening closing : List Char) : Prop where
  whole : cs = opening ++ (read.literal.body ++ (closing ++ read.rest))
  size : read.size = opening.length + (read.literal.body.length + closing.length)
  margin : read.literal.margin = opening.length
  opens : opening ≠ []
  narrow : ∀ c ∈ opening, c.utf8Size = 1 ∧ c ≠ '\n'
  closes : closing ≠ []
  unbroken : '\n' ∉ closing
  flat : '\\' ∉ cs → '\n' ∈ read.literal.body →
    ∃ quote, isQuote quote ∧ closing = [quote, quote, quote]

theorem letter_narrow (c : Char) (letter : c.isAlpha = true) : c.utf8Size = 1 ∧ c ≠ '\n' := by
  constructor
  · delta Char.isAlpha Char.isUpper Char.isLower at letter
    simp only [Bool.or_eq_true, Bool.and_eq_true, decide_eq_true_eq] at letter
    unfold Char.utf8Size
    rw [if_pos]
    rcases letter with ⟨_, high⟩ | ⟨_, high⟩
    · exact UInt32.le_trans high (by decide)
    · exact UInt32.le_trans high (by decide)
  · rintro rfl
    cases letter

theorem quote_narrow (c : Char) (quoted : isQuote c) : c.utf8Size = 1 ∧ c ≠ '\n' := by
  rcases quoted with rfl | rfl
  · decide
  · decide

section Quotes

variable {marks after : List Char} {quote : Char} {read : StringRead}
  (letters : ∀ c ∈ marks, c.isAlpha = true) (quoted : isQuote quote)

include letters quoted

theorem opening_narrow (quotes : List Char) (same : ∀ c ∈ quotes, c = quote) :
    ∀ c ∈ marks ++ quotes, c.utf8Size = 1 ∧ c ≠ '\n' := by
  intro c member
  rcases List.mem_append.mp member with mark | one
  · exact letter_narrow c (letters c mark)
  · rw [same c one]
    exact quote_narrow quote quoted

theorem short_spelled (body : shortBody quote [] after = some (read.literal.body, read.rest))
    (size : read.size = marks.length + read.literal.body.length + 2)
    (margin : read.literal.margin = marks.length + 1) :
    Spelled (marks ++ quote :: after) read (marks ++ [quote]) [quote] := by
  obtain ⟨used, same, rfl, flat⟩ := short_body_spelled _ _ _ _ _ body
  rw [List.reverse_nil, List.nil_append] at same
  have other := (quote_narrow quote quoted).2
  constructor
  · simp [same]
  · simp
    omega
  · simp [margin]
  · simp
  · exact opening_narrow letters quoted [quote] (by simp)
  · simp
  · simpa using other.symm
  · intro unescaped broken
    rw [same] at broken
    simp only [List.mem_append, List.mem_cons, not_or] at unescaped
    exact absurd broken (flat (by simpa using unescaped.2.2))

theorem long_spelled (body : longBody quote [] after = some (read.literal.body, read.rest))
    (size : read.size = marks.length + read.literal.body.length + 6)
    (margin : read.literal.margin = marks.length + 3) :
    Spelled (marks ++ quote :: quote :: quote :: after) read (marks ++ [quote, quote, quote])
      [quote, quote, quote] := by
  obtain ⟨used, same, rfl⟩ := long_body_spelled _ _ _ _ _ body
  rw [List.reverse_nil, List.nil_append] at same
  have other := (quote_narrow quote quoted).2
  constructor
  · simp [same]
  · simp
    omega
  · simp [margin]
  · simp
  · exact opening_narrow letters quoted [quote, quote, quote] (by simp)
  · simp
  · simpa using other.symm
  · exact fun _ _ => ⟨quote, quoted, rfl⟩

end Quotes

theorem read_string_spelled (cs : List Char) (read : StringRead)
    (found : readString cs = some (some read)) :
    ∃ opening closing, Spelled cs read opening closing := by
  unfold readString at found
  obtain ⟨⟨marks, opened⟩, first, second⟩ := Option.map_eq_some_iff.mp found
  obtain ⟨rfl, letters, quote, after, rfl, quoted⟩ := string_marks_spelled _ _ _ first
  dsimp only at second
  split at second
  · rename_i a b c rest standing
    cases standing
    split at second
    · rename_i same
      simp only [Bool.and_eq_true, beq_iff_eq] at same
      obtain ⟨rfl, rfl⟩ := same
      obtain ⟨⟨body, rest⟩, inside, rfl⟩ := Option.map_eq_some_iff.mp second
      exact ⟨_, _, long_spelled letters quoted inside rfl rfl⟩
    · obtain ⟨⟨body, rest⟩, inside, rfl⟩ := Option.map_eq_some_iff.mp second
      exact ⟨_, _, short_spelled letters quoted inside rfl rfl⟩
  · rename_i standing
    cases standing
    obtain ⟨⟨body, rest⟩, inside, rfl⟩ := Option.map_eq_some_iff.mp second
    exact ⟨_, _, short_spelled letters quoted inside rfl rfl⟩
  · rename_i standing
    cases standing

/-- A text in which every string literal ends on its line: without backslashes, and on one line or
without a tripled quote. -/
def Plain (cs : List Char) : Prop := '\\' ∉ cs ∧ ('\n' ∉ cs.dropLast ∨ Untripled cs)

theorem spelled_flat {cs opening closing : List Char} {read : StringRead}
    (spelled : Spelled cs read opening closing) (plain : Plain cs) : '\n' ∉ read.literal.body := by
  intro broken
  rcases plain.2 with single | untripled
  · apply single
    have nonempty : closing ++ read.rest ≠ [] := by simp [spelled.closes]
    rw [spelled.whole, ← List.append_assoc, List.dropLast_append_of_ne_nil nonempty]
    simp [broken]
  · obtain ⟨quote, quoted, tripled⟩ := spelled.flat plain.1 broken
    apply untripled quote quoted
    rw [spelled.whole, tripled]
    exact ⟨opening ++ read.literal.body, read.rest, by simp⟩

end Strings

section Margins

def Ended (cs : List Char) : Prop := cs.getLast? = some '\n'

theorem ended_rest (used : List Char) {rest : List Char} (ended : Ended (used ++ rest))
    (open_ : used.getLast? ≠ some '\n') : Ended rest := by
  unfold Ended at *
  rw [List.getLast?_append] at ended
  cases last : rest.getLast? with
  | none =>
    rw [last] at ended
    exact absurd ended open_
  | some c =>
    rw [last] at ended
    exact ended

theorem ended_after_break {rest : List Char} (more : rest ≠ []) (ended : Ended ('\n' :: rest)) :
    Ended rest := by
  cases rest with
  | nil => exact absurd rfl more
  | cons c others => simpa [Ended] using ended

theorem read_margin_taken (width narrow : Nat) (fixed : Option Nat) (line column : Nat)
    (cs : List Char) (read : MarginRead)
    (found : readMargin width narrow fixed line column cs = some read)
    (ended : Ended cs) :
    ∃ used, cs = used ++ read.rest ∧ advance line column used = (read.line, read.column) ∧
      Ended read.rest := by
  have blank : ∀ (c : Char) (line column : Nat) (rest : List Char), c ≠ '\n' → c.utf8Size = 1 →
      (∃ used, rest = used ++ read.rest ∧
        advance line (column + 1) used = (read.line, read.column) ∧ Ended read.rest) →
      ∃ used, c :: rest = used ++ read.rest ∧
        advance line column used = (read.line, read.column) ∧ Ended read.rest := by
    rintro c line column rest _ narrow ⟨used, whole, led, closed⟩
    exact ⟨c :: used, by rw [whole]; rfl, by simp [advance, narrow, led], closed⟩
  have after : ∀ (c : Char) (rest : List Char), c ≠ '\n' → Ended (c :: rest) → Ended rest := by
    intro c rest other closed
    exact ended_rest [c] closed (by simpa using other)
  fun_induction readMargin width narrow fixed line column cs with
  | case1 width narrow fixed line column rest ih =>
    have more := ih found (after _ _ (by decide) ended)
    exact blank ' ' line column rest (by decide) (by decide) more
  | case2 width narrow fixed line column rest ih =>
    have more := ih found (after _ _ (by decide) ended)
    exact blank '\t' line column rest (by decide) (by decide) more
  | case3 width narrow fixed line column rest ih =>
    have more := ih found (after _ _ (by decide) ended)
    exact blank '\x0c' line column rest (by decide) (by decide) more
  | case4 => cases found
  | case5 width narrow fixed line column rest more kept ih =>
    have closed := ended_after_break (by simpa using more) (after _ _ (by decide) ended)
    obtain ⟨used, whole, led, closed⟩ := ih found closed
    exact ⟨'\\' :: '\n' :: used, by rw [whole]; rfl, by simpa [advance] using led, closed⟩
  | case6 => cases found
  | case7 width narrow fixed line column rest =>
    cases found
    exact ⟨[], rfl, rfl, ended⟩

end Margins

end RefactorAdvice.Code
