import RefactorAdvice.Code.Grammar.Expr
import RefactorAdvice.Proofs.Positions.Scanning

/-!
Replacement fields have their places inside their literal. Reading a literal with fields goes on
through its body; each field is cut into tokens from the place of its brace on, and these fit before
the place where the field ends. So the fields of a literal cost no more than the room of its token,
and leave the spot where the token itself stands.
-/

namespace RefactorAdvice.Code

section Pieces

def Piece.tally (k : Key) : Piece → Nat
  | .text _ => 0
  | .field e => e.tree.tally k

variable (k : Key)

theorem join_texts_tally (pieces : List Piece) :
    total (Piece.tally k) (joinTexts pieces) = total (Piece.tally k) pieces := by
  fun_induction joinTexts pieces with
  | case1 => rfl
  | case2 e rest ih => simp [ih]
  | case3 codes rest more others joined ih =>
    rw [joined] at ih
    simpa [Piece.tally] using ih
  | case4 codes rest _ empty ih => simpa [Piece.tally] using ih
  | case5 codes rest _ more ih => simpa [Piece.tally] using ih

theorem piece_exprs_tally (stamp lastStamp : Stamp) (pieces : List Piece)
    (placed : stamp.span.stray k = 0) (ended : lastStamp.span.stray k = 0) :
    total (fun e => e.tree.tally k) (pieceExprs stamp lastStamp pieces) =
      total (Piece.tally k) pieces := by
  fun_induction pieceExprs stamp lastStamp pieces with
  | case1 => rfl
  | case2 codes => simp [Piece.tally, Expr.tree, Node.own, Expr.span, ended]
  | case3 codes rest _ ih => simp [Piece.tally, Expr.tree, Node.own, Expr.span, placed, ih]
  | case4 e rest ih => simp [Piece.tally, ih]

theorem pieces_stmtless {k : Key} (sought : k.kind = .stmt) (pieces : List Piece) :
    total (Piece.tally k) pieces = 0 := by
  obtain ⟨kind, spot⟩ := k
  subst sought
  induction pieces with
  | nil => rfl
  | cons piece rest ih => cases piece <;> simp [Piece.tally, expr_stmtless, ih]

end Pieces

section Stretches

def Stretched (taken cs : List Char) (run : Stretch) : Prop :=
  ∃ used brace, run.taken = taken.reverse ++ used ∧ isBrace brace = true ∧
    cs = used ++ if run.doubled then brace :: run.rest else run.rest

theorem stretched_more (front : List Char) {taken cs : List Char} {run : Stretch}
    (rest : Stretched (front.reverse ++ taken) cs run) : Stretched taken (front ++ cs) run := by
  obtain ⟨used, brace, same, braced, whole⟩ := rest
  exact ⟨front ++ used, brace, by simp [same], braced, by rw [whole, List.append_assoc]⟩

theorem end_stretch_taken (outermost : Bool) (taken rest : List Char) (brace : Char) (run : Stretch)
    (braced : isBrace brace = true) (found : endStretch outermost taken brace rest = some run) :
    Stretched taken (brace :: rest) run := by
  have here : Stretched taken (brace :: rest) ⟨taken.reverse, brace :: rest, false⟩ :=
    ⟨[], brace, by simp, braced, by simp⟩
  unfold endStretch at found
  split at found
  · split at found
    · rename_i doubled
      cases found
      cases rest with
      | nil => cases doubled
      | cons c more =>
        have same : c = brace := by simpa using doubled
        subst same
        exact ⟨[c], c, by simp, braced, by simp⟩
    · split at found
      · cases found
      · cases found
        exact here
  · cases found
    exact here

theorem stretch_taken (raw outermost inName : Bool) (taken cs : List Char) (run : Stretch)
    (found : stretch raw outermost inName taken cs = some run) : Stretched taken cs run := by
  fun_induction stretch raw outermost inName taken cs with
  | case1 =>
    cases found
    exact ⟨[], '\x7b', by simp, by decide, by simp⟩
  | case2 taken c rest ih => exact stretched_more ['\\'] (ih found)
  | case3 inName taken c rest _ _ ih => exact stretched_more ['\\'] (ih found)
  | case4 inName taken c rest _ _ _ ih => exact stretched_more ['\\', c] (ih found)
  | case5 inName taken c rest _ _ _ braced =>
    exact stretched_more ['\\'] (end_stretch_taken outermost _ rest c run braced found)
  | case6 inName taken c rest _ _ _ _ ih => exact stretched_more ['\\', c] (ih found)
  | case7 taken c rest _ ih => exact stretched_more [c] (ih found)
  | case8 inName taken c rest _ _ braced =>
    exact end_stretch_taken outermost taken rest c run braced found
  | case9 inName taken c rest _ _ _ ih => exact stretched_more [c] (ih found)

end Stretches

section Runs

/-- A mark is one byte wide and stays on its line. -/
theorem field_mark_narrow (c : Char) (mark : isFieldMark c = true) : c.utf8Size = 1 ∧ c ≠ '\n' := by
  simp only [isFieldMark, Bool.or_eq_true, beq_iff_eq] at mark
  rcases mark with ((((rfl | rfl) | rfl) | rfl) | rfl) | rfl <;> decide

def Bounded (taken cs body rest : List Char) : Prop :=
  ∃ used, body = taken.reverse ++ used ∧ cs = used ++ rest ∧ '\\' ∉ used ∧
    ∃ mark more, rest = mark :: more ∧ isFieldMark mark = true

theorem bounded_more {taken cs body rest : List Char} (c : Char) (other : ¬ (c == '\\') = true)
    (more : Bounded (c :: taken) cs body rest) : Bounded taken (c :: cs) body rest := by
  obtain ⟨used, same, whole, unescaped, marked⟩ := more
  apply Exists.intro (c :: used)
  constructor
  · simp [same]
  · constructor
    · rw [whole, List.cons_append]
    · constructor
      · rw [List.mem_cons, not_or]
        exact ⟨fun same => other (beq_iff_eq.mpr same.symm), unescaped⟩
      · exact marked

theorem tripled_unescaped (c : Char) (rest : List Char) (other : ¬ (c == '\\') = true)
    (tripled : (rest.take 2 == [c, c]) = true) : '\\' ∉ rest.take 2 := by
  intro member
  rw [beq_iff_eq.mp tripled] at member
  have same : '\\' = c := by simpa using member
  exact other (beq_iff_eq.mpr same.symm)

-- Characters are skipped only after they were looked at, so none of them is a backslash.
theorem field_run_bounded (taken : List Char) (skip : Nat) (inside : Option OpenQuote)
    (brackets cs body rest : List Char) (seen : '\\' ∉ cs.take skip)
    (found : fieldRun taken skip inside brackets cs = some (body, rest)) :
    Bounded taken cs body rest := by
  fun_induction fieldRun taken skip inside brackets cs with
  | case1 => cases found
  | case2 taken skip inside brackets c more pos ih =>
    obtain ⟨less, rfl⟩ : ∃ less, skip = less + 1 := ⟨skip - 1, by omega⟩
    simp only [List.take_succ_cons, List.mem_cons, not_or] at seen
    exact bounded_more c (fun same => seen.1 (beq_iff_eq.mp same).symm) (ih seen.2 found)
  | case3 => cases found
  | case4 taken skip brackets c more _ other _ _ _ _ tripled ih =>
    exact bounded_more c other (ih (tripled_unescaped c more other tripled) found)
  | case5 taken skip brackets c more _ other _ _ _ _ _ ih =>
    exact bounded_more c other (ih (by simp) found)
  | case6 taken skip brackets c more _ other _ _ _ ih =>
    exact bounded_more c other (ih (by simp) found)
  | case7 taken skip brackets c more _ other _ _ ih =>
    exact bounded_more c other (ih (by simp) found)
  | case8 taken skip brackets c more _ other tripled _ ih =>
    apply bounded_more c other (ih _ found)
    split
    · rename_i long
      exact tripled_unescaped c more other long
    · simp
  | case9 => cases found
  | case10 taken skip brackets c more _ other _ _ _ ih =>
    exact bounded_more c other (ih (by simp) found)
  | case11 => cases found
  | case12 taken skip brackets c more _ other _ _ _ _ equals ih =>
    apply bounded_more c other (ih _ found)
    cases more with
    | nil => simp
    | cons d others =>
      simp only [Bool.and_eq_true] at equals
      simp at equals
      simp [equals.1]
  | case13 taken skip brackets c more _ other _ _ _ _ _ _ ih =>
    exact bounded_more c other (ih (by simp) found)
  | case14 taken skip brackets c more _ other _ _ _ mark =>
    cases found
    simp only [Bool.and_eq_true] at mark
    exact ⟨[], by simp, rfl, List.not_mem_nil, c, more, rfl, mark.2⟩
  | case15 taken skip c more _ other _ _ _ _ _ _ _ _ ih =>
    exact bounded_more c other (ih (by simp) found)
  | case16 => cases found
  | case17 => cases found
  | case18 taken skip brackets c more _ other _ _ _ _ _ ih =>
    exact bounded_more c other (ih (by simp) found)

end Runs

section Nested

/-- A text without carriage returns that stands on one line or has no tripled quote. -/
structure Calm (cs : List Char) : Prop where
  unified : '\r' ∉ cs
  flat : '\n' ∉ cs ∨ Untripled cs

theorem untripled_part {cs part : List Char} (untripled : Untripled cs) (inside : part <:+: cs) :
    Untripled part := fun quote quoted tripled => untripled quote quoted (tripled.trans inside)

theorem calm_part {cs part : List Char} (calm : Calm cs) (inside : part <:+: cs) : Calm part := by
  constructor
  · exact fun member => calm.unified (inside.subset member)
  · rcases calm.flat with single | untripled
    · exact Or.inl fun member => single (inside.subset member)
    · exact Or.inr (untripled_part untripled inside)

/-- Parentheses and a line break bring no tripled quote about. -/
theorem untripled_wrapped {body : List Char} (untripled : Untripled body) :
    Untripled ('(' :: body ++ [')'] ++ ['\n']) := by
  intro quote quoted tripled
  have other : quote ≠ '(' ∧ quote ≠ ')' ∧ quote ≠ '\n' := by
    rcases quoted with rfl | rfl <;> decide
  have last : ∀ (cs : List Char) (c : Char), quote ≠ c → [quote, quote, quote] <:+: cs ++ [c] →
      [quote, quote, quote] <:+: cs := by
    intro cs c differs inside
    rcases List.infix_concat_iff.mp inside with suffix | within
    · obtain ⟨front, same⟩ := suffix
      have ends : (front ++ [quote, quote]) ++ [quote] = cs ++ [c] := by simpa using same
      exact absurd (List.append_inj_right' ends rfl) (by simpa using differs)
    · exact within
  have inner := last _ _ other.2.1 (last _ _ other.2.2 tripled)
  rcases List.infix_cons_iff.mp inner with front | within
  · obtain ⟨rest, same⟩ := front
    exact other.1 (List.cons.inj same).1
  · exact untripled quote quoted within

theorem field_tokens_fit {line column : Nat} {body : List Char} {ts : List Token} (calm : Calm body)
    (unescaped : '\\' ∉ body) (found : tokensAt ⟨line, column⟩ ('(' :: body ++ [')']) = some ts) :
    (∀ k, ∀ t ∈ ts, ∀ literal, t.lexeme = .text literal → literal.Tame k) ∧
      ∀ k, room k ts + ahead k (advance line column ('(' :: body ++ [')'])) ≤
        ahead k (line, column) := by
  have clean : '\r' ∉ '(' :: body ++ [')'] := by simpa using calm.unified
  have closed : closeLastLine (Text.unifyBreaks ('(' :: body ++ [')'])) =
      '(' :: body ++ [')'] ++ ['\n'] := by
    have same : Text.unifyBreaks ('(' :: body ++ [')']) = '(' :: body ++ [')'] := by
      unfold Text.unifyBreaks
      rw [if_neg]
      simpa using clean
    have last : ('(' :: body ++ [')']).getLast? = some ')' := List.getLast?_concat
    rw [same]
    unfold closeLastLine
    rw [last]
    rfl
  have plain : Plain ('(' :: body ++ [')'] ++ ['\n']) := by
    constructor
    · simpa using unescaped
    · rcases calm.flat with single | untripled
      · rw [List.dropLast_concat]
        exact Or.inl (by simpa using single)
      · exact Or.inr (untripled_wrapped untripled)
  obtain ⟨sound, fits⟩ := tokens_at_fit True closed (by simpa using clean) (fun _ => plain)
    (Or.inr trivial) found
  constructor
  · intro k t member literal text
    obtain ⟨wide, unified, flat⟩ := sound t member literal text
    exact ⟨wide, unified, fun _ => Or.inl (flat trivial)⟩
  · intro k
    have within := fits k
    rw [List.dropLast_concat] at within
    exact within

theorem bare_unreal (spot : Nat × Nat) : ¬ (Key.mk .bare spot).Real :=
  fun real => Nat.not_succ_le_zero 0 real.ranked

theorem ahead_unreal {k : Key} (unreal : ¬ k.Real) (place : Nat × Nat) : ahead k place = 0 :=
  if_neg fun ⟨real, _⟩ => unreal real

theorem room_unreal {k : Key} (unreal : ¬ k.Real) (ts : List Token) : room k ts = 0 := by
  have each : ∀ t : Token, t.room k = 0 := by
    intro t
    simp [Token.room, ahead_unreal unreal]
  simp [room, funext each]

theorem parse_field_tally {k : Key} {expression : Parser Expr} {names : CharNames} {r : Reading}
    {body : List Char} {value : Expr}
    (reads : Spends k Anywhere 0 expression fun e => e.tree.tally k)
    (first : 1 ≤ r.line) (calm : k.Real → Calm body) (unescaped : '\\' ∉ body)
    (found : parseField expression names r body = some value) :
    value.tree.tally k + ahead k (advance r.line r.column ('(' :: body ++ [')'])) ≤
      ahead k (r.line, r.column) := by
  unfold parseField at found
  split at found
  · cases found
  · obtain ⟨ts, cut, found⟩ := Option.bind_eq_some_iff.mp found
    obtain ⟨⟨read, after⟩, ran, found⟩ := Option.bind_eq_some_iff.mp found
    cases found
    have below : ∀ t ∈ ts, 1 ≤ t.line :=
      fun t member => Nat.le_trans first (tokens_below cut t member)
    by_cases real : k.Real
    · obtain ⟨tame, fits⟩ := field_tokens_fit (calm real) unescaped cut
      have paid := (reads (.start names ts r.line) value after trivial (fun t member =>
        ⟨below t member, fun _ literal text _ => tame k t member literal text⟩) ran).2
      have within := fits k
      change value.tree.tally k + room k after.rest ≤ 0 + room k ts at paid
      omega
    · have paid := (reads (.start names ts r.line) value after trivial (fun t member =>
        ⟨below t member, fun other => absurd other real⟩) ran).2
      change value.tree.tally k + room k after.rest ≤ 0 + room k ts at paid
      rw [room_unreal real ts] at paid
      rw [ahead_unreal real, ahead_unreal real]
      omega

end Nested

section Leading

def Leads (r : Reading) (used : List Char) (after : Reading) : Prop :=
  r.rest = used ++ after.rest ∧ advance r.line r.column used = (after.line, after.column)

theorem leads_refl (r : Reading) : Leads r [] r := ⟨rfl, rfl⟩

theorem leads_trans {r middle after : Reading} {first second : List Char}
    (here : Leads r first middle) (there : Leads middle second after) :
    Leads r (first ++ second) after := by
  constructor
  · rw [here.1, there.1, List.append_assoc]
  · rw [advance_append, here.2]
    exact there.2

theorem leads_skip (r : Reading) (taken rest : List Char) (standing : r.rest = taken ++ rest) :
    Leads r taken (r.skip taken rest) := ⟨standing, rfl⟩

theorem leads_precedes {r after : Reading} {used : List Char} (leads : Leads r used after) :
    Precedes (r.line, r.column) (after.line, after.column) := by
  rw [← leads.2]
  exact precedes_advance _ _ _

theorem leads_suffix {r after : Reading} {used : List Char} (leads : Leads r used after) :
    after.rest <:+: r.rest := by
  rw [leads.1]
  exact (List.suffix_append used after.rest).isInfix

structure Reading.CalmFor (k : Key) (r : Reading) : Prop where
  line : 1 ≤ r.line
  text : k.Real → Calm r.rest

theorem calm_onward {k : Key} {r after : Reading} {used : List Char} (calm : r.CalmFor k)
    (leads : Leads r used after) : after.CalmFor k := by
  have onward := leads_precedes leads
  have first := calm.line
  constructor
  · unfold Precedes at onward
    omega
  · exact fun real => calm_part (calm.text real) (leads_suffix leads)

/-- Whoever goes on from a mark goes past it. -/
theorem leads_past {r after : Reading} {used more : List Char} {mark : Char}
    (leads : Leads r used after) (moved : used ≠ []) (standing : r.rest = mark :: more)
    (narrow : mark.utf8Size = 1 ∧ mark ≠ '\n') :
    Precedes (r.line, r.column + 1) (after.line, after.column) := by
  obtain ⟨whole, led⟩ := leads
  obtain ⟨single, other⟩ := narrow
  cases used with
  | nil => exact absurd rfl moved
  | cons c others =>
    rw [standing] at whole
    obtain ⟨rfl, _⟩ := List.cons.inj whole
    rw [← led]
    simp only [advance, single]
    exact precedes_advance _ _ _

end Leading

section Replacements

def fieldClose (ctx : JoinedContext) (value : Expr) (shown : Option (List Char))
    (conversion : Option Char) (format : Option Expr) (after : Reading) :
    Option (List Piece × Reading) :=
  match after.rest with
  | '\x7d' :: rest =>
    let conversion :=
      if shown.isSome && format.isNone && conversion.isNone then some 'r' else conversion
    let text : List Piece := match shown with
      | some cs => [.text (cs.map (·.toNat))]
      | none => []
    some (text ++ [.field (.formatted ctx.whole value conversion format)],
      after.skip ['\x7d'] rest)
  | _ => none

def fieldEnd (ctx : JoinedContext) (spec : Reading → Option (List Piece × Reading)) (value : Expr)
    (shown : Option (List Char)) (after : Reading) : Option (List Piece × Reading) := do
  let (conversion, after) ← conversionPart after
  let (format, after) ← match after.rest with
    | ':' :: rest => do
      if rest.isEmpty then none
      let (pieces, after) ← spec (after.skip [':'] rest)
      let values := pieceExprs ⟨ctx.whole, ctx.marked⟩ ⟨ctx.literal, false⟩ (joinTexts pieces)
      pure (some (Expr.joined ctx.literal values), after)
    | _ => pure (none, after)
  fieldClose ctx value shown conversion format after

theorem replacement_parts (ctx : JoinedContext) (spec : Reading → Option (List Piece × Reading))
    (r after : Reading) (pieces : List Piece)
    (found : replacement ctx spec r = some (pieces, after)) :
    ∃ body rest value shown middle used,
      fieldRun [] 0 none [] (r.rest.drop 1) = some (body, rest) ∧
      parseField ctx.expression ctx.names r body = some value ∧
      Leads (r.skip ('\x7b' :: body) rest) used middle ∧
      fieldEnd ctx spec value shown middle = some (pieces, after) := by
  unfold replacement at found
  obtain ⟨⟨body, rest⟩, run, found⟩ := Option.bind_eq_some_iff.mp found
  obtain ⟨value, parsed, found⟩ := Option.bind_eq_some_iff.mp found
  dsimp only at found
  split at found
  · rename_i more standing
    have whole := List.prefix_iff_eq_append.mp (List.takeWhile_prefix isPlainSpace (l := more))
    have leads := leads_skip (r.skip ('\x7b' :: body) rest) ('=' :: more.takeWhile isPlainSpace)
      (more.drop (more.takeWhile isPlainSpace).length) (by rw [standing, List.cons_append, whole])
    exact ⟨body, rest, value, some (body ++ '=' :: more.takeWhile isPlainSpace), _, _, run, parsed,
      leads, found⟩
  · exact ⟨body, rest, value, none, _, _, run, parsed, leads_refl _, found⟩

theorem conversion_leads (r after : Reading) (conversion : Option Char)
    (found : conversionPart r = some (conversion, after)) : ∃ used, Leads r used after := by
  unfold conversionPart at found
  split at found
  · rename_i c rest standing
    split at found
    · cases found
      exact ⟨_, leads_skip r ['!', c] rest standing⟩
    · cases found
  · cases found
  · cases found
    exact ⟨[], leads_refl r⟩

/-- What was read costs no more than the way that was gone for it. -/
def Fits (k : Key) (r : Reading) (pieces : List Piece) (after : Reading) : Prop :=
  ∃ used, Leads r used after ∧
    total (Piece.tally k) pieces + ahead k (after.line, after.column) ≤ ahead k (r.line, r.column)

theorem fits_after {k : Key} {r middle after : Reading} {used : List Char} {pieces : List Piece}
    (leads : Leads r used middle) (fits : Fits k middle pieces after) : Fits k r pieces after := by
  obtain ⟨others, led, paid⟩ := fits
  have less := ahead_antitone k (leads_precedes leads)
  exact ⟨_, leads_trans leads led, by omega⟩

theorem fits_append {k : Key} {r middle after : Reading} {first second : List Piece}
    (here : Fits k r first middle) (there : Fits k middle second after) :
    Fits k r (first ++ second) after := by
  obtain ⟨used, leads, paid⟩ := here
  obtain ⟨others, led, spent⟩ := there
  have all : total (Piece.tally k) (first ++ second) + ahead k (after.line, after.column) ≤
      ahead k (r.line, r.column) := by
    rw [total_append]
    omega
  exact ⟨_, leads_trans leads led, all⟩

theorem fits_text {k : Key} {r middle after : Reading} {used : List Char} {codes : List Nat}
    {pieces : List Piece} (leads : Leads r used middle) (fits : Fits k middle pieces after) :
    Fits k r (.text codes :: pieces) after := by
  obtain ⟨others, led, paid⟩ := fits_after leads fits
  exact ⟨others, led, by simpa [Piece.tally] using paid⟩

variable {k : Key} {ctx : JoinedContext} {spec : Reading → Option (List Piece × Reading)}
  (placed : ctx.whole.stray k = 0) (stamped : ctx.literal.stray k = 0)

include placed

theorem field_close_tally {value : Expr} {shown : Option (List Char)} {conversion : Option Char}
    {format : Option Expr} {last after : Reading} {pieces : List Piece}
    (closed : fieldClose ctx value shown conversion format last = some (pieces, after)) :
    Leads last ['\x7d'] after ∧
      total (Piece.tally k) pieces = value.tree.tally k + tallies k (optionTree format) := by
  unfold fieldClose at closed
  split at closed
  · rename_i rest standing
    cases closed
    constructor
    · exact leads_skip last ['\x7d'] rest standing
    · cases shown <;> simp [Piece.tally, Expr.tree, Node.own, Expr.span, placed]
  · cases closed

include stamped

theorem field_end_fits {value : Expr} {shown : Option (List Char)} {r after : Reading}
    {pieces : List Piece} (place : Nat × Nat)
    (specs : ∀ r pieces after, r.CalmFor k → spec r = some (pieces, after) →
      Fits k r pieces after)
    (calm : r.CalmFor k) (found : fieldEnd ctx spec value shown r = some (pieces, after))
    (past : ∀ used reached, used ≠ [] → Leads r used reached →
      Precedes place (reached.line, reached.column)) :
    (∃ used, used ≠ [] ∧ Leads r used after) ∧
      total (Piece.tally k) pieces + ahead k (after.line, after.column) ≤
        value.tree.tally k + ahead k place := by
  unfold fieldEnd at found
  obtain ⟨⟨conversion, second⟩, converted, found⟩ := Option.bind_eq_some_iff.mp found
  obtain ⟨first, leads⟩ := conversion_leads _ _ _ converted
  dsimp only at found
  split at found
  · rename_i rest standing
    split at found
    · cases found
    · obtain ⟨⟨inside, third⟩, read, found⟩ := Option.bind_eq_some_iff.mp found
      have closed : fieldClose ctx value shown conversion (some (.joined ctx.literal
          (pieceExprs ⟨ctx.whole, ctx.marked⟩ ⟨ctx.literal, false⟩ (joinTexts inside)))) third =
        some (pieces, after) := found
      obtain ⟨final, same⟩ := field_close_tally placed closed
      have begun := leads_trans leads (leads_skip second [':'] rest standing)
      obtain ⟨used, led, paid⟩ := specs _ _ _ (calm_onward calm begun) read
      have reached := ahead_antitone k (past _ _ (by simp) begun)
      have later := ahead_antitone k (leads_precedes final)
      constructor
      · exact ⟨_, by simp, leads_trans begun (leads_trans led final)⟩
      · simp [optionTree, Expr.tree, Node.own, Expr.span, piece_exprs_tally, join_texts_tally,
          placed, stamped] at same
        omega
  · have closed : fieldClose ctx value shown conversion none second = some (pieces, after) := found
    obtain ⟨final, same⟩ := field_close_tally placed closed
    have onward := leads_trans leads final
    have less := ahead_antitone k (past _ _ (by simp) onward)
    constructor
    · exact ⟨_, by simp, onward⟩
    · simp [optionTree] at same
      omega

/-- A field stands between its brace and the one that ends it. -/
theorem replacement_fits {r after : Reading} {pieces : List Piece} {start : List Char}
    (reads : Spends k Anywhere 0 ctx.expression fun e => e.tree.tally k)
    (specs : ∀ r pieces after, r.CalmFor k → spec r = some (pieces, after) →
      Fits k r pieces after)
    (calm : r.CalmFor k) (standing : r.rest = '\x7b' :: start)
    (found : replacement ctx spec r = some (pieces, after)) : Fits k r pieces after := by
  obtain ⟨body, rest, value, shown, middle, used, run, parsed, leads, ended⟩ :=
    replacement_parts ctx spec r after pieces found
  rw [standing] at run
  obtain ⟨_, rfl, whole, unescaped, mark, more, rfl, marked⟩ :=
    field_run_bounded _ _ _ _ _ _ _ (by simp) run
  have taken : r.rest = ('\x7b' :: body) ++ mark :: more := by
    rw [standing, List.cons_append]
    exact congrArg _ whole
  have begun := leads_skip r _ _ taken
  have inside : body <:+: r.rest := by
    rw [taken]
    exact ⟨['\x7b'], mark :: more, by simp⟩
  have wide := field_mark_narrow mark marked
  -- The place behind the mark, where the parentheses around the expression end.
  have behind : advance r.line r.column ('(' :: body ++ [')']) =
      ((r.skip ('\x7b' :: body) (mark :: more)).line,
        (r.skip ('\x7b' :: body) (mark :: more)).column + 1) := by
    rw [advance_append]
    rfl
  have paid := parse_field_tally reads calm.line (fun real => calm_part (calm.text real) inside)
    unescaped parsed
  rw [behind] at paid
  have past : ∀ others reached, others ≠ [] → Leads middle others reached →
      Precedes ((r.skip ('\x7b' :: body) (mark :: more)).line,
        (r.skip ('\x7b' :: body) (mark :: more)).column + 1) (reached.line, reached.column) := by
    intro others reached moved further
    exact leads_past (leads_trans leads further) (by simp [moved]) rfl wide
  have calm_middle := calm_onward calm (leads_trans begun leads)
  obtain ⟨⟨final, _, led⟩, spent⟩ := field_end_fits placed stamped _ specs calm_middle ended past
  exact ⟨_, leads_trans begun (leads_trans leads led), by omega⟩

omit placed stamped in
theorem brace_narrow (c : Char) (braced : isBrace c = true) : c.utf8Size = 1 ∧ c ≠ '\n' := by
  simp only [isBrace, Bool.or_eq_true, beq_iff_eq] at braced
  rcases braced with rfl | rfl <;> decide

omit placed stamped in
theorem stretch_leads {raw outermost : Bool} {r : Reading} {run : Stretch}
    (found : stretch raw outermost false [] r.rest = some run) :
    ∃ used, Leads r used
      (r.skip (if run.doubled then run.taken ++ ['\x7d'] else run.taken) run.rest) := by
  obtain ⟨used, brace, same, braced, whole⟩ := stretch_taken _ _ _ _ _ _ found
  rw [List.reverse_nil, List.nil_append] at same
  by_cases doubled : run.doubled = true
  · obtain ⟨single, other⟩ := brace_narrow brace braced
    rw [if_pos doubled] at whole ⊢
    apply Exists.intro (used ++ [brace])
    constructor
    · rw [whole, List.append_assoc]
      rfl
    · rw [same]
      simp only [Reading.skip, advance_append, advance, single]
      rfl
  · rw [if_neg doubled] at whole ⊢
    exact ⟨used, whole, by rw [same]; rfl⟩

/-- The pieces of a joined text stand one behind the other. -/
theorem joined_pieces_fit (reads : Spends k Anywhere 0 ctx.expression fun e => e.tree.tally k)
    (fuel level : Nat) (r after : Reading) (pieces : List Piece) (calm : r.CalmFor k)
    (found : joinedPieces ctx fuel level r = some (pieces, after)) :
    Fits k r pieces after ∧ (level = 0 → after.rest = []) := by
  induction fuel generalizing level r after pieces with
  | zero => cases found
  | succ fuel ih =>
    unfold joinedPieces at found
    obtain ⟨run, stretched, found⟩ := Option.bind_eq_some_iff.mp found
    obtain ⟨codes, decoded, found⟩ := Option.bind_eq_some_iff.mp found
    obtain ⟨used, leads⟩ := stretch_leads stretched
    have calmer := calm_onward calm leads
    dsimp only at found
    generalize r.skip (if run.doubled then run.taken ++ ['\x7d'] else run.taken) run.rest = middle
      at found leads calmer
    have alone : Fits k r [.text codes] middle := fits_text leads ⟨[], leads_refl middle, by simp⟩
    split at found
    · obtain ⟨⟨others, last⟩, later, found⟩ := Option.bind_eq_some_iff.mp found
      cases found
      obtain ⟨fits, ends⟩ := ih level middle last others calmer later
      exact ⟨fits_text leads fits, ends⟩
    · split at found
      · rename_i start standing
        split at found
        · cases found
        · obtain ⟨⟨field, behind⟩, replaced, found⟩ := Option.bind_eq_some_iff.mp found
          obtain ⟨⟨others, last⟩, later, found⟩ := Option.bind_eq_some_iff.mp found
          cases found
          have specs := fun r pieces after calm found =>
            (ih (level + 1) r after pieces calm found).1
          have first := replacement_fits placed stamped reads specs calmer standing replaced
          have calmest : behind.CalmFor k := by
            obtain ⟨_, onward, _⟩ := first
            exact calm_onward calmer onward
          obtain ⟨fits, ends⟩ := ih level behind last others calmest later
          exact ⟨fits_text leads (fits_append first fits), ends⟩
      · rename_i empty
        split at found
        · cases found
          exact ⟨alone, fun _ => empty⟩
        · cases found
      · split at found
        · cases found
        · rename_i nested
          cases found
          exact ⟨alone, fun outer => absurd (by simp [outer]) nested⟩

end Replacements

section Literals

variable {k : Key} {expression : Parser Expr}
  (reads : Spends k Anywhere 0 expression fun e => e.tree.tally k)

include reads

theorem literal_pieces_tally {names : CharNames} {whole : Span} {marked : Bool}
    (placed : whole.stray k = 0) {t : Token} {literal : Literal} {pieces : List Piece}
    (tame : t.Tame k) (text : t.lexeme = .text literal)
    (found : literalPieces expression names whole marked t literal = some pieces) :
    total (Piece.tally k) pieces + spare k t.spot 1 ≤ t.room k := by
  have content : t.lexeme.isContent = true := by
    rw [text]
    rfl
  unfold literalPieces at found
  split at found
  · rename_i format
    have calm := fun real => tame.literals real literal text format
    by_cases sought : k.kind = .stmt
    · have own := token_room k t tame content
      rw [pieces_stmtless sought]
      omega
    obtain ⟨⟨_, after⟩, read, rfl⟩ := Option.map_eq_some_iff.mp found
    obtain ⟨⟨used, leads, paid⟩, ends⟩ :=
      joined_pieces_fit placed (stray_known k _ _ _) reads _ _ _ _ _
        ⟨tame.line, fun real => ⟨(calm real).unified, (calm real).flat sought⟩⟩ read
    have same : literal.body = used := by simpa [ends rfl] using leads.1
    have stop : t.stop = (after.line, after.column) := by
      rw [← leads.2, ← same]
      unfold Token.stop Lexeme.stop
      rw [text]
      exact if_pos format
    have later := ahead_antitone k (precedes_column t.line t.column literal.margin)
    rw [Token.room, if_pos content, stop]
    unfold spare
    split
    · rename_i here
      have real := spare_real tame here
      obtain ⟨own, past⟩ := ahead_here k _ _ _ (calm real).margin here.1 real
      change _ ≤ ahead k (t.line, t.column) - _
      dsimp only at paid ⊢
      omega
    · change _ ≤ ahead k (t.line, t.column) - _
      dsimp only at paid ⊢
      omega
  · obtain ⟨codes, _, rfl⟩ := Option.map_eq_some_iff.mp found
    have own := token_room k t tame content
    simpa [Piece.tally] using own

theorem all_pieces_tally {names : CharNames} {whole : Span} {marked : Bool}
    (placed : whole.stray k = 0) (literals : List (Token × Literal)) (pieces : List (List Piece))
    (texts : ∀ p ∈ literals, p.1.lexeme = .text p.2 ∧ p.1.Tame k)
    (found : literals.mapM (fun p => literalPieces expression names whole marked p.1 p.2) =
      some pieces) :
    total (Piece.tally k) pieces.flatten + total (fun p => spare k p.1.spot 1) literals ≤
      total (fun p => p.1.room k) literals := by
  induction literals generalizing pieces with
  | nil =>
    cases found
    exact Nat.le_refl 0
  | cons p rest ih =>
    rw [List.mapM_cons] at found
    obtain ⟨own, first, found⟩ := Option.bind_eq_some_iff.mp found
    obtain ⟨others, later, found⟩ := Option.bind_eq_some_iff.mp found
    cases found
    obtain ⟨text, tame⟩ := texts p List.mem_cons_self
    have here := literal_pieces_tally reads placed tame text first
    have there := ih others (fun q member => texts q (List.mem_cons_of_mem p member)) later
    simp only [List.flatten_cons, total_append, total_cons]
    omega

theorem literal_expr_tally {names : CharNames} {literals : List (Token × Literal)}
    {value : Expr} (texts : ∀ p ∈ literals, p.1.lexeme = .text p.2 ∧ p.1.Tame k)
    (found : literalExpr expression names literals = some value) :
    ∃ first rest, literals = first :: rest ∧
      value.tree.tally k + spare k first.1.spot 1 ≤ total (fun p => p.1.room k) literals := by
  unfold literalExpr at found
  obtain ⟨⟨first, head⟩, front, found⟩ := Option.bind_eq_some_iff.mp found
  obtain ⟨rest, rfl⟩ := List.head?_eq_some_iff.mp front
  obtain ⟨⟨last, _⟩, _, found⟩ := Option.bind_eq_some_iff.mp found
  have light : ∀ line column last constant,
      (Expr.constant (.known line column last) constant).tree.tally k + spare k first.spot 1 ≤
        total (fun p => p.1.room k) ((first, head) :: rest) := by
    intro line column last constant
    obtain ⟨text, tame⟩ := texts (first, head) List.mem_cons_self
    have own := token_room k first tame (by rw [text]; rfl)
    simp [Expr.tree, Node.own, Expr.span]
    omega
  apply Exists.intro (first, head)
  apply Exists.intro rest
  constructor
  · rfl
  dsimp only at found
  split at found
  · obtain ⟨values, _, found⟩ := Option.bind_eq_some_iff.mp found
    cases found
    exact light _ _ _ _
  · split at found
    · cases found
    · obtain ⟨pieces, each, found⟩ := Option.bind_eq_some_iff.mp found
      have paid := all_pieces_tally reads (stray_known k _ _ _) _ pieces texts each
      split at found
      · cases found
        have inside := piece_exprs_tally k
          ⟨.known first.line first.column last.endLine, head.marked⟩
          ⟨.known first.line first.column last.endLine, head.marked⟩ (joinTexts pieces.flatten)
          (stray_known k _ _ _) (stray_known k _ _ _)
        simp [Expr.tree, Node.own, Expr.span, inside, join_texts_tally] at paid ⊢
        omega
      · split at found
        · cases found
          exact light _ _ _ _
        · cases found
          exact light _ _ _ _

end Literals

section Strings

variable {k : Key}

def oneText : Parser (Token × Literal) := do
  match ← Parser.peek with
  | .text literal => return (← Parser.next, literal)
  | _ => failure

theorem one_text_taken (c after : Cursor) (found : Token × Literal)
    (read : oneText c = some (found, after)) :
    c.rest = found.1 :: after.rest ∧ found.1.lexeme = .text found.2 := by
  obtain ⟨lexeme, between, peeked, read⟩ := bind_read read
  have same : ((c.rest.head?.map (·.lexeme)).getD .done, c) = (lexeme, between) :=
    Option.some.inj peeked
  obtain ⟨shown, rfl⟩ := Prod.mk.inj same
  cases lexeme with
  | text literal =>
    obtain ⟨t, _, taken, read⟩ := bind_read read
    cases read
    obtain ⟨rest, endLine, size, names⟩ := c
    cases rest with
    | nil => cases taken
    | cons u others =>
      cases taken
      exact ⟨rfl, shown⟩
  | _ => cases read

theorem many_texts_taken (c after : Cursor) (found : List (Token × Literal))
    (read : Parser.many oneText c = some (found, after)) :
    c.rest = found.map (·.1) ++ after.rest ∧ ∀ p ∈ found, p.1.lexeme = .text p.2 := by
  obtain ⟨items, between, run, read⟩ := bind_read read
  cases read
  have kept := iterate_keeps (P := fun (items : List (Token × Literal)) here =>
    c.rest = items.reverse.map (·.1) ++ here.rest ∧ ∀ p ∈ items, p.1.lexeme = .text p.2)
    (by
      rintro items here next after ⟨whole, texts⟩ step
      obtain ⟨p, _, one, step⟩ := bind_read step
      cases step
      obtain ⟨taken, text⟩ := one_text_taken _ _ _ one
      constructor
      · rw [whole, taken]
        simp
      · simpa [text] using texts)
    [] items c after ⟨by simp, by simp⟩ run
  exact ⟨kept.1, by simpa using kept.2⟩

theorem room_texts (found : List (Token × Literal)) (rest : List Token) :
    room k (found.map (·.1) ++ rest) = total (fun p => p.1.room k) found + room k rest := by
  unfold room
  rw [total_append, total_map]

/-- Adjacent literals leave the spot where the first of them stands. -/
theorem reads_strings {inner : Goal → Parser Expr}
    (reads : Spends k Anywhere 0 (inner .starExpressions) fun e => e.tree.tally k) :
    Reads k 1 (Grammar.strings inner) fun e => e.tree.tally k := by
  have pays : ∀ c value after, c.Tame k → Grammar.strings inner c = some (value, after) →
      after.Tame k ∧ ∃ t rest, c.rest = t :: rest ∧
        value.tree.tally k + spare k t.spot 1 + room k after.rest ≤ room k c.rest := by
    intro c value after tame read
    obtain ⟨literals, between, many, read⟩ := bind_read read
    obtain ⟨_, _, standing, read⟩ := bind_read read
    cases standing
    obtain ⟨first, second, one, more⟩ := bind_read many
    obtain ⟨others, third, more, finish⟩ := bind_read more
    cases finish
    obtain ⟨taken, text⟩ := one_text_taken _ _ _ one
    obtain ⟨whole, texts⟩ := many_texts_taken _ _ _ more
    have all : c.rest = (first :: others).map (·.1) ++ between.rest := by
      rw [taken, whole]
      rfl
    have calm : ∀ p ∈ first :: others, p.1.lexeme = .text p.2 ∧ p.1.Tame k := by
      intro p member
      constructor
      · rcases List.mem_cons.mp member with rfl | later
        · exact text
        · exact texts p later
      · apply tame
        rw [all]
        exact List.mem_append_left _ (List.mem_map_of_mem member)
    cases made : literalExpr (inner .starExpressions) between.names (first :: others) with
    | none =>
      rw [made] at read
      cases read
    | some found =>
      rw [made] at read
      cases read
      obtain ⟨front, behind, same, paid⟩ := literal_expr_tally reads calm made
      cases same
      constructor
      · intro t member
        apply tame
        rw [all]
        exact List.mem_append_right _ member
      · apply Exists.intro first.1
        apply Exists.intro second.rest
        constructor
        · exact taken
        · rw [all, room_texts]
          omega
  constructor
  · rintro start c value after ⟨t, rest, standing, here⟩ tame read
    obtain ⟨calm, u, others, same, paid⟩ := pays c value after tame read
    rw [standing] at same
    cases same
    rw [here] at paid
    exact ⟨calm, by dsimp only; omega⟩
  · intro c value after _ tame read
    obtain ⟨calm, u, others, same, paid⟩ := pays c value after tame read
    exact ⟨calm, by dsimp only; omega⟩

end Strings

end RefactorAdvice.Code
