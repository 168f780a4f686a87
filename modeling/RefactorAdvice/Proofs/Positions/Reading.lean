import RefactorAdvice.Code.Cursor
import RefactorAdvice.Proofs.Positions.Keys

/-!
Reading as spending. Every token has room for the keys that stand where it does, each once, and a
literal with replacement fields has room for those of its whole stretch. What is read spends the
room of the tokens it took: a parser is fine if what it gives costs no more than the room that its
tokens leave, together with the credit it starts with.
-/

namespace RefactorAdvice.Code

section Places

def Precedes (p q : Nat × Nat) : Prop := p.1 < q.1 ∨ p.1 = q.1 ∧ p.2 ≤ q.2

instance (p q : Nat × Nat) : Decidable (Precedes p q) :=
  inferInstanceAs (Decidable (p.1 < q.1 ∨ p.1 = q.1 ∧ p.2 ≤ q.2))

theorem precedes_refl (p : Nat × Nat) : Precedes p p := Or.inr ⟨rfl, Nat.le_refl _⟩

theorem precedes_trans {p q r : Nat × Nat} (first : Precedes p q) (second : Precedes q r) :
    Precedes p r := by
  unfold Precedes at *
  omega

theorem precedes_column (line column width : Nat) :
    Precedes (line, column) (line, column + width) :=
  Or.inr ⟨rfl, Nat.le_add_right column width⟩

theorem precedes_advance (line column : Nat) (cs : List Char) :
    Precedes (line, column) (advance line column cs) := by
  fun_induction advance line column cs with
  | case1 line column => exact precedes_refl _
  | case2 line column rest ih => exact precedes_trans (Or.inl (Nat.lt_succ_self line)) ih
  | case3 line column c rest _ ih =>
    exact precedes_trans (precedes_column line column c.utf8Size) ih

end Places

section Room

/-- How far up the nodes of a kind can stand above others that start with them; a bare operation
can stand nowhere. -/
def Kind.rank : Kind → Nat
  | .bare => 0
  | .call => 1
  | .compare | .inversion => 2
  | .chain .and | .crowd _ => 3
  | .chain .or => 4
  | .stmt => 5

structure Key.Real (k : Key) : Prop where
  ranked : 1 ≤ k.kind.rank
  below : 1 ≤ k.spot.1

instance (k : Key) : Decidable k.Real :=
  decidable_of_iff (1 ≤ k.kind.rank ∧ 1 ≤ k.spot.1)
    ⟨fun both => ⟨both.1, both.2⟩, fun real => ⟨real.ranked, real.below⟩⟩

def ahead (k : Key) (place : Nat × Nat) : Nat :=
  if k.Real ∧ Precedes place k.spot then 1 else 0

def Lexeme.isContent : Lexeme → Bool
  | .newline | .indent | .dedent | .done => false
  | _ => true

def Token.spot (t : Token) : Nat × Nat := (t.line, t.column)

def Lexeme.stop (lexeme : Lexeme) (line column : Nat) : Nat × Nat :=
  match lexeme with
  | .text literal =>
    if literal.isFormat then advance line (column + literal.margin) literal.body
    else (line, column + 1)
  | _ => (line, column + 1)

def Token.stop (t : Token) : Nat × Nat := t.lexeme.stop t.line t.column

def Token.room (k : Key) (t : Token) : Nat :=
  if t.lexeme.isContent then ahead k t.spot - ahead k t.stop else 0

def room (k : Key) (ts : List Token) : Nat := total (Token.room k) ts

theorem ahead_le_one (k : Key) (place : Nat × Nat) : ahead k place ≤ 1 := by
  unfold ahead
  split <;> omega

theorem ahead_antitone (k : Key) {p q : Nat × Nat} (before : Precedes p q) :
    ahead k q ≤ ahead k p := by
  unfold ahead
  split
  · rename_i there
    exact Nat.le_of_eq (if_pos ⟨there.1, precedes_trans before there.2⟩).symm
  · exact Nat.zero_le _

theorem ahead_here (k : Key) (line column width : Nat) (wide : 1 ≤ width)
    (here : k.spot = (line, column)) (real : k.Real) :
    ahead k (line, column) = 1 ∧ ahead k (line, column + width) = 0 := by
  unfold ahead
  rw [here]
  constructor
  · rw [if_pos ⟨real, precedes_refl _⟩]
  · rw [if_neg]
    rintro ⟨_, before⟩
    unfold Precedes at before
    omega

end Room

section Tame

def Untripled (cs : List Char) : Prop := ∀ q, q = '\'' ∨ q = '"' → ¬ [q, q, q] <:+: cs

instance (cs : List Char) : Decidable (Untripled cs) :=
  @decidable_of_iff _ (¬ ['\'', '\'', '\''] <:+: cs ∧ ¬ ['"', '"', '"'] <:+: cs)
    (by simp [Untripled])
    (@instDecidableAnd _ _
      (@instDecidableNot _ (List.instDecidableIsInfixOfDecidableEq _ cs))
      (@instDecidableNot _ (List.instDecidableIsInfixOfDecidableEq _ cs)))

/-- A literal whose fields have their true places: it stands on one line, or without a tripled
quote in it, so that no text in a field goes on over the end of a line. Where only statements are
looked for, nothing is asked of the fields. -/
structure Literal.Tame (k : Key) (literal : Literal) : Prop where
  margin : 1 ≤ literal.margin
  unified : '\r' ∉ literal.body
  flat : k.kind ≠ .stmt → '\n' ∉ literal.body ∨ Untripled literal.body

structure Token.Tame (k : Key) (t : Token) : Prop where
  line : 1 ≤ t.line
  literals : k.Real → ∀ literal, t.lexeme = .text literal → literal.isFormat = true → literal.Tame k

def Cursor.Tame (k : Key) (c : Cursor) : Prop := ∀ t ∈ c.rest, t.Tame k

end Tame

section Spare

def spare (k : Key) (spot : Nat × Nat) (bound : Nat) : Nat :=
  if k.spot = spot ∧ bound ≤ k.kind.rank then 1 else 0

theorem spare_real {k : Key} {t : Token} (tame : t.Tame k)
    (here : k.spot = t.spot ∧ 1 ≤ k.kind.rank) : k.Real := ⟨here.2, here.1 ▸ tame.line⟩

theorem token_room (k : Key) (t : Token) (tame : t.Tame k) (content : t.lexeme.isContent = true) :
    spare k t.spot 1 ≤ t.room k := by
  unfold spare
  split
  · rename_i here
    have real := spare_real tame here
    have wide : ahead k t.spot = 1 ∧ ahead k t.stop = 0 := by
      unfold Token.stop Lexeme.stop
      split
      · rename_i literal text
        split
        · rename_i format
          obtain ⟨own, past⟩ := ahead_here k _ _ _ (tame.literals real literal text format).margin
            here.1 real
          have beyond := ahead_antitone k
            (precedes_advance t.line (t.column + literal.margin) literal.body)
          exact ⟨own, by omega⟩
        · exact ahead_here k _ _ 1 (Nat.le_refl 1) here.1 real
      · exact ahead_here k _ _ 1 (Nat.le_refl 1) here.1 real
    rw [Token.room, if_pos content]
    omega
  · exact Nat.zero_le _

theorem spare_mono (k : Key) (spot : Nat × Nat) (low high : Nat) (le : low ≤ high) :
    spare k spot high ≤ spare k spot low := by
  unfold spare
  split
  · rename_i there
    exact Nat.le_of_eq (if_pos ⟨there.1, Nat.le_trans le there.2⟩).symm
  · exact Nat.zero_le _

/-- A kind of a rank below the bound has room beside those from the bound on. -/
theorem spare_mine (k : Key) (spot : Nat × Nat) (kind : Kind) (low high : Nat)
    (from_low : low ≤ kind.rank) (below : kind.rank < high) :
    mine k kind spot + spare k spot high ≤ spare k spot low := by
  unfold mine
  split
  · rename_i same
    subst same
    simp [spare, from_low, Nat.not_le.mpr below]
  · have less := spare_mono k spot low high (by omega)
    omega

end Spare

section Spending

variable {α β : Type} {k : Key}

/-- A parser that, from a cursor as said and with a credit, spends no more than there is. -/
def Spends (k : Key) (pre : Cursor → Prop) (credit : Nat) (p : Parser α) (cost : α → Nat) : Prop :=
  ∀ c value after, pre c → c.Tame k → p c = some (value, after) →
    after.Tame k ∧ cost value + room k after.rest ≤ credit + room k c.rest

def Anywhere (_ : Cursor) : Prop := True

def On (spot : Nat × Nat) (c : Cursor) : Prop := ∃ t rest, c.rest = t :: rest ∧ t.spot = spot

def Seen (spot : Nat × Nat) (content : Bool) (c : Cursor) : Prop :=
  ∃ t rest, c.rest = t :: rest ∧ t.spot = spot ∧ t.lexeme.isContent = content

variable {pre : Cursor → Prop} {credit : Nat} {cost : α → Nat}

theorem bind_read {x : Parser α} {next : α → Parser β} {c after : Cursor} {result : β}
    (read : (x >>= next) c = some (result, after)) :
    ∃ value between, x c = some (value, between) ∧ next value between = some (result, after) := by
  obtain ⟨⟨value, between⟩, first, second⟩ := Option.bind_eq_some_iff.mp read
  exact ⟨value, between, first, second⟩

theorem spends_bind {x : Parser α} {next : α → Parser β} {middle : α → Nat} {cost : β → Nat}
    (here : Spends k pre credit x middle)
    (there : ∀ value, Spends k Anywhere (middle value) (next value) cost) :
    Spends k pre credit (x >>= next) cost := by
  intro c result after fits tame read
  obtain ⟨value, between, first, second⟩ := bind_read read
  obtain ⟨calm, paid⟩ := here c value between fits tame first
  obtain ⟨steady, spent⟩ := there value between result after trivial calm second
  exact ⟨steady, by omega⟩

-- What is known of a value by other means can be used in what follows.
theorem spends_bind_known {x : Parser α} {next : α → Parser β} {middle : α → Nat} {cost : β → Nat}
    {good : α → Prop} (here : Spends k pre credit x middle)
    (known : ∀ c value after, c.Tame k → x c = some (value, after) → good value)
    (there : ∀ value, good value → Spends k Anywhere (middle value) (next value) cost) :
    Spends k pre credit (x >>= next) cost := by
  intro c result after fits tame read
  obtain ⟨value, between, first, second⟩ := bind_read read
  obtain ⟨calm, paid⟩ := here c value between fits tame first
  have sound := known c value between tame first
  obtain ⟨steady, spent⟩ := there value sound between result after trivial calm second
  exact ⟨steady, by omega⟩

theorem spends_pure (value : α) (le : cost value ≤ credit) :
    Spends k pre credit (pure value : Parser α) cost := by
  intro c result after fits tame read
  cases read
  exact ⟨tame, by omega⟩

theorem spends_failure : Spends k pre credit (failure : Parser α) cost := by
  intro c result after fits tame read
  cases read

theorem spends_failure_bind {next : β → Parser α} :
    Spends k pre credit ((failure : Parser β) >>= next) cost := by
  intro c result after fits tame read
  cases read

theorem spends_or {p q : Parser α} (first : Spends k pre credit p cost)
    (second : Spends k pre credit q cost) : Spends k pre credit (p <|> q) cost := by
  intro c result after fits tame read
  change (p c <|> q c) = some (result, after) at read
  cases left : p c with
  | none =>
    rw [left] at read
    exact second c result after fits tame read
  | some found =>
    rw [left] at read
    cases read
    exact first c result after fits tame left

theorem spends_weaken {p : Parser α} {less : Nat} {more : α → Nat}
    (reads : Spends k pre less p more) (le : less ≤ credit)
    (ge : ∀ value, cost value ≤ more value) :
    Spends k pre credit p cost := by
  intro c value after fits tame read
  obtain ⟨calm, paid⟩ := reads c value after fits tame read
  have := ge value
  exact ⟨calm, by omega⟩

theorem spends_pre {p : Parser α} {other : Cursor → Prop} (reads : Spends k other credit p cost)
    (weaker : ∀ c, pre c → other c) : Spends k pre credit p cost :=
  fun c value after fits => reads c value after (weaker c fits)

theorem spends_anywhere {p : Parser α} (reads : Spends k Anywhere credit p cost) :
    Spends k pre credit p cost := spends_pre reads fun _ _ => trivial

-- A credit that a parser does not touch is left when it is done.
theorem spends_frame {p : Parser α} {own : Nat} (extra : Nat) (reads : Spends k pre own p cost) :
    Spends k pre (extra + own) p (fun value => extra + cost value) := by
  intro c value after fits tame read
  obtain ⟨calm, paid⟩ := reads c value after fits tame read
  exact ⟨calm, by dsimp only; omega⟩

theorem spends_map {p : Parser α} {f : α → β} {cost : β → Nat}
    (reads : Spends k pre credit p fun value => cost (f value)) :
    Spends k pre credit (f <$> p) cost := by
  rw [map_eq_pure_bind]
  exact spends_bind reads fun value => spends_pure _ (Nat.le_refl _)

theorem spends_then {p : Parser α} {q : Parser β} {middle : Nat} {cost : β → Nat}
    (here : Spends k pre credit p fun _ => middle) (there : Spends k Anywhere middle q cost) :
    Spends k pre credit (p *> q) cost := by
  rw [seqRight_eq_bind]
  exact spends_bind here fun _ => there

theorem spends_optional {p : Parser α} {cost : Option α → Nat}
    (some_ : Spends k pre credit p fun value => cost (some value)) (none_ : cost none ≤ credit) :
    Spends k pre credit (optional p) cost :=
  spends_or (spends_map some_) (spends_pure _ none_)

end Spending

section Looking

variable {α β : Type} {k : Key} {pre : Cursor → Prop} {credit : Nat} {cost : β → Nat}

def Looks (p : Parser α) : Prop := ∀ c value after, p c = some (value, after) → after = c

theorem spends_look {p : Parser α} {next : α → Parser β} (looks : Looks p)
    (there : ∀ value, Spends k pre credit (next value) cost) :
    Spends k pre credit (p >>= next) cost := by
  intro c result after fits tame read
  obtain ⟨value, between, first, second⟩ := bind_read read
  obtain rfl := looks c value between first
  exact there value between result after fits tame second

theorem looks_bind {p : Parser α} {next : α → Parser β} (here : Looks p)
    (there : ∀ value, Looks (next value)) : Looks (p >>= next) := by
  intro c result after read
  obtain ⟨value, between, first, second⟩ := bind_read read
  obtain rfl := here c value between first
  exact there value between result after second

theorem looks_pure (value : α) : Looks (pure value : Parser α) := by
  intro c result after read
  cases read
  rfl

theorem looks_peek : Looks Parser.peek := by
  intro c value after read
  cases read
  rfl

theorem looks_peek_second : Looks Parser.peekSecond := by
  intro c value after read
  cases read
  rfl

theorem looks_next_symbol (text : String) : Looks (Parser.nextIsSymbol text) := by
  unfold Parser.nextIsSymbol
  refine looks_bind looks_peek fun lexeme => ?_
  split <;> exact looks_pure _

theorem looks_next_keyword (word : String) : Looks (Parser.nextIsKeyword word) := by
  unfold Parser.nextIsKeyword
  refine looks_bind looks_peek fun lexeme => ?_
  split <;> exact looks_pure _

theorem spends_position {next : Nat × Nat → Parser β}
    (there : ∀ start, Spends k (On start) credit (next start) cost) :
    Spends k pre credit (Parser.position >>= next) cost := by
  intro c result after fits tame read
  obtain ⟨start, between, first, second⟩ := bind_read read
  obtain ⟨rest, endLine, size⟩ := c
  cases rest with
  | nil => cases first
  | cons t others =>
    cases first
    exact there t.spot _ result after ⟨t, others, rfl, rfl⟩ tame second

theorem spends_span {start : Nat × Nat} {next : Span → Parser β}
    (there : ∀ last, Spends k pre credit (next (.known start.1 start.2 last)) cost) :
    Spends k pre credit (Parser.spanFrom start >>= next) cost := by
  intro c result after fits tame read
  exact there c.endLine c result after fits tame read

/-- A node is made of what was read, from its start on. -/
theorem spends_node {start : Nat × Nat} {build : Span → β}
    (le : ∀ last, cost (build (.known start.1 start.2 last)) ≤ credit) :
    Spends k pre credit (do return build (← Parser.spanFrom start)) cost := by
  apply spends_span
  intro last
  exact spends_pure _ (le last)

theorem spends_peek {start : Nat × Nat} {next : Lexeme → Parser β}
    (there : ∀ lexeme, Spends k (Seen start lexeme.isContent) credit (next lexeme) cost) :
    Spends k (On start) credit (Parser.peek >>= next) cost := by
  rintro ⟨rest, endLine, size⟩ result after ⟨t, others, standing, here⟩ tame read
  cases standing
  exact there t.lexeme _ result after ⟨t, others, rfl, here, rfl⟩ tame read

end Looking

section Taking

variable {α β : Type} {k : Key} {credit : Nat}

theorem next_spends : Spends k Anywhere credit Parser.next fun _ => credit := by
  rintro ⟨rest, endLine, size⟩ t after _ tame read
  cases rest with
  | nil => cases read
  | cons first others =>
    cases read
    constructor
    · exact fun other member => tame other (List.mem_cons_of_mem t member)
    · change credit + room k others ≤ credit + (t.room k + room k others)
      omega

-- The first token of what is read gives all its room to the keys that start with it.
theorem next_spends_seen {start : Nat × Nat} :
    Spends k (Seen start true) credit Parser.next fun _ => credit + spare k start 1 := by
  rintro ⟨rest, endLine, size⟩ t after ⟨first, others, standing, here, content⟩ tame read
  cases standing
  cases read
  have own := token_room k t (tame t List.mem_cons_self) content
  rw [here] at own
  constructor
  · exact fun other member => tame other (List.mem_cons_of_mem t member)
  · change credit + spare k start 1 + room k others ≤ credit + (t.room k + room k others)
    omega

theorem discard_spends {p : Parser α} {pre : Cursor → Prop} {left : Nat}
    (reads : Spends k pre credit p fun _ => left) :
    Spends k pre credit (discard p) fun _ => left := spends_map reads

theorem seen_on {start : Nat × Nat} {content : Bool} (c : Cursor) (seen : Seen start content c) :
    On start c := by
  obtain ⟨t, rest, standing, here, _⟩ := seen
  exact ⟨t, rest, standing, here⟩

variable {start : Nat × Nat} {cost : β → Nat}

theorem spends_next_symbol {text : String} {next : Bool → Parser β}
    (yes : Spends k (Seen start true) credit (next true) cost)
    (no : Spends k (On start) credit (next false) cost) :
    Spends k (On start) credit (Parser.nextIsSymbol text >>= next) cost := by
  unfold Parser.nextIsSymbol
  rw [bind_assoc]
  apply spends_peek
  intro lexeme
  have other : Spends k (Seen start lexeme.isContent) credit (next false) cost :=
    spends_pre no seen_on
  cases lexeme with
  | symbol s =>
    dsimp only
    rw [pure_bind]
    cases s == text with
    | true => exact yes
    | false => exact other
  | _ => exact other

theorem spends_next_keyword {word : String} {next : Bool → Parser β}
    (yes : Spends k (Seen start true) credit (next true) cost)
    (no : Spends k (On start) credit (next false) cost) :
    Spends k (On start) credit (Parser.nextIsKeyword word >>= next) cost := by
  unfold Parser.nextIsKeyword
  rw [bind_assoc]
  apply spends_peek
  intro lexeme
  have other : Spends k (Seen start lexeme.isContent) credit (next false) cost :=
    spends_pre no seen_on
  cases lexeme with
  | keyword w =>
    dsimp only
    rw [pure_bind]
    cases w == word with
    | true => exact yes
    | false => exact other
  | _ => exact other

theorem symbol_on (text : String) :
    Spends k (On start) credit (Parser.symbol text) fun _ => credit + spare k start 1 := by
  apply spends_next_symbol
  · exact discard_spends next_spends_seen
  · exact spends_failure

theorem keyword_on (word : String) :
    Spends k (On start) credit (Parser.keyword word) fun _ => credit + spare k start 1 := by
  apply spends_next_keyword
  · exact discard_spends next_spends_seen
  · exact spends_failure

theorem name_on : Spends k (On start) credit Parser.name fun _ => credit + spare k start 1 := by
  apply spends_peek
  intro lexeme
  cases lexeme with
  | name id =>
    apply spends_bind (discard_spends next_spends_seen)
    intro _
    exact spends_pure _ (Nat.le_refl _)
  | _ => exact spends_failure

theorem symbol_any (text : String) :
    Spends k Anywhere credit (Parser.symbol text) fun _ => credit := by
  apply spends_look (looks_next_symbol text)
  intro found
  split
  · exact discard_spends next_spends
  · exact spends_failure

theorem keyword_any (word : String) :
    Spends k Anywhere credit (Parser.keyword word) fun _ => credit := by
  apply spends_look (looks_next_keyword word)
  intro found
  split
  · exact discard_spends next_spends
  · exact spends_failure

theorem name_any : Spends k Anywhere credit Parser.name fun _ => credit := by
  apply spends_look looks_peek
  intro lexeme
  cases lexeme with
  | name id => exact spends_bind (discard_spends next_spends) fun _ => spends_pure _ (Nat.le_refl _)
  | _ => exact spends_failure

/-- A symbol that may be there, as the first token. -/
theorem spends_try_symbol_on {text : String} {next : Bool → Parser β}
    (yes : Spends k Anywhere (credit + spare k start 1) (next true) cost)
    (no : Spends k (On start) credit (next false) cost) :
    Spends k (On start) credit (Parser.trySymbol text >>= next) cost := by
  unfold Parser.trySymbol
  rw [bind_assoc]
  apply spends_next_symbol
  · rw [if_pos rfl, bind_assoc]
    exact spends_bind (discard_spends next_spends_seen) fun _ => yes
  · exact no

theorem spends_try_keyword_on {word : String} {next : Bool → Parser β}
    (yes : Spends k Anywhere (credit + spare k start 1) (next true) cost)
    (no : Spends k (On start) credit (next false) cost) :
    Spends k (On start) credit (Parser.tryKeyword word >>= next) cost := by
  unfold Parser.tryKeyword
  rw [bind_assoc]
  apply spends_next_keyword
  · rw [if_pos rfl, bind_assoc]
    exact spends_bind (discard_spends next_spends_seen) fun _ => yes
  · exact no

theorem try_symbol_any (text : String) :
    Spends k Anywhere credit (Parser.trySymbol text) fun _ => credit := by
  apply spends_look (looks_next_symbol text)
  intro found
  split
  · exact spends_bind (discard_spends next_spends) fun _ => spends_pure _ (Nat.le_refl _)
  · exact spends_pure _ (Nat.le_refl _)

theorem try_keyword_any (word : String) :
    Spends k Anywhere credit (Parser.tryKeyword word) fun _ => credit := by
  apply spends_look (looks_next_keyword word)
  intro found
  split
  · exact spends_bind (discard_spends next_spends) fun _ => spends_pure _ (Nat.le_refl _)
  · exact spends_pure _ (Nat.le_refl _)

end Taking

section Repeating

variable {α : Type} {k : Key} {pre : Cursor → Prop} {credit : Nat} {cost : α → Nat}

/-- What each step keeps is kept by all steps together. -/
theorem iterate_for_keeps {P : α → Cursor → Prop} {step : α → Parser α}
    (steps : ∀ value c next after, P value c → step value c = some (next, after) → P next after)
    (fuel : Nat) (value : α) (c : Cursor) (holds : P value c) :
    P (Parser.iterateFor step fuel value c).1 (Parser.iterateFor step fuel value c).2 := by
  induction fuel generalizing value c with
  | zero => exact holds
  | succ fuel ih =>
    unfold Parser.iterateFor
    cases found : step value c with
    | none => exact holds
    | some result => exact ih _ _ (steps value c _ _ holds found)

theorem iterate_keeps {P : α → Cursor → Prop} {step : α → Parser α}
    (steps : ∀ value c next after, P value c → step value c = some (next, after) → P next after)
    (value result : α) (c after : Cursor) (holds : P value c)
    (read : Parser.iterate step value c = some (result, after)) : P result after := by
  have run := iterate_for_keeps steps c.size value c holds
  have same : Parser.iterateFor step c.size value c = (result, after) := Option.some.inj read
  rw [same] at run
  exact run

theorem iterate_spends {step : α → Parser α} (value : α)
    (steps : ∀ value, Spends k Anywhere (cost value) (step value) cost) (le : cost value ≤ credit) :
    Spends k pre credit (Parser.iterate step value) cost := by
  intro c result after _ tame read
  apply iterate_keeps (P := fun value here => here.Tame k ∧
    cost value + room k here.rest ≤ credit + room k c.rest) _ value result c after _ read
  · rintro value here next after ⟨calm, paid⟩ stepped
    obtain ⟨steady, spent⟩ := steps value here next after trivial calm stepped
    exact ⟨steady, Nat.le_trans spent paid⟩
  · exact ⟨tame, Nat.add_le_add_right le _⟩

theorem many_spends {item : Parser α} (reads : Spends k Anywhere 0 item cost) :
    Spends k pre credit (Parser.many item) fun items => credit + total cost items := by
  have step : ∀ items : List α, Spends k Anywhere (credit + total cost items)
      (do return (← item) :: items) fun items => credit + total cost items := by
    intro items
    apply spends_bind (spends_frame _ reads)
    intro value
    apply spends_pure
    simp
    omega
  apply spends_bind (iterate_spends [] step (Nat.le_refl _))
  intro items
  exact spends_pure _ (by simp)

theorem many1_spends {item : Parser α} (reads : Spends k Anywhere 0 item cost) :
    Spends k Anywhere credit (Parser.many1 item) fun items => credit + total cost items := by
  apply spends_bind (spends_frame _ reads)
  intro value
  apply spends_bind (many_spends reads)
  intro items
  apply spends_pure
  simp
  omega

theorem separated_spends {item : Parser α} (mark : String) (reads : Spends k Anywhere 0 item cost) :
    Spends k Anywhere credit (Parser.separated mark item)
      fun items => credit + total cost items := by
  apply spends_bind (spends_frame _ reads)
  intro value
  apply spends_bind (many_spends (spends_then (symbol_any mark) reads))
  intro items
  apply spends_pure
  simp
  omega

end Repeating

section Rules

variable {α β : Type} {k : Key}

/-- A parser whose values pay for themselves, wherever it starts, and where it starts leave some
of the room there. -/
structure Leaves (k : Key) (p : Parser α) (cost : α → Nat) (left : Nat × Nat → α → Nat) : Prop where
  on : ∀ start, Spends k (On start) 0 p fun value => cost value + left start value
  any : Spends k Anywhere 0 p cost

abbrev Reads (k : Key) (bound : Nat) (p : Parser α) (cost : α → Nat) : Prop :=
  Leaves k p cost fun start _ => spare k start bound

variable {bound credit : Nat} {p : Parser α} {cost : α → Nat} {left : Nat × Nat → α → Nat}

theorem leaves_position {next : Nat × Nat → Parser α}
    (there : ∀ start,
      Spends k (On start) 0 (next start) fun value => cost value + left start value) :
    Leaves k (Parser.position >>= next) cost left := by
  constructor
  · intro start c value after fits tame read
    obtain ⟨found, between, first, second⟩ := bind_read read
    obtain ⟨rest, endLine, size⟩ := c
    obtain ⟨t, others, standing, here⟩ := fits
    cases standing
    cases first
    exact there start _ value after ⟨t, others, rfl, here⟩ tame (here ▸ second)
  · apply spends_position
    intro start
    exact spends_weaken (there start) (Nat.le_refl _) fun value => Nat.le_add_right _ _

theorem reads_look {q : Parser β} {next : β → Parser α} (looks : Looks q)
    (there : ∀ value, Reads k bound (next value) cost) : Reads k bound (q >>= next) cost := by
  constructor
  · intro start
    exact spends_look looks fun value => (there value).on start
  · exact spends_look looks fun value => (there value).any

theorem reads_lower {low : Nat} (reads : Reads k low p cost) (le : low ≤ bound) :
    Reads k bound p cost := by
  constructor
  · intro start
    have less := spare_mono k start low bound le
    exact spends_weaken (reads.on start) (Nat.le_refl _) fun value => Nat.add_le_add_left less _
  · exact reads.any

theorem reads_any (reads : Reads k bound p cost) :
    Spends k Anywhere credit p fun value => credit + cost value := spends_frame credit reads.any

end Rules

end RefactorAdvice.Code
