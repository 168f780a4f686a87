import Mathlib.Data.List.TakeWhile
import RefactorAdvice.Proofs.SettingNotations
import RefactorAdvice.Suppression

/-!
Which directive of a line counts, and for which rules. The leftmost `# noqa` counts, and the
leftmost `# pyrefactor: ignore` where there is no `# noqa` at all; any other directive of the line
is passed over. A `# noqa` speaks for the codes between its colon and the next blank or `#`, so a
list with a blank behind a comma is cut short there.
-/

namespace RefactorAdvice.Suppression

open Text

section Scanning

variable {β : Type}

def firstOf (find : List Char → Option β) : List Char → Option β
  | [] => find []
  | c :: rest =>
    match find (c :: rest) with
    | some found => some found
    | none => firstOf find rest

/-- Of all the ends of a line that are as said, the longest: the leftmost place. -/
def First (At : List Char → β → Prop) (line : List Char) (found : β) : Prop :=
  ∃ here, here <:+ line ∧ At here found ∧
    ∀ other value, other <:+ line → At other value → other.length ≤ here.length

def Somewhere (At : List Char → β → Prop) (line : List Char) : Prop :=
  ∃ here found, here <:+ line ∧ At here found

variable {find : List Char → Option β} {At : List Char → β → Prop}
  (spec : ∀ cs found, find cs = some found ↔ At cs found)

include spec

theorem first_of_none_iff (line : List Char) : firstOf find line = none ↔ ¬ Somewhere At line := by
  have absent : ∀ cs, find cs = none ↔ ∀ found, ¬ At cs found := fun cs => by
    simp only [← spec, Option.eq_none_iff_forall_ne_some, ne_eq]
  induction line with
  | nil => simp [firstOf, absent, Somewhere]
  | cons c rest ih =>
    unfold firstOf
    split
    · rename_i found here
      have some_ : Somewhere At (c :: rest) :=
        ⟨_, found, List.suffix_refl _, (spec _ _).mp here⟩
      simp [some_]
    · rename_i here
      refine ih.trans (not_congr ?_)
      constructor
      · rintro ⟨other, found, inside, told⟩
        exact ⟨other, found, List.suffix_cons_iff.mpr (Or.inr inside), told⟩
      · rintro ⟨other, found, inside, told⟩
        rcases List.suffix_cons_iff.mp inside with rfl | inside
        · exact absurd told ((absent _).mp here found)
        · exact ⟨other, found, inside, told⟩

theorem first_of_some_iff (line : List Char) (found : β) :
    firstOf find line = some found ↔ First At line found := by
  induction line with
  | nil =>
    unfold firstOf
    rw [spec]
    constructor
    · exact fun told => ⟨[], List.suffix_refl _, told, fun other _ inside _ => inside.length_le⟩
    · rintro ⟨first, inside, told, _⟩
      rwa [List.suffix_nil.mp inside] at told
  | cons c rest ih =>
    unfold firstOf
    split
    · rename_i value here
      have own : At (c :: rest) value := (spec _ _).mp here
      constructor
      · rintro ⟨⟩
        exact ⟨_, List.suffix_refl _, own, fun other _ inside _ => inside.length_le⟩
      · rintro ⟨first, inside, told, longest⟩
        rw [inside.eq_of_length_le (longest _ value (List.suffix_refl _) own), ← spec] at told
        exact here.symm.trans told
    · rename_i here
      have none : ∀ value, ¬ At (c :: rest) value := fun value told => by
        cases here.symm.trans ((spec _ _).mpr told)
      refine ih.trans ?_
      constructor
      · rintro ⟨first, inside, told, longest⟩
        refine ⟨first, List.suffix_cons_iff.mpr (Or.inr inside), told, ?_⟩
        intro other value part
        rcases List.suffix_cons_iff.mp part with rfl | part
        · exact fun told => absurd told (none value)
        · exact longest other value part
      · rintro ⟨first, inside, told, longest⟩
        rcases List.suffix_cons_iff.mp inside with rfl | inside
        · exact absurd told (none found)
        · exact ⟨first, inside, told, fun other value part =>
            longest other value (List.suffix_cons_iff.mpr (Or.inr part))⟩

end Scanning

section Marks

def Gap (cs : List Char) : Prop := ∀ c ∈ cs, isBlank c = true

instance (cs : List Char) : Decidable (Gap cs) :=
  decidable_of_iff (cs.all isBlank = true) List.all_eq_true

def NoqaAt (cs rest : List Char) : Prop :=
  ∃ gap word, cs = '#' :: (gap ++ word ++ rest) ∧ Gap gap ∧ word.map Char.toLower = noqaWord

def IgnoreAt (cs rest : List Char) : Prop := cs = ignoreMarker ++ rest

def noqaMark? : List Char → Option (List Char)
  | '#' :: rest => afterNoqa? (stripLeft rest)
  | _ => none

theorem lower_n_solid (c : Char) (small : c.toLower = 'n') : isBlank c = false := by
  unfold Char.toLower at small
  split at small
  · rename_i capital
    have above : 65 ≤ c.toNat := UInt32.le_iff_toNat_le.mp capital.1
    have below : c.toNat ≤ 90 := UInt32.le_iff_toNat_le.mp capital.2
    simp only [isBlank, Bool.or_eq_false_iff, Bool.and_eq_false_iff, decide_eq_false_iff_not,
      beq_eq_false_iff_ne]
    omega
  · subst small
    rfl

theorem strip_left_solid {gap : List Char} {c : Char} (rest : List Char)
    (blank : Gap gap) (solid : isBlank c = false) :
    stripLeft (gap ++ c :: rest) = c :: rest := by
  rw [stripLeft, List.dropWhile_append_of_pos blank, List.dropWhile_cons_of_neg (by simp [solid])]

theorem after_noqa_iff (cs rest : List Char) :
    afterNoqa? (stripLeft cs) = some rest ↔
      ∃ gap word, cs = gap ++ word ++ rest ∧ Gap gap ∧ word.map Char.toLower = noqaWord := by
  constructor
  · intro found
    unfold afterNoqa? at found
    split at found
    · rename_i spelled
      cases found
      refine ⟨cs.takeWhile isBlank, (stripLeft cs).take 4, ?_, ?_, eq_of_beq spelled⟩
      · rw [List.append_assoc, List.take_append_drop]
        exact (List.takeWhile_append_dropWhile).symm
      · exact fun c member => List.mem_takeWhile_imp member
    · cases found
  · rintro ⟨gap, word, rfl, blank, spelled⟩
    cases word with
    | nil => cases spelled
    | cons first others =>
      have solid : isBlank first = false := lower_n_solid first (List.cons.inj spelled).1
      have four : (first :: others).length = 4 := by
        simpa [noqaWord] using congrArg List.length spelled
      rw [List.append_assoc, List.cons_append, strip_left_solid _ blank solid, ← List.cons_append,
        afterNoqa?, List.take_left' four, List.drop_left' four, if_pos (beq_iff_eq.mpr spelled)]

theorem noqa_mark_iff (cs rest : List Char) : noqaMark? cs = some rest ↔ NoqaAt cs rest := by
  unfold noqaMark? NoqaAt
  split
  · rename_i tail
    rw [after_noqa_iff]
    simp
  · rename_i other
    simp only [reduceCtorEq, false_iff]
    rintro ⟨gap, word, same, _⟩
    exact other _ same

theorem noqa_eq (line : List Char) : noqa? line = (firstOf noqaMark? line).map noqaScope := by
  induction line with
  | nil => rfl
  | cons c rest ih =>
    by_cases hash : c = '#'
    · subst hash
      unfold noqa? firstOf noqaMark?
      simp only [beq_self_eq_true, ↓reduceIte]
      cases afterNoqa? (stripLeft rest) with
      | none => exact ih
      | some tail => rfl
    · have unmarked : noqaMark? (c :: rest) = none := by
        unfold noqaMark?
        split
        · rename_i same
          exact absurd (List.cons.inj same).1 hash
        · rfl
      rw [noqa?, if_neg (by simpa using hash), firstOf, unmarked]
      exact ih

theorem after_first_eq (needle line : List Char) :
    afterFirst needle line =
      firstOf (fun cs => if needle.isPrefixOf cs then some (cs.drop needle.length) else none)
        line := by
  induction line with
  | nil =>
    cases needle <;> rfl
  | cons c rest ih =>
    unfold afterFirst firstOf
    split <;> simp_all

theorem prefix_iff (needle cs rest : List Char) :
    (if needle.isPrefixOf cs then some (cs.drop needle.length) else none) = some rest ↔
      cs = needle ++ rest := by
  constructor
  · intro found
    split at found
    · rename_i leads
      obtain ⟨tail, rfl⟩ := List.isPrefixOf_iff_prefix.mp leads
      simpa using found
    · cases found
  · rintro rfl
    simp

end Marks

section Lists

variable (cut : Char → Bool)

def Heads (item text : List Char) : Prop :=
  ∃ right, text = item ++ right ∧ (∀ c ∈ item, cut c = false) ∧ ∀ c ∈ right.head?, cut c = true

def Piece (item text : List Char) : Prop :=
  Heads cut item text ∨
    ∃ left c right, text = left ++ c :: right ∧ cut c = true ∧ Heads cut item right

def Covers (text code : List Char) : Prop :=
  (∀ c ∈ text, cut c = true) ∨ ∃ item, item ≠ [] ∧ Piece cut item text ∧ upper item = upper code

variable {cut}

theorem heads_nil (item : List Char) : Heads cut item [] ↔ item = [] := by
  constructor
  · rintro ⟨right, same, _⟩
    exact (List.append_eq_nil_iff.mp same.symm).1
  · rintro rfl
    exact ⟨[], rfl, by simp, by simp⟩

theorem heads_cut {d : Char} (cuts : cut d = true) (item rest : List Char) :
    Heads cut item (d :: rest) ↔ item = [] := by
  constructor
  · rintro ⟨right, same, uncut, _⟩
    cases item with
    | nil => rfl
    | cons c more =>
      cases same
      cases cuts.symm.trans (uncut d List.mem_cons_self)
  · rintro rfl
    exact ⟨d :: rest, rfl, by simp, by simp [cuts]⟩

theorem heads_uncut {d : Char} (whole : cut d = false) (item rest : List Char) :
    Heads cut item (d :: rest) ↔ ∃ more, item = d :: more ∧ Heads cut more rest := by
  constructor
  · rintro ⟨right, same, uncut, ends⟩
    cases item with
    | nil =>
      cases same
      cases whole.symm.trans (ends d rfl)
    | cons c more =>
      cases same
      exact ⟨more, rfl, right, rfl, fun c member => uncut c (List.mem_cons_of_mem d member), ends⟩
  · rintro ⟨more, rfl, right, rfl, uncut, ends⟩
    exact ⟨right, rfl, List.forall_mem_cons.mpr ⟨whole, uncut⟩, ends⟩

theorem behind_cons (Q : Char → List Char → Prop) (d : Char) (rest : List Char) :
    (∃ left c right, d :: rest = left ++ c :: right ∧ Q c right) ↔
      Q d rest ∨ ∃ left c right, rest = left ++ c :: right ∧ Q c right := by
  constructor
  · rintro ⟨left, c, right, same, holds⟩
    cases left with
    | nil =>
      cases same
      exact Or.inl holds
    | cons first left =>
      cases same
      exact Or.inr ⟨left, c, right, rfl, holds⟩
  · rintro (holds | ⟨left, c, right, rfl, holds⟩)
    · exact ⟨[], d, rest, rfl, holds⟩
    · exact ⟨d :: left, c, right, rfl, holds⟩

-- By induction on the text: the item that is open has been read backwards.
theorem mem_items_iff (item text opened : List Char) :
    item ∈ listed.items cut opened text ↔
      (∃ more, item = opened.reverse ++ more ∧ Heads cut more text) ∨
        ∃ left c right, text = left ++ c :: right ∧ cut c = true ∧ Heads cut item right := by
  induction text generalizing opened with
  | nil => simp [listed.items, heads_nil]
  | cons d rest ih =>
    rw [listed.items, behind_cons fun c right => cut c = true ∧ Heads cut item right]
    by_cases cuts : cut d = true
    · simp [cuts, heads_cut cuts, ih]
    · have whole : cut d = false := by simpa using cuts
      have shift : (∃ more, item = opened.reverse ++ more ∧ Heads cut more (d :: rest)) ↔
          ∃ more, item = opened.reverse ++ d :: more ∧ Heads cut more rest := by
        simp only [heads_uncut whole]
        constructor
        · rintro ⟨_, same, more, rfl, heads⟩
          exact ⟨more, same, heads⟩
        · rintro ⟨more, same, heads⟩
          exact ⟨d :: more, same, more, rfl, heads⟩
      simp [whole, shift, ih]

theorem mem_pieces_iff (item text : List Char) :
    item ∈ listed.items cut [] text ↔ Piece cut item text := by
  simp [mem_items_iff, Piece]

theorem items_hold (c : Char) (text opened : List Char)
    (inside : c ∈ opened ∨ c ∈ text ∧ cut c = false) :
    ∃ item ∈ listed.items cut opened text, c ∈ item := by
  induction text generalizing opened with
  | nil => simpa [listed.items] using inside
  | cons d rest ih =>
    rw [listed.items]
    by_cases cuts : cut d = true
    · rw [if_pos cuts]
      rcases inside with early | ⟨late, whole⟩
      · exact ⟨_, List.mem_cons_self, List.mem_reverse.mpr early⟩
      · rcases List.mem_cons.mp late with rfl | late
        · cases cuts.symm.trans whole
        · obtain ⟨item, listed, holds⟩ := ih [] (Or.inr ⟨late, whole⟩)
          exact ⟨item, List.mem_cons_of_mem _ listed, holds⟩
    · rw [if_neg cuts]
      apply ih
      rcases inside with early | ⟨late, whole⟩
      · exact Or.inl (List.mem_cons_of_mem d early)
      · rcases List.mem_cons.mp late with rfl | late
        · exact Or.inl List.mem_cons_self
        · exact Or.inr ⟨late, whole⟩

theorem piece_uncut {item text : List Char} (piece : Piece cut item text) :
    ∀ c ∈ item, c ∈ text ∧ cut c = false := by
  intro c member
  rcases piece with ⟨right, rfl, uncut, _⟩ | ⟨left, d, _, rfl, _, right, rfl, uncut, _⟩
  · exact ⟨List.mem_append_left _ member, uncut c member⟩
  · exact ⟨by simp [member], uncut c member⟩

section Codes

variable {text : List Char} (solid : ∀ c ∈ text, cut c = false → isBlank c = false)

include solid

theorem mem_listed_iff (code : List Char) :
    code ∈ listed cut text ↔ ∃ item, item ≠ [] ∧ Piece cut item text ∧ upper item = code := by
  have kept : ∀ item, Piece cut item text → strip item = item := fun item piece =>
    Settings.strip_solid item fun c member =>
      solid c (piece_uncut piece c member).1 (piece_uncut piece c member).2
  simp only [listed, List.mem_filterMap, mem_pieces_iff]
  constructor
  · rintro ⟨item, piece, told⟩
    rw [kept item piece] at told
    by_cases empty : item = []
    · simp [empty] at told
    · refine ⟨item, empty, piece, ?_⟩
      simpa [empty] using told
  · rintro ⟨item, some_, piece, rfl⟩
    exact ⟨item, piece, by simp [kept item piece, some_]⟩

theorem listed_nil_iff : listed cut text = [] ↔ ∀ c ∈ text, cut c = true := by
  rw [List.eq_nil_iff_forall_not_mem]
  constructor
  · intro none c member
    by_contra uncut
    obtain ⟨item, piece, holds⟩ := items_hold c text [] (Or.inr ⟨member, by simpa using uncut⟩)
    refine none _ ((mem_listed_iff solid _).mpr ⟨item, ?_, (mem_pieces_iff _ _).mp piece, rfl⟩)
    exact List.ne_nil_of_mem holds
  · intro cuts code told
    obtain ⟨item, some_, piece, _⟩ := (mem_listed_iff solid code).mp told
    obtain ⟨c, member⟩ := List.exists_mem_of_ne_nil item some_
    obtain ⟨inside, uncut⟩ := piece_uncut piece c member
    cases uncut.symm.trans (cuts c inside)

/-- An empty list stands for every rule, as one that names none does. -/
theorem scope_covers_iff (rule : String) :
    (if text.isEmpty then Scope.everything else .ofList (listed cut text)).covers (some rule) =
      true ↔ Covers cut text rule.toList := by
  by_cases empty : text = []
  · subst empty
    exact iff_of_true rfl (Or.inl (by simp))
  rw [if_neg (by simpa using empty)]
  unfold Scope.ofList Covers
  by_cases none : listed cut text = []
  · rw [if_pos (List.isEmpty_iff.mpr none)]
    exact iff_of_true rfl (Or.inl ((listed_nil_iff solid).mp none))
  · have named := mem_listed_iff solid (upper rule.toList)
    have more : ¬ ∀ c ∈ text, cut c = true := fun cuts => none ((listed_nil_iff solid).mpr cuts)
    rw [if_neg (by simpa using none)]
    simp only [Scope.covers, List.contains_iff_mem, named, more, false_or]

end Codes

theorem piece_behind {item right : List Char} {c : Char} (left : List Char) (cuts : cut c = true)
    (piece : Piece cut item right) : Piece cut item (left ++ c :: right) := by
  rcases piece with heads | ⟨before, d, after, rfl, again, heads⟩
  · exact Or.inr ⟨left, c, right, rfl, cuts, heads⟩
  · exact Or.inr ⟨left ++ c :: before, d, after, by simp, again, heads⟩

theorem joined_cons (first second : List Char) (rest : List (List Char)) :
    [','].intercalate (first :: second :: rest) =
      first ++ ',' :: [','].intercalate (second :: rest) := by
  simp [List.intercalate]

theorem mem_joined {codes : List (List Char)} {c : Char} (member : c ∈ [','].intercalate codes) :
    c = ',' ∨ ∃ code ∈ codes, c ∈ code := by
  induction codes with
  | nil => cases member
  | cons first rest ih =>
    cases rest with
    | nil => exact Or.inr ⟨first, List.mem_cons_self, by simpa [List.intercalate] using member⟩
    | cons second rest =>
      rw [joined_cons, List.mem_append, List.mem_cons] at member
      rcases member with here | comma | later
      · exact Or.inr ⟨first, List.mem_cons_self, here⟩
      · exact Or.inl comma
      · rcases ih later with comma | ⟨code, inside, here⟩
        · exact Or.inl comma
        · exact Or.inr ⟨code, List.mem_cons_of_mem first inside, here⟩

theorem piece_joined (commas : cut ',' = true) {codes : List (List Char)}
    (uncut : ∀ code ∈ codes, ∀ c ∈ code, cut c = false) {code : List Char} (member : code ∈ codes) :
    Piece cut code ([','].intercalate codes) := by
  induction codes with
  | nil => cases member
  | cons first rest ih =>
    have whole := uncut first List.mem_cons_self
    have later := ih fun other inside => uncut other (List.mem_cons_of_mem first inside)
    cases rest with
    | nil =>
      cases List.mem_singleton.mp member
      exact Or.inl ⟨[], by simp [List.intercalate], whole, by simp⟩
    | cons second rest =>
      rw [joined_cons]
      rcases List.mem_cons.mp member with rfl | inside
      · exact Or.inl ⟨_, rfl, whole, by simp [commas]⟩
      · exact piece_behind first commas (later inside)

end Lists

section Counting

def isNoqaCut (c : Char) : Bool := c == ',' || c == ';' || isBlank c

def isIgnoreCut (c : Char) : Bool := c == ',' || isBlank c

def IsCode (cs : List Char) : Prop := cs ≠ [] ∧ ∀ c ∈ cs, isNoqaCut c = false ∧ c ≠ '#'

instance (cs : List Char) : Decidable (IsCode cs) :=
  decidable_of_iff (cs ≠ [] ∧ cs.all (fun c => !isNoqaCut c && c != '#') = true) (by simp [IsCode])

def Ends (cs : List Char) : Prop := ∀ c ∈ cs.head?, c = '#' ∨ isBlank c = true

instance (cs : List Char) : Decidable (Ends cs) :=
  decidable_of_iff (cs.head?.all (fun c => c == '#' || isBlank c) = true)
    (by cases cs <;> simp [Ends])

/-- A `# noqa` speaks for a code by what follows it: for every one without a colon, else for those
of the run behind the colon, which ends at a blank or a `#`. -/
def NoqaCovers (rest code : List Char) : Prop :=
  rest.head? ≠ some ':' ∨ ∃ gap run tail, rest = ':' :: (gap ++ run ++ tail) ∧ Gap gap ∧
    (∀ c ∈ run, isBlank c = false ∧ c ≠ '#') ∧
    (∀ c ∈ tail.head?, c = '#' ∨ isBlank c = true ∧ run ≠ []) ∧ Covers isNoqaCut run code

def codeRun (cs : List Char) : List Char := (stripLeft cs).takeWhile fun c => !isBlank c && c != '#'

theorem code_run_solid (cs : List Char) : ∀ c ∈ codeRun cs, isBlank c = false ∧ c ≠ '#' := by
  intro c member
  simpa using List.mem_takeWhile_imp member

theorem dropped_head {p : Char → Bool} {cs : List Char} {c : Char}
    (head : c ∈ (cs.dropWhile p).head?) : p c = false := by
  have fails := List.head?_dropWhile_not p cs
  rw [Option.mem_def.mp head] at fails
  exact fails

theorem code_run_split (cs : List Char) :
    ∃ gap tail, cs = gap ++ codeRun cs ++ tail ∧ Gap gap ∧
      ∀ c ∈ tail.head?, c = '#' ∨ isBlank c = true ∧ codeRun cs ≠ [] := by
  refine ⟨cs.takeWhile isBlank, (stripLeft cs).dropWhile fun c => !isBlank c && c != '#', ?_,
    fun c member => List.mem_takeWhile_imp member, fun c head => ?_⟩
  · rw [codeRun, List.append_assoc, List.takeWhile_append_dropWhile, stripLeft,
      List.takeWhile_append_dropWhile]
  · by_cases hash : c = '#'
    · exact Or.inl hash
    · have blank : isBlank c = true := by simpa [hash] using dropped_head head
      refine Or.inr ⟨blank, fun none => ?_⟩
      have whole : codeRun cs ++ (stripLeft cs).dropWhile (fun c => !isBlank c && c != '#') =
          stripLeft cs := List.takeWhile_append_dropWhile
      rw [none, List.nil_append] at whole
      rw [whole] at head
      cases blank.symm.trans (dropped_head head)

theorem code_run_eq {gap run tail : List Char} (blank : Gap gap)
    (solid : ∀ c ∈ run, isBlank c = false ∧ c ≠ '#')
    (ends : ∀ c ∈ tail.head?, c = '#' ∨ isBlank c = true ∧ run ≠ []) :
    codeRun (gap ++ run ++ tail) = run := by
  have kept : stripLeft (run ++ tail) = run ++ tail := by
    cases run with
    | cons c more => exact List.dropWhile_cons_of_neg (by simp [solid c])
    | nil =>
      cases tail with
      | nil => rfl
      | cons c more =>
        have hash : c = '#' := by simpa using ends c rfl
        subst hash
        rfl
  have stops : tail.takeWhile (fun c => !isBlank c && c != '#') = [] := by
    cases tail with
    | nil => rfl
    | cons c more =>
      apply List.takeWhile_cons_of_neg
      rcases ends c rfl with rfl | ⟨space, _⟩
      · decide
      · simp [space]
  rw [codeRun, List.append_assoc, stripLeft, List.dropWhile_append_of_pos blank]
  change (stripLeft (run ++ tail)).takeWhile _ = run
  rw [kept, List.takeWhile_append_of_pos (by simpa using solid), stops, List.append_nil]

theorem noqa_scope_iff (rest : List Char) (rule : String) :
    (noqaScope rest).covers (some rule) = true ↔ NoqaCovers rest rule.toList := by
  have colon : ∀ cs, (noqaScope (':' :: cs)).covers (some rule) = true ↔
      Covers isNoqaCut (codeRun cs) rule.toList := fun cs =>
    scope_covers_iff (fun c member _ => (code_run_solid cs c member).1) rule
  constructor
  · intro covers
    by_cases bare : rest.head? = some ':'
    · obtain ⟨cs, rfl⟩ := List.head?_eq_some_iff.mp bare
      obtain ⟨gap, tail, split, blank, ends⟩ := code_run_split cs
      exact Or.inr ⟨gap, codeRun cs, tail, congrArg _ split, blank, code_run_solid cs, ends,
        (colon cs).mp covers⟩
    · exact Or.inl bare
  · rintro (bare | ⟨gap, run, tail, rfl, blank, solid, ends, covers⟩)
    · unfold noqaScope
      split
      · exact absurd rfl bare
      · rfl
    · rw [colon, code_run_eq blank solid ends]
      exact covers

theorem ignore_first_iff (line rest : List Char) :
    afterFirst ignoreMarker line = some rest ↔ First IgnoreAt line rest := by
  rw [after_first_eq]
  exact first_of_some_iff (prefix_iff ignoreMarker) line rest

def ignoreScope (rest : List Char) : Scope :=
  if (strip rest).isEmpty then .everything else .ofList (listed isIgnoreCut (strip rest))

theorem ignore_covers_iff (rest : List Char) (rule : String) :
    (ignoreScope rest).covers (some rule) = true ↔ Covers isIgnoreCut (strip rest) rule.toList :=
  scope_covers_iff (fun _ _ uncut => (Bool.or_eq_false_iff.mp uncut).2) rule

theorem ignore_eq (line : List Char) :
    ignore? line = (afterFirst ignoreMarker line).map ignoreScope := rfl

theorem suppresses_by_first (line rule : String) :
    lineSuppresses line (some rule) = true ↔
      (∃ rest, First NoqaAt line.toList rest ∧ NoqaCovers rest rule.toList) ∨
        (¬ Somewhere NoqaAt line.toList ∧ ∃ rest, First IgnoreAt line.toList rest ∧
          Covers isIgnoreCut (strip rest) rule.toList) := by
  have marked := first_of_some_iff noqa_mark_iff line.toList
  have unmarked := first_of_none_iff noqa_mark_iff line.toList
  unfold lineSuppresses directive?
  rw [noqa_eq, ignore_eq]
  simp only [← marked, ← unmarked, ← ignore_first_iff, ← noqa_scope_iff, ← ignore_covers_iff]
  cases firstOf noqaMark? line.toList with
  | some rest => simp
  | none => cases afterFirst ignoreMarker line.toList <;> simp

/--
A rule is silenced on a line exactly if the leftmost `# noqa` speaks for it, or, where there is no
`# noqa`, the leftmost `# pyrefactor: ignore` does. So the leftmost `# noqa` silences each code of
its list, in any letter case, if the list has no blanks behind its commas.
-/
theorem line_suppresses_iff (line rule : String) :
    (lineSuppresses line (some rule) = true ↔
      (∃ rest, First NoqaAt line.toList rest ∧ NoqaCovers rest rule.toList) ∨
        (¬ Somewhere NoqaAt line.toList ∧ ∃ rest, First IgnoreAt line.toList rest ∧
          Covers isIgnoreCut (strip rest) rule.toList)) ∧
    ∀ gap codes tail, First NoqaAt line.toList (':' :: (gap ++ [','].intercalate codes ++ tail)) →
      Gap gap → (∀ code ∈ codes, IsCode code) → Ends tail →
      (∃ code ∈ codes, upper code = upper rule.toList) →
      lineSuppresses line (some rule) = true := by
  refine ⟨suppresses_by_first line rule,
    fun gap codes tail first blank solid ends ⟨code, member, same⟩ => ?_⟩
  have piece : Piece isNoqaCut code ([','].intercalate codes) :=
    piece_joined rfl (fun code inside c here => ((solid code inside).2 c here).1) member
  have more : [','].intercalate codes ≠ [] := by
    obtain ⟨c, here⟩ := List.exists_mem_of_ne_nil code (solid code member).1
    exact List.ne_nil_of_mem (piece_uncut piece c here).1
  have run : ∀ c ∈ [','].intercalate codes, isBlank c = false ∧ c ≠ '#' := by
    intro c inside
    rcases mem_joined inside with rfl | ⟨code, listed, here⟩
    · decide
    · obtain ⟨uncut, other⟩ := (solid code listed).2 c here
      exact ⟨(Bool.or_eq_false_iff.mp uncut).2, other⟩
  rw [suppresses_by_first]
  refine Or.inl ⟨_, first, Or.inr ⟨gap, _, tail, rfl, blank, run, ?_, Or.inr ⟨code, ?_, ?_, same⟩⟩⟩
  · exact fun c head => (ends c head).imp_right fun space => ⟨space, more⟩
  · exact (solid code member).1
  · exact piece

theorem line_suppresses_iff_small :
    lineSuppresses "x = 1  # NoQA: c001,p001  # both" (some "P001") = true := by
  have first : First NoqaAt "x = 1  # NoQA: c001,p001  # both".toList
      (':' :: (" ".toList ++ [','].intercalate ["c001".toList, "p001".toList] ++
        "  # both".toList)) := (first_of_some_iff noqa_mark_iff _ _).mp (by decide)
  refine (line_suppresses_iff _ "P001").2 _ _ _ first (by decide) (by decide +kernel)
    (by decide) ⟨"p001".toList, by decide +kernel, by decide +kernel⟩

/-- A directive somewhere on the line that asks for a rule to be silenced: a `# noqa` without a
list or with one that names the rule, where blanks may stand before each code, or a
`# pyrefactor: ignore` with nothing behind it or with a list that names the rule. -/
def Addressed (line code : List Char) : Prop :=
  (∃ here rest, here <:+ line ∧ NoqaAt here rest ∧
    (rest.head? ≠ some ':' ∨ ∃ items : List (List Char × List Char), ∃ tail,
      rest = ':' :: ([','].intercalate (items.map fun item => item.1 ++ item.2) ++ tail) ∧
        (∀ item ∈ items, Gap item.1 ∧ IsCode item.2) ∧ Ends tail ∧
        ∃ item ∈ items, upper item.2 = upper code)) ∨
    ∃ here rest, here <:+ line ∧ IgnoreAt here rest ∧ Covers isIgnoreCut (strip rest) code

/-- Directives that are passed over: a code behind a blank in a list, a second `# noqa`, a
`# pyrefactor: ignore` behind a `# noqa`, and a second `# pyrefactor: ignore`. -/
theorem addressed_unsuppressed :
    (Addressed "x = 1  # noqa: R001, R002".toList "R002".toList ∧
      lineSuppresses "x = 1  # noqa: R001, R002" (some "R002") = false) ∧
    (Addressed "x = 1  # noqa: R001  # noqa: R002".toList "R002".toList ∧
      lineSuppresses "x = 1  # noqa: R001  # noqa: R002" (some "R002") = false) ∧
    (Addressed "x = 1  # noqa: R001  # pyrefactor: ignore R002".toList "R002".toList ∧
      lineSuppresses "x = 1  # noqa: R001  # pyrefactor: ignore R002" (some "R002") = false) ∧
    (Addressed "x = 1  # pyrefactor: ignore R001  # pyrefactor: ignore".toList "R002".toList ∧
      lineSuppresses "x = 1  # pyrefactor: ignore R001  # pyrefactor: ignore" (some "R002") =
        false) := by
  have blank : Addressed "x = 1  # noqa: R001, R002".toList "R002".toList :=
    Or.inl ⟨"# noqa: R001, R002".toList, ": R001, R002".toList, ⟨"x = 1  ".toList, rfl⟩,
      (noqa_mark_iff _ _).mp (by decide),
      Or.inr ⟨[([' '], "R001".toList), ([' '], "R002".toList)], [], by decide⟩⟩
  have second : Addressed "x = 1  # noqa: R001  # noqa: R002".toList "R002".toList :=
    Or.inl ⟨"# noqa: R002".toList, ": R002".toList, ⟨"x = 1  # noqa: R001  ".toList, rfl⟩,
      (noqa_mark_iff _ _).mp (by decide),
      Or.inr ⟨[([' '], "R002".toList)], [], by decide⟩⟩
  have other : Addressed "x = 1  # noqa: R001  # pyrefactor: ignore R002".toList "R002".toList :=
    Or.inr ⟨"# pyrefactor: ignore R002".toList, " R002".toList,
      ⟨"x = 1  # noqa: R001  ".toList, rfl⟩, rfl,
      (ignore_covers_iff " R002".toList "R002").mp (by decide)⟩
  have again : Addressed "x = 1  # pyrefactor: ignore R001  # pyrefactor: ignore".toList
      "R002".toList :=
    Or.inr ⟨"# pyrefactor: ignore".toList, [],
      ⟨"x = 1  # pyrefactor: ignore R001  ".toList, rfl⟩, rfl,
      (ignore_covers_iff [] "R002").mp (by decide)⟩
  exact ⟨⟨blank, by decide⟩, ⟨second, by decide +kernel⟩, ⟨other, by decide +kernel⟩,
    ⟨again, by decide⟩⟩

end Counting

end RefactorAdvice.Suppression
