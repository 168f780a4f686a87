import RefactorAdvice.Proofs.DuplicateBlocks
import RefactorAdvice.Proofs.Publishing
import RefactorAdvice.Proofs.ValidSettings

/-!
What a search for duplicates reports. The pass over the groups is one greedy choice from a list
of candidates, a later block of a group beside its first. Reports are sound: their ranges are
apart from each other, and each repeats an earlier block word for word. Reports are maximal: a
block that repeats another is left out only if it overlaps that one or a report, or is silenced.
-/

namespace RefactorAdvice.Rules.Duplication

open Code

section Choice

/-- The first block of each group beside each later one, in the order they are looked at. -/
def candidates (groups : List (List Block)) : List (Block × Block) :=
  groups.flatMap fun
    | [] => []
    | origin :: later => later.map (origin, ·)

def chosen (threshold : Binary64) (l : Listing) :
    List (Int × Int) → List (Block × Block) → List (Block × Block)
  | _, [] => []
  | taken, pair :: rest =>
    if reports threshold l pair.1 pair.2 taken then
      pair :: chosen threshold l ((↑pair.2.first, pair.2.last) :: taken) rest
    else chosen threshold l taken rest

variable (threshold : Binary64) (l : Listing)

theorem reports_iff (origin b : Block) (taken : List (Int × Int)) :
    reports threshold l origin b taken = true ↔
      silenced l b.first = false ∧ (∀ range ∈ taken, Apart b.first b.last range.1 range.2) ∧
        Apart b.first b.last origin.first origin.last ∧
        threshold.lessEq (similarity origin.normal b.normal) = true := by
  simp only [reports, Bool.and_eq_true, Bool.not_eq_true', overlaps_any_false_iff,
    overlap_false_iff, and_assoc]

theorem chosen_reported (taken : List (Int × Int)) (pairs : List (Block × Block))
    (pair : Block × Block) (member : pair ∈ chosen threshold l taken pairs) :
    pair ∈ pairs ∧ silenced l pair.2.first = false ∧
      Apart pair.2.first pair.2.last pair.1.first pair.1.last := by
  induction pairs generalizing taken with
  | nil => cases member
  | cons head rest ih =>
    by_cases admitted : reports threshold l head.1 head.2 taken = true
    · simp only [chosen, admitted, ↓reduceIte, List.mem_cons] at member
      rcases member with rfl | later
      · obtain ⟨heard, _, separate, _⟩ := (reports_iff threshold l _ _ _).mp admitted
        exact ⟨List.mem_cons_self, heard, separate⟩
      · obtain ⟨inside, rest⟩ := ih _ later
        exact ⟨List.mem_cons_of_mem head inside, rest⟩
    · simp only [chosen, admitted, Bool.false_eq_true, ↓reduceIte] at member
      obtain ⟨inside, rest⟩ := ih _ member
      exact ⟨List.mem_cons_of_mem head inside, rest⟩

-- Every range chosen later is tested against those taken before, so both halves go together.
theorem chosen_apart (taken : List (Int × Int)) (pairs : List (Block × Block)) :
    (∀ pair ∈ chosen threshold l taken pairs, ∀ range ∈ taken,
      Apart pair.2.first pair.2.last range.1 range.2) ∧
    (chosen threshold l taken pairs).Pairwise fun a b =>
      Apart a.2.first a.2.last b.2.first b.2.last := by
  induction pairs generalizing taken with
  | nil => simp [chosen]
  | cons head rest ih =>
    by_cases admitted : reports threshold l head.1 head.2 taken = true
    · obtain ⟨_, free, _⟩ := (reports_iff threshold l _ _ _).mp admitted
      obtain ⟨clear, separate⟩ := ih ((↑head.2.first, head.2.last) :: taken)
      simp only [chosen, admitted, ↓reduceIte, List.pairwise_cons, List.mem_cons]
      refine ⟨?_, ?_, separate⟩
      · rintro pair (rfl | later) range earlier
        · exact free range earlier
        · exact clear pair later range (List.mem_cons_of_mem _ earlier)
      · intro pair later
        exact (apart_comm _ _ _ _).mp (clear pair later _ List.mem_cons_self)
    · simpa only [chosen, admitted, Bool.false_eq_true, ↓reduceIte] using ih taken

-- A candidate that is neither silenced nor near its origin is refused for a taken range only.
theorem chosen_maximal (taken : List (Int × Int)) (pairs : List (Block × Block))
    (origin b : Block) (member : (origin, b) ∈ pairs) (proper : b.first ≤ b.last)
    (heard : silenced l b.first = false)
    (separate : Apart b.first b.last origin.first origin.last)
    (alike : threshold.lessEq (similarity origin.normal b.normal) = true) :
    (∃ range ∈ taken, ¬ Apart b.first b.last range.1 range.2) ∨
      ∃ pair ∈ chosen threshold l taken pairs,
        ¬ Apart b.first b.last pair.2.first pair.2.last := by
  induction pairs generalizing taken with
  | nil => cases member
  | cons head rest ih =>
    by_cases admitted : reports threshold l head.1 head.2 taken = true
    · simp only [chosen, admitted, ↓reduceIte]
      rcases List.mem_cons.mp member with rfl | later
      · refine Or.inr ⟨_, List.mem_cons_self, ?_⟩
        simp only [Apart]
        omega
      · rcases ih ((↑head.2.first, head.2.last) :: taken) later with met | ⟨pair, picked, met⟩
        · obtain ⟨range, there, touching⟩ := met
          rcases List.mem_cons.mp there with rfl | earlier
          · exact Or.inr ⟨head, List.mem_cons_self, touching⟩
          · exact Or.inl ⟨range, earlier, touching⟩
        · exact Or.inr ⟨pair, List.mem_cons_of_mem head picked, met⟩
    · simp only [chosen, admitted, Bool.false_eq_true, ↓reduceIte]
      rcases List.mem_cons.mp member with rfl | later
      · have occupied : ¬ ∀ range ∈ taken, Apart b.first b.last range.1 range.2 := by
          intro free
          exact admitted ((reports_iff threshold l origin b taken).mpr
            ⟨heard, free, separate, alike⟩)
        obtain ⟨range, touching⟩ := Classical.not_forall.mp occupied
        exact Or.inl ⟨range, Classical.not_imp.mp touching⟩
      · exact ih taken later

end Choice

section Pass

variable (threshold : Binary64) (l : Listing) (file : String)

theorem groups_pass (groups : List (List Block)) (done : Reported) :
    groups.foldlM (reportGroup threshold l file) done =
      (candidates groups).foldlM
        (fun done pair => reportMember threshold l file pair.1 done pair.2) done := by
  induction groups generalizing done with
  | nil => rfl
  | cons group rest ih =>
    have split : candidates (group :: rest) = candidates [group] ++ candidates rest := by
      simp [candidates]
    rw [split, List.foldlM_append, List.foldlM_cons]
    simp only [← ih]
    cases group with
    | nil => rfl
    | cons origin later => simp [candidates, reportGroup, List.foldlM_map]

-- The first report that cannot be made ends both sides with its failure.
theorem candidates_pass (pairs : List (Block × Block)) (done : Reported) :
    pairs.foldlM (fun done pair => reportMember threshold l file pair.1 done pair.2) done = do
      let findings ← (chosen threshold l done.ranges pairs).mapM fun pair =>
        finding l file pair.1 pair.2
      return ⟨findings.reverse ++ done.findings,
        ((chosen threshold l done.ranges pairs).map fun pair =>
          ((pair.2.first : Int), pair.2.last)).reverse ++ done.ranges⟩ := by
  induction pairs generalizing done with
  | nil => rfl
  | cons pair rest ih =>
    rw [List.foldlM_cons]
    by_cases admitted : reports threshold l pair.1 pair.2 done.ranges = true
    · have step : reportMember threshold l file pair.1 done pair.2 = do
          let found ← finding l file pair.1 pair.2
          return { findings := found :: done.findings
                   ranges := (↑pair.2.first, pair.2.last) :: done.ranges } := by
        simp only [reportMember, admitted, ↓reduceIte]
      rw [step]
      simp only [chosen, admitted, ↓reduceIte, bind_assoc, pure_bind, ih, List.mapM_cons,
        List.map_cons, List.reverse_cons, List.append_assoc, List.cons_append, List.nil_append]
    · have step : reportMember threshold l file pair.1 done pair.2 = .ok done := by
        simp only [reportMember, admitted, Bool.false_eq_true, ↓reduceIte]
      rw [step]
      simp only [chosen, admitted, Bool.false_eq_true, ↓reduceIte]
      exact ih done

end Pass

section Candidates

theorem candidates_iff (blocks : List Block) (origin b : Block) :
    (origin, b) ∈ candidates (group blocks) ↔
      ∃ normal later, sharing normal blocks = origin :: later ∧ b ∈ later := by
  simp only [candidates, group_exact, List.mem_flatMap]
  constructor
  · rintro ⟨members, listed, member⟩
    obtain ⟨normal, _, rfl⟩ := List.mem_map.mp listed
    split at member
    · cases member
    · rename_i first later same
      obtain ⟨other, inside, equal⟩ := List.mem_map.mp member
      cases equal
      exact ⟨normal, later, same, inside⟩
  · rintro ⟨normal, later, same, inside⟩
    have shared : origin ∈ sharing normal blocks := same ▸ List.mem_cons_self
    obtain ⟨known, equal⟩ := List.mem_filter.mp shared
    have appears : normal ∈ blocks.map Block.normal :=
      List.mem_map.mpr ⟨origin, known, beq_iff_eq.mp equal⟩
    refine ⟨sharing normal blocks, ?_, ?_⟩
    · exact List.mem_map.mpr ⟨normal, List.mem_eraseDups.mpr appears, rfl⟩
    · rw [same]
      exact List.mem_map.mpr ⟨b, inside, rfl⟩

theorem candidate_repeats (blocks : List Block)
    (ordered : blocks.Pairwise fun a b => a.first ≤ b.first) (origin b : Block)
    (member : (origin, b) ∈ candidates (group blocks)) :
    origin ∈ blocks ∧ b ∈ blocks ∧ origin.normal = b.normal ∧ origin.first ≤ b.first := by
  obtain ⟨normal, later, same, inside⟩ := (candidates_iff blocks origin b).mp member
  have first : origin ∈ sharing normal blocks := same ▸ List.mem_cons_self
  have second : b ∈ sharing normal blocks := same ▸ List.mem_cons_of_mem origin inside
  obtain ⟨firstKnown, firstNormal⟩ := List.mem_filter.mp first
  obtain ⟨secondKnown, secondNormal⟩ := List.mem_filter.mp second
  have sorted : (sharing normal blocks).Pairwise fun a b => a.first ≤ b.first :=
    ordered.sublist List.filter_sublist
  rw [same, List.pairwise_cons] at sorted
  exact ⟨firstKnown, secondKnown,
    (beq_iff_eq.mp firstNormal).trans (beq_iff_eq.mp secondNormal).symm, sorted.1 b inside⟩

-- The blocks are ordered already, so that sorting a group by first lines leaves it as it is.
theorem sharing_sorted (blocks : List Block)
    (ordered : blocks.Pairwise fun a b => a.first ≤ b.first) (normal : String) :
    (sharing normal blocks).mergeSort (fun a b => decide (a.first ≤ b.first)) =
      sharing normal blocks := by
  apply List.mergeSort_of_pairwise
  have sorted : (sharing normal blocks).Pairwise fun a b => a.first ≤ b.first :=
    ordered.sublist List.filter_sublist
  simpa only [decide_eq_true_eq] using sorted

end Candidates

section Similarity

theorem scaled_fine (n d : Nat) : Binary64.scaled n d (-52) = (n * Nat.pow 2 52, d) := by
  have shift : (-52 : Int) = Int.negSucc 51 := rfl
  rw [shift]
  simp only [Binary64.scaled, Nat.reduceAdd]

theorem exponent_self (n : Nat) : Binary64.exponentOf n n = -52 := by
  have guess : (n.log2 : Int) - n.log2 - 52 = -52 := by omega
  have settled : Binary64.exponentOf n n =
      max (if (Binary64.scaled n n (-52)).1 < (Binary64.scaled n n (-52)).2 * Nat.pow 2 52
        then (-52 - 1 : Int) else -52) Binary64.leastExponent := by
    simp only [Binary64.exponentOf, guess]
  rw [settled, scaled_fine, if_neg (Nat.lt_irrefl _)]
  decide

theorem round_multiple (n k : Nat) (pos : 0 < n) : Binary64.roundQuotient (n * k) n = k := by
  have divided : n * k / n = k := Nat.mul_div_cancel_left _ pos
  have nothingLeft : n * k % n = 0 := Nat.mul_mod_right _ _
  simp only [Binary64.roundQuotient, divided, nothingLeft, Nat.mul_zero, pos, ↓reduceIte]

theorem finite_of_mantissa (mantissa : Nat) (exponent : Int) (fine : mantissa ≠ Nat.pow 2 53)
    (filled : mantissa ≠ 0) (small : ¬ Binary64.greatestExponent < exponent) :
    (match (if mantissa = Nat.pow 2 53 then (Nat.pow 2 52, exponent + 1)
        else (mantissa, exponent)) with
      | (mantissa, exponent) =>
        if mantissa = 0 then Binary64.zero false
        else if Binary64.greatestExponent < exponent then .infinite false
        else .finite false mantissa exponent) = .finite false mantissa exponent := by
  rw [if_neg fine]
  dsimp only
  rw [if_neg filled, if_neg small]

-- All numbers stay variables: on closed ones the kernel would count up to a power of two.
theorem ratio_finite (n d top bottom : Nat) (e : Int) (filled : n ≠ 0)
    (exponent : Binary64.exponentOf n d = e) (scaling : Binary64.scaled n d e = (top, bottom))
    (fine : Binary64.roundQuotient top bottom ≠ Nat.pow 2 53)
    (present : Binary64.roundQuotient top bottom ≠ 0)
    (small : ¬ Binary64.greatestExponent < e) :
    Binary64.ofRatio false n d = .finite false (Binary64.roundQuotient top bottom) e := by
  unfold Binary64.ofRatio
  rw [if_neg filled, exponent]
  extract_lets power
  simp only [power]
  rw [scaling]
  exact finite_of_mantissa _ _ fine present small

theorem ratio_self (n : Nat) (pos : 0 < n) :
    Binary64.ofRatio false n n = .finite false (Nat.pow 2 52) (-52) := by
  have mantissa := round_multiple n (Nat.pow 2 52) pos
  rw [ratio_finite n n (n * Nat.pow 2 52) n (-52) (Nat.ne_of_gt pos) (exponent_self n)
    (scaled_fine n n) (by rw [mantissa]; decide) (by rw [mantissa]; decide) (by decide), mantissa]

theorem similarity_self (text : String) (filled : Text.words text.toList ≠ []) :
    similarity text text = Binary64.ofInt 1 := by
  have single : (Text.words text.toList).eraseDups ≠ [] := by
    obtain ⟨word, rest, same⟩ := List.exists_cons_of_ne_nil filled
    rw [same, List.eraseDups_cons]
    exact List.cons_ne_nil _ _
  have all : (Text.words text.toList).eraseDups.filter
      (Text.words text.toList).eraseDups.contains = (Text.words text.toList).eraseDups := by
    apply List.filter_eq_self.mpr
    intro word member
    exact List.contains_iff_mem.mpr member
  have pos : 0 < (Text.words text.toList).eraseDups.length := List.length_pos_iff.mpr single
  have once : (Text.words text.toList).eraseDups.length +
      (Text.words text.toList).eraseDups.length - (Text.words text.toList).eraseDups.length =
        (Text.words text.toList).eraseDups.length := by omega
  have nonempty : (Text.words text.toList).eraseDups.isEmpty = false := by
    simpa using single
  simp only [similarity, all, nonempty, Bool.or_self, Bool.false_eq_true, ↓reduceIte]
  rw [once]
  simp only [Binary64.quotient, Int.natAbs_natCast, bne_self_eq_false]
  rw [ratio_self _ pos]
  rfl

end Similarity

section Search

variable (bounds : Bounds) (settings : Settings.Duplication) (l : Listing) (file : String)
  (module : Module)

def kept : List Block := stored bounds settings.minDuplicateLines (excludedRanges module) l

theorem kept_ordered :
    (kept bounds settings l module).Pairwise fun a b => a.first ≤ b.first :=
  stored_ordered bounds settings.minDuplicateLines (excludedRanges module) l

def picked : List (Block × Block) :=
  chosen settings.similarityThreshold l [] (candidates (group (kept bounds settings l module)))

def stumbles : Bool :=
  comparesUnplaced bounds settings.minDuplicateLines (min l.size bounds.lines)
    (excludedRanges module)

def cautions : List String :=
  (if bounds.lines < l.size then [linesWarning bounds] else []) ++
    if (gather bounds.blocks (blocksAt bounds settings.minDuplicateLines (excludedRanges module) l
        (min l.size bounds.lines)) 0 (List.range (min l.size bounds.lines))).2 then
      [blocksWarning bounds]
    else []

theorem search_exact :
    search bounds settings l file module =
      if stumbles bounds settings l module then .error missingStart
      else do
        let findings ← (picked bounds settings l module).mapM fun pair =>
          finding l file pair.1 pair.2
        return {
          excluded := excludedRanges module
          stored := (kept bounds settings l module).length
          groups := group (kept bounds settings l module)
          findings
          warnings := cautions bounds settings l module } := by
  by_cases stuck : stumbles bounds settings l module = true
  · rw [if_pos stuck]
    rw [stumbles] at stuck
    simp only [search, stuck, ↓reduceIte]
    rfl
  · rw [if_neg stuck]
    rw [stumbles] at stuck
    obtain ⟨groups, count, cut⟩ := scan_stored bounds settings.minDuplicateLines
      (excludedRanges module) l (min l.size bounds.lines) (List.range (min l.size bounds.lines)) {}
      rfl rfl
    simp only [search, stuck, groups, count, cut, groups_pass, candidates_pass, Bool.false_eq_true,
      ↓reduceIte, pure_bind, bind_assoc, List.append_nil, List.reverse_reverse]
    rfl

theorem search_ok (found : Outcome) (searched : search bounds settings l file module = .ok found) :
    found.groups = group (kept bounds settings l module) ∧
      ((picked bounds settings l module).mapM fun pair => finding l file pair.1 pair.2) =
        .ok found.findings := by
  rw [search_exact] at searched
  split at searched
  · cases searched
  · obtain ⟨findings, made, same⟩ := (bind_ok_iff _ _ _).mp searched
    cases same
    exact ⟨rfl, made⟩

theorem stumbles_unplaced (stuck : stumbles bounds settings l module = true) :
    ∃ e ∈ excludedRanges module, e.first = none := by
  rw [stumbles, comparesUnplaced, Bool.and_eq_true] at stuck
  obtain ⟨e, member, missing⟩ := List.any_eq_true.mp stuck.1
  exact ⟨e, member, Option.isNone_iff_eq_none.mp missing⟩

structure Pair (pair : Block × Block) : Prop where
  origin_faithful :
    Faithful bounds settings.minDuplicateLines (excludedRanges module) l pair.1
  faithful : Faithful bounds settings.minDuplicateLines (excludedRanges module) l pair.2
  normal_eq : pair.1.normal = pair.2.normal
  first_le : pair.1.first ≤ pair.2.first
  heard : silenced l pair.2.first = false
  separate : Apart pair.2.first pair.2.last pair.1.first pair.1.last

theorem picked_pair (pair : Block × Block) (member : pair ∈ picked bounds settings l module) :
    Pair bounds settings l module pair := by
  obtain ⟨candidate, heard, separate⟩ := chosen_reported _ l [] _ pair member
  obtain ⟨first, second, same, before⟩ :=
    candidate_repeats _ (kept_ordered bounds settings l module) pair.1 pair.2 candidate
  exact ⟨stored_faithful bounds _ _ l _ first, stored_faithful bounds _ _ l _ second, same, before,
    heard, separate⟩

end Search

section Findings

variable (l : Listing) (file : String)

theorem finding_shows (origin b : Block) (f : Finding) (made : finding l file origin b = .ok f) :
    f.rule = Rule.duplicateBlock.code ∧ f.line = b.first ∧
      f.endLine.map Int.ofNat = some b.last ∧
      f.message = s!"Duplicate code block (lines {b.first}-{b.last}) similar to lines " ++
        s!"{origin.first}-{origin.last}" := by
  have same := (of_draft_iff _ f).mp made
  have line : (b.first : Int) = f.line := congrArg Finding.Draft.line same
  exact ⟨(congrArg Finding.Draft.rule same).symm, by omega,
    (congrArg Finding.Draft.endLine same).symm, (congrArg Finding.Draft.message same).symm⟩

theorem finding_defined (origin b : Block) (pos : 1 ≤ b.first) (proper : b.first ≤ b.last) :
    ∃ f, finding l file origin b = .ok f := by
  apply of_draft_defined
  · exact Int.ofNat_le.mpr pos
  · exact Int.le_refl 0
  · intro last ending
    cases ending
    exact proper

end Findings

section Reports

variable (bounds : Bounds) (settings : Settings.Duplication) (l : Listing) (file : String)
  (module : Module)

-- A block of no lines could not be reported, but the bound on lengths rules it out.
theorem search_total (ranged : 1 ≤ settings.minDuplicateLines) :
    (search bounds settings l file module = .error missingStart ∧
      ∃ e ∈ excludedRanges module, e.first = none) ∨
    ∃ found, search bounds settings l file module = .ok found := by
  rw [search_exact]
  by_cases stuck : stumbles bounds settings l module = true
  · rw [if_pos stuck]
    exact Or.inl ⟨rfl, stumbles_unplaced bounds settings l module stuck⟩
  · rw [if_neg stuck]
    right
    obtain ⟨findings, made⟩ := map_ok_defined
      (fun pair => finding l file pair.1 pair.2) (picked bounds settings l module) (by
        intro pair member
        have admitted := (picked_pair bounds settings l module pair member).faithful.admitted
        have long := admitted.least_le
        exact finding_defined l file pair.1 pair.2 admitted.first_pos (by omega))
    exact ⟨_, (bind_ok_iff _ _ _).mpr ⟨findings, made, rfl⟩⟩

/-- A finding on lines up to `last` that repeats the lines `originFirst` to `originLast`. -/
structure Repetition (f : Finding) (last originFirst originLast : Nat) : Prop where
  rule_eq : f.rule = Rule.duplicateBlock.code
  endLine_eq : f.endLine = some last
  admitted : Admitted bounds settings.minDuplicateLines (excludedRanges module) l f.line last
  origin_admitted :
    Admitted bounds settings.minDuplicateLines (excludedRanges module) l originFirst originLast
  before : originLast < f.line
  message_eq : f.message = s!"Duplicate code block (lines {f.line}-{last}) similar to lines " ++
    s!"{originFirst}-{originLast}"
  normal_eq : normalOf l originFirst originLast = normalOf l f.line last
  normal_ne : normalOf l f.line last ≠ ""

theorem pair_repetition (ranged : 1 ≤ settings.minDuplicateLines) (pair : Block × Block)
    (reported : Pair bounds settings l module pair) (f : Finding)
    (made : finding l file pair.1 pair.2 = .ok f) :
    ∃ last originFirst originLast,
      Repetition bounds settings l module f last originFirst originLast := by
  obtain ⟨⟨originFirst, originStop, originNormal⟩, ⟨first, stop, normal⟩⟩ := pair
  obtain ⟨originFaithful, faithful, normalEq, firstLe, _, separate⟩ := reported
  obtain ⟨ruleEq, lineEq, endEq, messageEq⟩ := finding_shows l file _ _ f made
  obtain ⟨last, lastEq, lastInt⟩ := Option.map_eq_some_iff.mp endEq
  dsimp only at lineEq lastInt normalEq firstLe separate messageEq
  have pos := originFaithful.admitted.first_pos
  have long := originFaithful.admitted.least_le
  obtain ⟨originLast, originInt⟩ : ∃ n : Nat, originStop = n :=
    ⟨originStop.toNat, by dsimp only at long pos; omega⟩
  subst lineEq lastInt originInt normalEq
  refine ⟨last, originFirst, originLast, ruleEq, lastEq, faithful.admitted,
    originFaithful.admitted, ?_, messageEq, ?_, ?_⟩
  · -- the earlier block begins first, so of the two ways to be apart only one is left
    have tall := faithful.admitted.least_le
    dsimp only at tall
    rcases separate with after | before
    · omega
    · omega
  · exact originFaithful.normal_eq.symm.trans faithful.normal_eq
  · exact faithful.normal_eq ▸ faithful.normal_ne

def covered (f : Finding) : Int × Option Int := (f.line, f.endLine.map Int.ofNat)

theorem findings_covered (found : Outcome)
    (searched : search bounds settings l file module = .ok found) :
    found.findings.map covered = (picked bounds settings l module).map fun pair =>
      ((pair.2.first : Int), some pair.2.last) := by
  obtain ⟨_, made⟩ := search_ok bounds settings l file module found searched
  refine map_ok_view _ covered _ ?_ _ _ made
  intro pair f given
  obtain ⟨_, lineEq, endEq, _⟩ := finding_shows l file pair.1 pair.2 f given
  rw [covered, lineEq, endEq]

theorem findings_apart (found : Outcome)
    (searched : search bounds settings l file module = .ok found) :
    found.findings.Pairwise fun f g => ∀ last stop : Nat,
      f.endLine = some last → g.endLine = some stop → Apart f.line last g.line stop := by
  have apart := (chosen_apart settings.similarityThreshold l []
    (candidates (group (kept bounds settings l module)))).2
  have pairs : ((picked bounds settings l module).map
      fun pair => ((pair.2.first : Int), some pair.2.last)).Pairwise fun a b =>
        ∀ last stop, a.2 = some last → b.2 = some stop → Apart a.1 last b.1 stop := by
    rw [List.pairwise_map]
    refine apart.imp ?_
    intro a b separate last stop lastEq stopEq
    cases lastEq
    cases stopEq
    exact separate
  rw [← findings_covered bounds settings l file module found searched, List.pairwise_map] at pairs
  refine pairs.imp ?_
  intro f g separate last stop lastEq stopEq
  apply separate
  · simp [covered, lastEq]
  · simp [covered, stopEq]

theorem findings_repeat (ranged : 1 ≤ settings.minDuplicateLines) (found : Outcome)
    (searched : search bounds settings l file module = .ok found) (f : Finding)
    (member : f ∈ found.findings) :
    ∃ last originFirst originLast,
      Repetition bounds settings l module f last originFirst originLast := by
  obtain ⟨_, made⟩ := search_ok bounds settings l file module found searched
  obtain ⟨pair, inside, given⟩ := map_ok_source _ _ _ made f member
  exact pair_repetition bounds settings l file module ranged pair
    (picked_pair bounds settings l module pair inside) f given

theorem findings_maximal (ranged : 1 ≤ settings.minDuplicateLines)
    (unit : settings.similarityThreshold.lessEq (Binary64.ofInt 1) = true) (found : Outcome)
    (searched : search bounds settings l file module = .ok found) (normal : String)
    (origin : Block) (later : List Block)
    (grouped : sharing normal (kept bounds settings l module) = origin :: later) (b : Block)
    (member : b ∈ later) (filled : Text.words b.normal.toList ≠ [])
    (heard : silenced l b.first = false)
    (separate : Apart b.first b.last origin.first origin.last) :
    ∃ f ∈ found.findings, ∃ last : Nat, f.endLine = some last ∧
      ¬ Apart b.first b.last f.line last := by
  have candidate := (candidates_iff _ origin b).mpr ⟨normal, later, grouped, member⟩
  obtain ⟨_, stored, same, _⟩ :=
    candidate_repeats _ (kept_ordered bounds settings l module) origin b candidate
  have long := (stored_faithful bounds _ _ l b stored).admitted.least_le
  have alike : settings.similarityThreshold.lessEq (similarity origin.normal b.normal) = true := by
    rw [same, similarity_self b.normal filled]
    exact unit
  rcases chosen_maximal settings.similarityThreshold l [] _ origin b candidate (by omega) heard
    separate alike with ⟨range, absent, _⟩ | ⟨pair, reported, touching⟩
  · cases absent
  · obtain ⟨f, inside, shown⟩ : ∃ f ∈ found.findings,
        covered f = (↑pair.2.first, some pair.2.last) := by
      rw [← List.mem_map, findings_covered bounds settings l file module found searched]
      exact List.mem_map.mpr ⟨pair, reported, rfl⟩
    obtain ⟨lineEq, endEq⟩ := Prod.mk.inj shown
    obtain ⟨last, lastEq, lastInt⟩ := Option.map_eq_some_iff.mp endEq
    have stopEq : (last : Int) = pair.2.last := lastInt
    refine ⟨f, inside, last, lastEq, ?_⟩
    rw [lineEq, stopEq]
    exact touching

end Reports

section Guarantees

variable (settings : Settings) (l : Listing) (file : String) (module : Module)

-- A search can only fail on a tree built by hand, whose excluded range lacks its first line.
theorem duplicate_reports_sound (valid : settings.fault? = none) :
    (search usualBounds settings.duplication l file module = .error missingStart ∧
      ∃ e ∈ excludedRanges module, e.first = none) ∨
    ∃ found, search usualBounds settings.duplication l file module = .ok found ∧
      (found.findings.Pairwise fun f g => ∀ last stop : Nat,
        f.endLine = some last → g.endLine = some stop → Apart f.line last g.line stop) ∧
      ∀ f ∈ found.findings, ∃ last originFirst originLast,
        Repetition usualBounds settings.duplication l module f last originFirst originLast := by
  have least := Settings.least_lines settings valid
  have ranged : 1 ≤ settings.duplication.minDuplicateLines := by omega
  rcases search_total usualBounds settings.duplication l file module ranged with
    stuck | ⟨found, searched⟩
  · exact Or.inl stuck
  · refine Or.inr ⟨found, searched, ?_, ?_⟩
    · exact findings_apart usualBounds settings.duplication l file module found searched
    · intro f member
      exact findings_repeat usualBounds settings.duplication l file module ranged found searched f
        member

def echo : Listing := .ofList ["x = f(y)", "z = g(x)", "x = f(y)", "z = g(x)"]

theorem duplicate_reports_sound_echo :
    ∃ found, search usualBounds { minDuplicateLines := 2 } echo "a.py" ⟨[]⟩ = .ok found ∧
      found.findings.map covered = [(3, some 4)] ∧
      (found.findings.Pairwise fun f g => ∀ last stop : Nat,
        f.endLine = some last → g.endLine = some stop → Apart f.line last g.line stop) ∧
      ∀ f ∈ found.findings, ∃ last originFirst originLast,
        Repetition usualBounds { minDuplicateLines := 2 } echo ⟨[]⟩ f last originFirst
          originLast := by
  rcases duplicate_reports_sound { duplication := { minDuplicateLines := 2 } } echo "a.py" ⟨[]⟩
    (by decide +kernel) with ⟨_, e, member, _⟩ | ⟨found, searched, apart, repeats⟩
  · cases member
  · refine ⟨found, searched, ?_, apart, repeats⟩
    rw [findings_covered usualBounds _ echo "a.py" ⟨[]⟩ found searched, picked, group_exact]
    decide +kernel

-- The head of the sorted group is the origin; every other member counts as a repetition of it.
theorem duplicate_reports_maximal (valid : settings.fault? = none) :
    (search usualBounds settings.duplication l file module = .error missingStart ∧
      ∃ e ∈ excludedRanges module, e.first = none) ∨
    ∃ found, search usualBounds settings.duplication l file module = .ok found ∧
      found.groups = group (kept usualBounds settings.duplication l module) ∧
      ∀ normal origin later,
        (sharing normal (kept usualBounds settings.duplication l module)).mergeSort
          (fun a b => decide (a.first ≤ b.first)) = origin :: later →
        ∀ b ∈ later, Text.words b.normal.toList ≠ [] → silenced l b.first = false →
          ¬ Apart b.first b.last origin.first origin.last ∨
          ∃ f ∈ found.findings, f.rule = Rule.duplicateBlock.code ∧
            ∃ last : Nat, f.endLine = some last ∧ ¬ Apart b.first b.last f.line last := by
  have least := Settings.least_lines settings valid
  have ranged : 1 ≤ settings.duplication.minDuplicateLines := by omega
  have unit := Settings.threshold_le_one settings valid
  rcases search_total usualBounds settings.duplication l file module ranged with
    stuck | ⟨found, searched⟩
  · exact Or.inl stuck
  · have grouped := (search_ok usualBounds settings.duplication l file module found searched).1
    refine Or.inr ⟨found, searched, grouped, ?_⟩
    intro normal origin later sorted b member filled heard
    rw [sharing_sorted _ (kept_ordered usualBounds settings.duplication l module)] at sorted
    by_cases separate : Apart b.first b.last origin.first origin.last
    · obtain ⟨f, inside, last, lastEq, touching⟩ := findings_maximal usualBounds
        settings.duplication l file module ranged unit found searched normal origin later sorted b
        member filled heard separate
      obtain ⟨_, _, _, repeats⟩ := findings_repeat usualBounds settings.duplication l file module
        ranged found searched f inside
      exact Or.inr ⟨f, inside, repeats.rule_eq, last, lastEq, touching⟩
    · exact Or.inl separate

theorem duplicate_reports_maximal_echo :
    ∃ found, search usualBounds { minDuplicateLines := 2 } echo "a.py" ⟨[]⟩ = .ok found ∧
      ∃ f ∈ found.findings, f.rule = Rule.duplicateBlock.code ∧
        ∃ last : Nat, f.endLine = some last ∧ ¬ Apart 3 4 f.line last := by
  rcases duplicate_reports_maximal { duplication := { minDuplicateLines := 2 } } echo "a.py" ⟨[]⟩
    (by decide +kernel) with ⟨_, e, member, _⟩ | ⟨found, searched, _, complete⟩
  · cases member
  · refine ⟨found, searched, ?_⟩
    have sorted : (sharing (normalOf echo 1 2) (kept usualBounds { minDuplicateLines := 2 } echo
        ⟨[]⟩)).mergeSort (fun a b => decide (a.first ≤ b.first)) =
          [⟨1, 2, normalOf echo 1 2⟩, ⟨3, 4, normalOf echo 3 4⟩] := by
      rw [sharing_sorted _ (kept_ordered usualBounds _ echo ⟨[]⟩)]
      decide +kernel
    rcases complete _ _ _ sorted ⟨3, 4, normalOf echo 3 4⟩ List.mem_cons_self (by decide +kernel)
      (by decide +kernel) with near | reported
    · exact absurd (Or.inr (by decide)) near
    · exact reported

end Guarantees

end RefactorAdvice.Rules.Duplication
