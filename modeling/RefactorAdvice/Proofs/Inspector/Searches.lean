import RefactorAdvice.Proofs.DuplicateBlocks
import RefactorAdvice.Proofs.Inspector.Moves

/-!
A kept examiner on a search for duplicates. Its counter and its two marks follow the blocks
gathered. A range that does not say where it begins stops the search where it is first looked
at; no block is stored before that, since one that is clear of all ranges looks at every one. So
a search that goes start by start comes to the search of the file.
-/

namespace RefactorAdvice.Rules.Inspector

open Code

section Standstill

theorem go_still (p : Point) (moves : List Move) (each : ∀ move ∈ moves, move p = .ok p) :
    go p moves = .ok p := by
  induction moves with
  | nil => rfl
  | cons move rest ih =>
    have first := each move List.mem_cons_self
    have later := ih fun other member => each other (List.mem_cons_of_mem move member)
    rw [go_cons, first]
    exact later

theorem go_stuck (p : Point) (failure : Failure) (moves : List Move)
    (each : ∀ move ∈ moves, move p = .ok p ∨ move p = .error (failure, p))
    (stops : ∃ move ∈ moves, move p = .error (failure, p)) :
    go p moves = .error (failure, p) := by
  induction moves with
  | nil =>
    obtain ⟨move, member, -⟩ := stops
    cases member
  | cons move rest ih =>
    rw [go_cons]
    rcases each move List.mem_cons_self with still | stuck
    · rw [still]
      refine ih (fun other member => each other (List.mem_cons_of_mem move member)) ?_
      obtain ⟨other, member, failing⟩ := stops
      rcases List.mem_cons.mp member with rfl | later
      · rw [still] at failing
        cases failing
      · exact ⟨other, later, failing⟩
    · rw [stuck]
      rfl

end Standstill

section Gathering
variable (bounds : Duplication.Bounds) (settings : Settings.Duplication) (sheet : Sheet)

def Point.storing (p : Point) (blocks : List Duplication.Block) (cut : Bool) : Point :=
  { p with
    notes := { p.notes with
      blocks := p.notes.blocks ++ blocks, stored := p.notes.stored + blocks.length
      blocksCut := cut } }

theorem storing_none (p : Point) (cut : Bool) (same : p.notes.blocksCut = cut) :
    p.storing [] cut = p := by
  subst same
  simp [Point.storing]

theorem storing_storing (p : Point) (first second : List Duplication.Block) (cut last : Bool) :
    (p.storing first cut).storing second last = p.storing (first ++ second) last := by
  simp [Point.storing, Nat.add_assoc]

theorem store_clear (start : Nat) (length : Int) (p : Point) (going : p.notes.blocksCut = false)
    (clear : Duplication.reachesUnplaced (start + 1) (start + length) p.notes.excluded = false) :
    store settings sheet start length p =
      .ok (p.storing (Duplication.block? settings.minDuplicateLines p.notes.excluded
        sheet.listing start length).toList false) := by
  unfold store
  rw [going, clear]
  cases Duplication.block? settings.minDuplicateLines p.notes.excluded sheet.listing start
      length with
  | none => exact congrArg Except.ok (storing_none p false going).symm
  | some b =>
    simp [Point.storing, going]

theorem go_lengths (start : Nat) (lengths : List Int) (p : Point)
    (going : p.notes.blocksCut = false)
    (clear : ∀ length ∈ lengths,
      Duplication.reachesUnplaced (start + 1) (start + length) p.notes.excluded = false) :
    go p (lengths.map (store settings sheet start)) =
      .ok (p.storing (lengths.filterMap (Duplication.block? settings.minDuplicateLines
        p.notes.excluded sheet.listing start)) false) := by
  induction lengths generalizing p with
  | nil => exact congrArg Except.ok (storing_none p false going).symm
  | cons length rest ih =>
    have here := store_clear settings sheet start length p going (clear length List.mem_cons_self)
    have later := ih (p.storing (Duplication.block? settings.minDuplicateLines p.notes.excluded
      sheet.listing start length).toList false) rfl
      fun other member => clear other (List.mem_cons_of_mem length member)
    rw [List.map_cons, go_cons, here]
    refine later.trans ?_
    rw [storing_storing]
    cases built : Duplication.block? settings.minDuplicateLines p.notes.excluded sheet.listing
        start length with
    | none =>
      rw [List.filterMap_cons_none built]
      rfl
    | some b =>
      rw [List.filterMap_cons_some built]
      rfl

-- A search that is given up goes through the rest of its moves without effect.
theorem go_given_up (total : Nat) (starts : List Nat) (p : Point)
    (cut : p.notes.blocksCut = true) (full : bounds.blocks ≤ p.notes.stored) :
    ∀ move ∈ starts.flatMap (startMoves bounds settings sheet total), move p = .ok p := by
  intro move member
  obtain ⟨start, -, inside⟩ := List.mem_flatMap.mp member
  rcases List.mem_cons.mp inside with rfl | later
  · simp only [tryStart, full, ↓reduceIte, ← cut]
  · obtain ⟨length, -, rfl⟩ := List.mem_map.mp later
    simp only [store, cut, ↓reduceIte]

theorem go_starts (total : Nat) (starts : List Nat) (p : Point)
    (going : p.notes.blocksCut = false)
    (clear : ∀ start ∈ starts,
      ∀ length ∈ Duplication.lengths bounds settings.minDuplicateLines total start,
        Duplication.reachesUnplaced (start + 1) (start + length) p.notes.excluded = false) :
    go p (starts.flatMap (startMoves bounds settings sheet total)) =
      let gathered := Duplication.gather bounds.blocks
        (Duplication.blocksAt bounds settings.minDuplicateLines p.notes.excluded sheet.listing
          total) p.notes.stored starts
      .ok (p.storing gathered.1 gathered.2) := by
  induction starts generalizing p with
  | nil => exact congrArg Except.ok (storing_none p false going).symm
  | cons start rest ih =>
    by_cases full : bounds.blocks ≤ p.notes.stored
    · have tried : tryStart bounds p = .ok (p.storing [] true) := by
        simp [tryStart, full, Point.storing]
      have still := go_given_up bounds settings sheet total (start :: rest) (p.storing [] true) rfl
        full
      rw [Duplication.gather, if_pos full]
      rw [List.flatMap_cons, startMoves, List.cons_append] at still ⊢
      rw [go_cons, tried]
      exact go_still _ _ fun move member => still move (List.mem_cons_of_mem _ member)
    · have tried : tryStart bounds p = .ok p := by
        simp [tryStart, full]
      have here := go_lengths settings sheet start
        (Duplication.lengths bounds settings.minDuplicateLines total start) p going
        (clear start List.mem_cons_self)
      have later := ih (p.storing (Duplication.blocksAt bounds settings.minDuplicateLines
        p.notes.excluded sheet.listing total start) false) rfl
        fun other member => clear other (List.mem_cons_of_mem start member)
      rw [List.flatMap_cons, startMoves, List.cons_append, go_cons, tried, Duplication.gather,
        if_neg full]
      refine (go_append p _ _).trans ?_
      rw [here]
      refine later.trans ?_
      simp only [storing_storing]
      rfl

end Gathering

section Unplaced
variable (bounds : Duplication.Bounds) (settings : Settings.Duplication) (sheet : Sheet)

theorem reaches_placed (first last : Int) (excluded : List Duplication.Excluded)
    (placed : excluded.any (·.first.isNone) = false) :
    Duplication.reachesUnplaced first last excluded = false := by
  induction excluded with
  | nil => rfl
  | cons e rest ih =>
    rw [List.any_cons, Bool.or_eq_false_iff] at placed
    rw [Duplication.reachesUnplaced, placed.1, ih placed.2, Bool.and_false, Bool.or_false]

theorem meets_before_unplaced (first last : Int) (excluded : List Duplication.Excluded)
    (unplaced : excluded.any (·.first.isNone) = true)
    (clear : Duplication.reachesUnplaced first last excluded = false) :
    excluded.any (·.meets first last) = true := by
  induction excluded with
  | nil => cases unplaced
  | cons e rest ih =>
    rw [Duplication.reachesUnplaced, Bool.or_eq_false_iff] at clear
    obtain ⟨placed, clear⟩ := clear
    rw [List.any_cons, placed, Bool.false_or] at unplaced
    rw [List.any_cons]
    cases met : e.meets first last with
    | true => rfl
    | false =>
      rw [met, Bool.not_false, Bool.true_and] at clear
      exact ih unplaced clear

theorem store_unplaced (start : Nat) (length : Int) (p : Point)
    (going : p.notes.blocksCut = false)
    (unplaced : p.notes.excluded.any (·.first.isNone) = true) :
    store settings sheet start length p =
      if Duplication.reachesUnplaced (start + 1) (start + length) p.notes.excluded then
        .error (Duplication.missingStart, p)
      else .ok p := by
  unfold store
  rw [going, if_neg Bool.false_ne_true]
  cases clear : Duplication.reachesUnplaced (start + 1) (start + length) p.notes.excluded with
  | true => rfl
  | false =>
    have met := meets_before_unplaced _ _ _ unplaced clear
    have none_built : Duplication.block? settings.minDuplicateLines p.notes.excluded sheet.listing
        start length = none := by
      rw [Duplication.block?]
      exact if_pos met
    rw [none_built]

-- Nothing is stored on the way to the failure, so the limit is not reached either.
theorem go_unplaced (total : Nat) (starts : List Nat) (p : Point)
    (going : p.notes.blocksCut = false) (room : p.notes.stored < bounds.blocks)
    (unplaced : p.notes.excluded.any (·.first.isNone) = true)
    (reaches : ∃ start ∈ starts,
      ∃ length ∈ Duplication.lengths bounds settings.minDuplicateLines total start,
        Duplication.reachesUnplaced (start + 1) (start + length) p.notes.excluded = true) :
    go p (starts.flatMap (startMoves bounds settings sheet total)) =
      .error (Duplication.missingStart, p) := by
  refine go_stuck p Duplication.missingStart _ ?_ ?_
  · intro move member
    obtain ⟨start, -, inside⟩ := List.mem_flatMap.mp member
    rcases List.mem_cons.mp inside with rfl | later
    · exact .inl (if_neg (Nat.not_le.mpr room))
    · obtain ⟨length, -, rfl⟩ := List.mem_map.mp later
      rw [store_unplaced settings sheet start length p going unplaced]
      split
      · exact .inr rfl
      · exact .inl rfl
  · obtain ⟨start, starting, length, sized, reached⟩ := reaches
    refine ⟨store settings sheet start length, ?_, ?_⟩
    · refine List.mem_flatMap.mpr ⟨start, starting, ?_⟩
      exact List.mem_cons_of_mem _ (List.mem_map.mpr ⟨length, sized, rfl⟩)
    · rw [store_unplaced settings sheet start length p going unplaced, if_pos reached]

theorem compares_unplaced_iff (least : Int) (total : Nat) (excluded : List Duplication.Excluded) :
    Duplication.comparesUnplaced bounds least total excluded = true ↔
      excluded.any (·.first.isNone) = true ∧ ∃ start ∈ List.range total,
        ∃ length ∈ Duplication.lengths bounds least total start,
          Duplication.reachesUnplaced (start + 1) (start + length) excluded = true := by
  simp only [Duplication.comparesUnplaced, Bool.and_eq_true, List.any_eq_true]

theorem unplaced_unreached (least : Int) (total : Nat) (excluded : List Duplication.Excluded)
    (clear : ¬ Duplication.comparesUnplaced bounds least total excluded = true) :
    ∀ start ∈ List.range total, ∀ length ∈ Duplication.lengths bounds least total start,
      Duplication.reachesUnplaced (start + 1) (start + length) excluded = false := by
  intro start starting length sized
  cases unplaced : excluded.any (·.first.isNone) with
  | false => exact reaches_placed _ _ _ unplaced
  | true =>
    refine Bool.eq_false_iff.mpr fun reached => clear ?_
    exact (compares_unplaced_iff bounds least total excluded).mpr
      ⟨unplaced, start, starting, length, sized, reached⟩

end Unplaced

section Reports
variable (settings : Settings.Duplication) (sheet : Sheet)

def Point.reporting (p : Point) (done : Duplication.Reported) : Point :=
  { p with notes := { p.notes with findings := done.findings.reverse }, taken := done.ranges }

theorem announce_agrees (base : Point) (origin : Duplication.Block) (done : Duplication.Reported)
    (p : Point) (b : Duplication.Block) (same : p = base.reporting done) :
    Agrees (fun done q => q = base.reporting done)
      (Duplication.reportMember settings.similarityThreshold sheet.listing sheet.file origin done b)
      (announce settings sheet origin p b) := by
  subst same
  unfold Duplication.reportMember announce
  by_cases reported : Duplication.reports settings.similarityThreshold sheet.listing origin b
      done.ranges = true
  · rw [if_pos reported, if_pos (by exact reported)]
    cases Duplication.finding sheet.listing sheet.file origin b with
    | error failure => exact .failed failure _
    | ok found =>
      refine .done _ _ ?_
      simp [Point.reporting, Point.add]
  · rw [if_neg reported, if_neg (by exact reported)]
    exact .done done _ rfl

theorem compare_agrees (base : Point) (fresh : base = base.reporting ⟨[], []⟩) :
    Agrees (fun done q => q = base.reporting done)
      ((Duplication.group base.notes.blocks).foldlM
        (Duplication.reportGroup settings.similarityThreshold sheet.listing sheet.file) ⟨[], []⟩)
      (compareBlocks settings sheet base) := by
  refine agrees_fold _ (announceGroup settings sheet) ?_ _ _ base fresh
  intro done p members same
  cases members with
  | nil => exact .done done p same
  | cons origin later =>
    exact agrees_fold _ (announce settings sheet origin)
      (announce_agrees settings sheet base origin) later done p same

theorem finish_verdict (bounds : Duplication.Bounds) (base : Point)
    (fresh : base = base.reporting ⟨[], []⟩) :
    verdict (compareBlocks settings sheet base >>= warn bounds) =
      ((Duplication.group base.notes.blocks).foldlM
        (Duplication.reportGroup settings.similarityThreshold sheet.listing sheet.file)
        ⟨[], []⟩).map fun done =>
          ⟨done.findings.reverse, base.notes.warnings ++
            ((if base.notes.linesCut then [Duplication.linesWarning bounds] else []) ++
              (if base.notes.blocksCut then [Duplication.blocksWarning bounds] else []))⟩ := by
  have agree := compare_agrees settings sheet base fresh
  generalize (Duplication.group base.notes.blocks).foldlM (Duplication.reportGroup
    settings.similarityThreshold sheet.listing sheet.file) ⟨[], []⟩ = outcome at agree ⊢
  generalize compareBlocks settings sheet base = progress at agree ⊢
  cases agree with
  | done done p same =>
    subst same
    rfl
  | failed failure p => rfl

end Reports

section Whole
variable (settings : Settings) (sheet : Sheet)

def searching (bounds : Duplication.Bounds) (notes : Notes) (module : Module) : Point :=
  ⟨{ notes.clear .duplication with
      excluded := Duplication.excludedRanges module
      linesCut := decide (bounds.lines < sheet.listing.size) }, [], []⟩

theorem go_search (bounds : Duplication.Bounds) (notes : Notes) (module : Module) :
    go ⟨notes.clear .duplication, [], []⟩
        (searchMoves bounds settings.duplication sheet module) =
      go (searching sheet bounds notes module)
          ((List.range (min sheet.listing.size bounds.lines)).flatMap
            (startMoves bounds settings.duplication sheet
              (min sheet.listing.size bounds.lines))) >>=
        fun p => compareBlocks settings.duplication sheet p >>= warn bounds := by
  have counted : (exclude module ⟨notes.clear .duplication, [], []⟩ >>= countLines bounds sheet) =
      .ok (searching sheet bounds notes module) := by
    by_cases long : bounds.lines < sheet.listing.size
    · simp [exclude, countLines, searching, long, bind, Except.bind]
    · simp [exclude, countLines, searching, long, bind, Except.bind, Notes.clear]
  have last : ∀ p, go p [compareBlocks settings.duplication sheet, warn bounds] =
      compareBlocks settings.duplication sheet p >>= warn bounds :=
    fun p => go_two p _ _
  simp only [searchMoves, List.cons_append]
  refine (bind_assoc (exclude module _) (countLines bounds sheet) fun p => go p _).symm.trans ?_
  rw [counted]
  refine (go_append _ _ _).trans ?_
  simp only [last]

theorem search_verdict (bounds : Duplication.Bounds) (room : 0 < bounds.blocks) (notes : Notes)
    (module : Module) :
    verdict (go ⟨notes.clear .duplication, [], []⟩
        (searchMoves bounds settings.duplication sheet module)) = do
      let found ← Duplication.search bounds settings.duplication sheet.listing sheet.file module
      return ⟨found.findings, found.warnings⟩ := by
  obtain ⟨groups, _, cut⟩ := Duplication.scan_stored bounds settings.duplication.minDuplicateLines
    (Duplication.excludedRanges module) sheet.listing (min sheet.listing.size bounds.lines)
    (List.range (min sheet.listing.size bounds.lines)) {} rfl rfl
  rw [go_search]
  simp only [Duplication.search, groups, cut]
  by_cases stuck : Duplication.comparesUnplaced bounds settings.duplication.minDuplicateLines
      (min sheet.listing.size bounds.lines) (Duplication.excludedRanges module) = true
  · obtain ⟨unplaced, reaches⟩ := (compares_unplaced_iff _ _ _ _).mp stuck
    rw [if_pos stuck, go_unplaced bounds settings.duplication sheet _ _
      (searching sheet bounds notes module) rfl room unplaced reaches]
    rfl
  · have clear := unplaced_unreached bounds _ _ _ stuck
    rw [if_neg stuck, go_starts bounds settings.duplication sheet _ _
      (searching sheet bounds notes module) rfl clear]
    refine (finish_verdict settings.duplication sheet bounds _ rfl).trans ?_
    simp only [searching, Point.storing, Notes.clear, List.nil_append, decide_eq_true_eq]
    cases (Duplication.group _).foldlM (Duplication.reportGroup
      settings.duplication.similarityThreshold sheet.listing sheet.file) ⟨[], []⟩ <;> rfl

theorem inspect_search (notes : Notes) (outside : Bool) (module : Module) :
    inspect settings sheet .duplication notes module =
      examine settings sheet outside module .duplication :=
  search_verdict settings sheet Duplication.usualBounds (by decide) notes module

end Whole

end RefactorAdvice.Rules.Inspector
