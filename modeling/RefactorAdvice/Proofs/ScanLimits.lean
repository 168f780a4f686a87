import Mathlib.Data.List.Induction
import Mathlib.Data.List.Nodup
import RefactorAdvice.Proofs.DuplicateReports
import RefactorAdvice.Proofs.PhysicalLines

/-!
What the limits of a search for duplicates leave out. A search that warns of nothing is complete:
it stores exactly the ranges that qualify, each once, with those of its normal form. The limit on
blocks is looked at only between starts, so that a start begun below it is finished above it: the
blocks of all other starts are fewer than the limit, but those stored may be more.
-/

namespace RefactorAdvice.Rules.Duplication

open Code

section Lines

-- The open line stands backwards in front of the first line of what is still to come.
theorem meaningful_from (line cs : List Char) :
    meaningfulLines.go line cs =
      ((Text.physicalLines cs).modifyHead (line.reverse ++ ·)).countP isMeaningfulLine := by
  induction cs generalizing line with
  | nil =>
    rw [meaningfulLines.go, Text.physical_nil]
    simp [List.countP_cons]
  | cons c rest ih =>
    by_cases feeds : c = '\n'
    · subst feeds
      rw [meaningfulLines.go, Text.physical_feed, ih, List.modifyHead_cons, List.countP_cons,
        List.append_nil, Nat.add_comm]
      cases Text.physicalLines rest <;> rfl
    · obtain ⟨first, later, split, joined⟩ := Text.physical_other c rest feeds
      have onward : meaningfulLines.go line (c :: rest) = meaningfulLines.go (c :: line) rest := by
        rw [meaningfulLines.go]
        exact feeds
      rw [onward, ih, split, joined]
      simp

theorem meaningful_physical (code : List Char) :
    meaningfulLines code = (Text.physicalLines code).countP isMeaningfulLine := by
  rw [meaningfulLines, meaningful_from]
  cases Text.physicalLines code <;> rfl

end Lines

section Eligibility

def tellingLines (l : Listing) (first last : Nat) : Nat :=
  (Text.physicalLines (l.slice (first - 1) last).toList).countP isMeaningfulLine

/--
A range of lines that a complete search stores: of a searched length, clear of the excluded ranges,
with enough lines that say something, and with a normal form.
-/
structure Eligible (blockSize : Nat) (least : Int) (excluded : List Excluded) (l : Listing)
    (first last : Nat) : Prop where
  first_pos : 1 ≤ first
  first_le : first ≤ last
  last_le : last ≤ l.size
  least_le : least ≤ last - first + 1
  length_le : last - first + 1 ≤ (blockSize : Int)
  clear : ∀ e ∈ excluded, ∀ start, e.first = some start → Apart first last start e.last
  telling : least ≤ tellingLines l first last
  normal_ne : normalOf l first last ≠ ""

def blockOf (l : Listing) (first last : Nat) : Block := ⟨first, last, normalOf l first last⟩

/-- Lines that hold no line feed are told one by one. -/
theorem telling_lines_unbroken (l : Listing) (whole : ∀ line ∈ l.lines.toList, '\n' ∉ line.toList)
    (first last : Nat) (pos : 1 ≤ first) (le : first ≤ last) (inside : last ≤ l.size) :
    tellingLines l first last =
      ((l.lines.toList.drop (first - 1)).take (last + 1 - first)).countP
        fun line => isMeaningfulLine line.toList := by
  have taken : (l.lines.extract (first - 1) (l.stopIndex last)).toList =
      (l.lines.toList.drop (first - 1)).take (last + 1 - first) := by
    have stop : l.stopIndex last = last := by
      rw [Listing.stopIndex, if_neg (by omega), Int.toNat_natCast]
    rw [stop, Array.toList_extract, List.extract_eq_take_drop]
    congr 1
    omega
  have filled : (l.lines.toList.drop (first - 1)).take (last + 1 - first) ≠ [] := by
    rw [← List.length_pos_iff, List.length_take, List.length_drop, Array.length_toList]
    rw [Listing.size] at inside
    omega
  rw [tellingLines, Listing.slice, taken, String.toList_intercalate, Text.physicalLines]
  rw [show "\n".toList = ['\n'] from rfl, List.splitOn_intercalate, List.countP_map]
  · rfl
  · intro line member
    obtain ⟨text, listed, rfl⟩ := List.mem_map.mp member
    exact whole text (List.mem_of_mem_drop (List.mem_of_mem_take listed))
  · simpa using filled

variable {bounds : Bounds} {least : Int} {excluded : List Excluded} {l : Listing}

theorem block_eq_some_iff (start : Nat) (length : Int) (b : Block) :
    block? least excluded l start length = some b ↔
      (∀ e ∈ excluded, e.meets (start + 1) (start + length) = false) ∧
        least ≤ (meaningfulLines (l.slice start (start + length)).toList : Int) ∧
        normalForm (l.slice start (start + length)).toList ≠ "" ∧
        b = ⟨start + 1, start + length, normalForm (l.slice start (start + length)).toList⟩ := by
  have clear : (excluded.any (·.meets (start + 1) (start + length)) = false) ↔
      ∀ e ∈ excluded, e.meets (start + 1) (start + length) = false := by
    simp only [List.any_eq_false, Bool.not_eq_true]
  unfold block?
  dsimp only
  cases met : excluded.any (·.meets (start + 1) (start + length)) with
  | true =>
    have unclear : ¬ ∀ e ∈ excluded, e.meets (start + 1) (start + length) = false := by
      rw [← clear, met]
      exact Bool.noConfusion
    simp [unclear]
  | false =>
    rw [← clear, met]
    simp only [isMeaningful, Bool.false_eq_true, ↓reduceIte, decide_eq_true_eq, true_and]
    split
    · rename_i enough
      split
      · rename_i empty
        simp [String.isEmpty_iff.mp empty]
      · rename_i filled
        have present : normalForm (l.slice start (start + length)).toList ≠ "" :=
          fun none => filled (String.isEmpty_iff.mpr none)
        simp only [Option.some.injEq, enough, true_and, present, ne_eq, not_false_eq_true]
        exact eq_comm
    · rename_i few
      simp [few]

/-- The blocks that start at an index are those of the eligible ranges there. -/
theorem mem_blocks_at_iff (positive : 1 ≤ least) (start : Nat) (inside : start < l.size)
    (b : Block) :
    b ∈ blocksAt bounds least excluded l l.size start ↔
      ∃ last, b = blockOf l (start + 1) last ∧
        Eligible bounds.blockSize least excluded l (start + 1) last := by
  have telling : ∀ last : Nat, tellingLines l (start + 1) last =
      meaningfulLines (l.slice start last).toList := by
    intro last
    rw [tellingLines, meaningful_physical, Nat.add_sub_cancel]
  rw [blocksAt, List.mem_filterMap]
  constructor
  · rintro ⟨length, ranged, built⟩
    obtain ⟨above, below⟩ := (mem_integers_iff _ _ _).mp ranged
    obtain ⟨clear, enough, present, rfl⟩ := (block_eq_some_iff start length b).mp built
    obtain ⟨last, lastEq⟩ : ∃ last : Nat, (start : Int) + length = last :=
      ⟨(start + length).toNat, by omega⟩
    rw [lastEq] at clear enough present ⊢
    refine ⟨last, rfl, by omega, by omega, by omega, by omega, by omega, ?_, ?_, present⟩
    · intro e excludedRange
      exact (meets_false_iff _ _ e).mp (clear e excludedRange)
    · rw [telling]
      exact enough
  · rintro ⟨last, rfl, eligible⟩
    have lastEq : (start : Int) + (last - start) = last := by omega
    have tall := eligible.least_le
    have short := eligible.length_le
    have below := eligible.last_le
    refine ⟨last - start, (mem_integers_iff _ _ _).mpr ⟨by omega, by omega⟩, ?_⟩
    rw [block_eq_some_iff, lastEq]
    refine ⟨?_, ?_, eligible.normal_ne, rfl⟩
    · intro e excludedRange
      exact (meets_false_iff _ _ e).mpr (eligible.clear e excludedRange)
    · rw [← telling]
      exact eligible.telling

end Eligibility

section Gathering

variable (limit : Nat) (at_ : Nat → List Block)

theorem gather_uncut (kept : Nat) (starts : List Nat)
    (whole : (gather limit at_ kept starts).2 = false) :
    (gather limit at_ kept starts).1 = starts.flatMap at_ := by
  induction starts generalizing kept with
  | nil => rfl
  | cons start rest ih =>
    rw [gather] at whole ⊢
    by_cases full : limit ≤ kept
    · rw [if_pos full] at whole
      cases whole
    · rw [if_neg full] at whole ⊢
      rw [List.flatMap_cons, ← ih _ whole]

theorem gather_cut (kept : Nat) (starts : List Nat)
    (cut : (gather limit at_ kept starts).2 = true) :
    limit ≤ kept + (gather limit at_ kept starts).1.length := by
  induction starts generalizing kept with
  | nil => cases cut
  | cons start rest ih =>
    rw [gather] at cut ⊢
    by_cases full : limit ≤ kept
    · rw [if_pos full]
      exact Nat.le_add_right_of_le full
    · rw [if_neg full] at cut ⊢
      have later := ih _ cut
      rw [List.length_append]
      omega

theorem gather_full (kept : Nat) (starts : List Nat) (full : limit ≤ kept) :
    (gather limit at_ kept starts).1 = [] := by
  cases starts with
  | nil => rfl
  | cons start rest => rw [gather, if_pos full]

-- A start is only begun below the limit, so whatever came before the last one is below it.
theorem gather_before (kept : Nat) (starts : List Nat) (room : kept < limit) :
    (gather limit at_ kept starts).1 = [] ∨
      ∃ before start, before ++ [start] <+: starts ∧
        (gather limit at_ kept starts).1 = (before ++ [start]).flatMap at_ ∧
        kept + (before.flatMap at_).length < limit := by
  induction starts generalizing kept with
  | nil => exact Or.inl rfl
  | cons start rest ih =>
    right
    rw [gather, if_neg (Nat.not_le.mpr room)]
    by_cases full : limit ≤ kept + (at_ start).length
    · refine ⟨[], start, List.prefix_append [start] rest, ?_, by simpa using room⟩
      simp [gather_full limit at_ _ rest full]
    · rcases ih _ (Nat.not_le.mp full) with none | ⟨before, last, leading, same, below⟩
      · exact ⟨[], start, List.prefix_append [start] rest, by simp [none], by simpa using room⟩
      · refine ⟨start :: before, last, (List.prefix_cons_inj start).mpr leading, by simp [same], ?_⟩
        rw [List.flatMap_cons, List.length_append]
        omega

-- If the first starts add a number of blocks each and reach the limit, so does a multiple of it.
theorem gather_even (count kept : Nat) (early late : List Nat)
    (each : ∀ start ∈ early, (at_ start).length = count) (room : kept < limit)
    (reached : limit ≤ kept + count * early.length) :
    ∃ steps, (gather limit at_ kept (early ++ late)).1.length = count * steps ∧
      limit ≤ kept + count * steps ∧ kept + count * steps < limit + count := by
  induction early generalizing kept with
  | nil =>
    rw [List.length_nil, Nat.mul_zero] at reached
    omega
  | cons start rest ih =>
    rw [List.cons_append, gather, if_neg (Nat.not_le.mpr room), List.length_append,
      each start List.mem_cons_self]
    by_cases full : limit ≤ kept + count
    · refine ⟨1, ?_, by omega, by omega⟩
      rw [gather_full limit at_ _ _ full, List.length_nil]
      omega
    · rw [List.length_cons, Nat.mul_add, Nat.mul_one] at reached
      obtain ⟨steps, same, above, below⟩ := ih (kept + count)
        (fun other member => each other (List.mem_cons_of_mem start member)) (by omega) (by omega)
      refine ⟨steps + 1, ?_⟩
      rw [same, Nat.mul_add, Nat.mul_one]
      omega

end Gathering

section Groups

theorem erase_dups_nodup (normals : List String) : normals.eraseDups.Nodup := by
  induction normals using List.reverseRecOn with
  | nil => exact List.nodup_nil
  | append_singleton rest normal ih =>
    rw [erase_dups_snoc]
    by_cases seen : normal ∈ rest
    · rw [if_pos seen]
      exact ih
    · rw [if_neg seen]
      refine List.nodup_append.mpr ⟨ih, List.nodup_singleton normal, ?_⟩
      intro old member new only same
      rw [List.mem_singleton.mp only] at same
      exact seen (List.mem_eraseDups.mp (same ▸ member))

-- The blocks of one normal form are those of them all, less the blocks of the others.
theorem sharing_perm (blocks : List Block) (normals : List String) (distinct : normals.Nodup) :
    (normals.flatMap fun normal => sharing normal blocks).Perm
      (blocks.filter fun b => b.normal ∈ normals) := by
  induction normals with
  | nil => simp
  | cons normal rest ih =>
    obtain ⟨fresh, others⟩ := List.nodup_cons.mp distinct
    have parted := List.filter_append_perm (fun b : Block => b.normal == normal)
      (blocks.filter fun b => b.normal ∈ normal :: rest)
    have first : (blocks.filter fun b => b.normal ∈ normal :: rest).filter
        (fun b => b.normal == normal) = sharing normal blocks := by
      rw [List.filter_filter, sharing]
      refine List.filter_congr fun b _ => ?_
      by_cases same : b.normal = normal <;> simp [same]
    have later : (blocks.filter fun b => b.normal ∈ normal :: rest).filter
        (fun b => !(b.normal == normal)) = blocks.filter fun b => b.normal ∈ rest := by
      rw [List.filter_filter]
      refine List.filter_congr fun b _ => ?_
      by_cases same : b.normal = normal
      · simp [same, fresh]
      · simp [same]
    rw [first, later] at parted
    rw [List.flatMap_cons]
    exact ((ih others).append_left _).trans parted

theorem group_perm (blocks : List Block) : (group blocks).flatten.Perm blocks := by
  have parts := sharing_perm blocks _ (erase_dups_nodup (blocks.map Block.normal))
  have all : (blocks.filter fun b => b.normal ∈ (blocks.map Block.normal).eraseDups) = blocks := by
    refine List.filter_eq_self.mpr fun b member => ?_
    simpa using ⟨b, member, rfl⟩
  rw [all] at parts
  rwa [group_exact, ← List.flatMap_def]

theorem group_members (blocks : List Block) (members : List Block)
    (listed : members ∈ group blocks) :
    members ≠ [] ∧ ∀ b ∈ members, ∀ c ∈ blocks, c ∈ members ↔ c.normal = b.normal := by
  rw [group_exact] at listed
  obtain ⟨normal, among, rfl⟩ := List.mem_map.mp listed
  have inside : ∀ b ∈ blocks, b ∈ sharing normal blocks ↔ b.normal = normal := by
    intro b member
    simp [sharing, member]
  constructor
  · obtain ⟨b, member, same⟩ := List.mem_map.mp (List.mem_eraseDups.mp among)
    exact List.ne_nil_of_mem ((inside b member).mpr same)
  · intro b member c stored
    have known := (List.mem_filter.mp member).1
    rw [inside c stored, (inside b known).mp member]

end Groups

section Warnings

def TellsTruncation (warning : String) : Prop :=
  "Duplication scan truncated".toList <+: warning.toList

theorem lines_warning_tells (bounds : Bounds) : TellsTruncation (linesWarning bounds) := by
  unfold TellsTruncation linesWarning
  refine ⟨" at ".toList ++ (toString bounds.lines).toList ++
    " lines; results may be incomplete".toList, ?_⟩
  simp only [String.toList_append]
  rfl

theorem blocks_warning_tells (bounds : Bounds) : TellsTruncation (blocksWarning bounds) := by
  unfold TellsTruncation blocksWarning
  refine ⟨" at ".toList ++ (toString bounds.blocks).toList ++
    " blocks; results may be incomplete".toList, ?_⟩
  simp only [String.toList_append]
  rfl

-- Whatever the numbers are, the words behind them differ in their last but one letter.
theorem warnings_differ (bounds : Bounds) : linesWarning bounds ≠ blocksWarning bounds := by
  intro same
  have chars := congrArg String.toList same
  unfold linesWarning blocksWarning at chars
  simp only [String.toList_append] at chars
  have ending : ∀ (front word : List Char),
      front ++ (word ++ "s; results may be incomplete".toList) =
      front ++ word ++ "s; results may be incomplete".toList :=
    fun front word => (List.append_assoc front word _).symm
  have cut := List.append_cancel_right
    ((ending _ " line".toList).symm.trans (chars.trans (ending _ " block".toList)))
  have last := congrArg List.getLast? cut
  have lineEnd : " line".toList.getLast? = some 'e' := by decide
  have blockEnd : " block".toList.getLast? = some 'k' := by decide
  simp only [List.getLast?_append, lineEnd, blockEnd, Option.some_or] at last
  exact absurd last (by decide)

end Warnings

section Once

variable (bounds : Bounds) (least : Int) (excluded : List Excluded) (l : Listing)

def Block.range (b : Block) : Nat × Int := (b.first, b.last)

theorem integers_nodup (low high : Int) : (integers low high).Nodup := by
  refine List.Nodup.map ?_ List.nodup_range
  intro a b same
  dsimp only at same
  omega

-- At one start blocks differ in where they end, and at two in where they begin.
theorem ranges_nodup (total : Nat) (starts : List Nat) (distinct : starts.Nodup) :
    ((starts.flatMap (blocksAt bounds least excluded l total)).map Block.range).Nodup := by
  rw [List.map_flatMap, List.nodup_flatMap]
  constructor
  · intro start _
    rw [blocksAt, List.map_filterMap]
    refine List.Nodup.filterMap ?_ (integers_nodup _ _)
    intro length other range first second
    obtain ⟨b, built, rfl⟩ := Option.map_eq_some_iff.mp first
    obtain ⟨c, again, same⟩ := Option.map_eq_some_iff.mp second
    obtain ⟨_, _, lastEq, _⟩ := block_some start length b built
    obtain ⟨_, _, otherEq, _⟩ := block_some start other c again
    have ends : c.last = b.last := congrArg Prod.snd same
    omega
  · refine distinct.imp ?_
    intro start other apart range first second
    obtain ⟨b, member, rfl⟩ := List.mem_map.mp first
    obtain ⟨c, again, same⟩ := List.mem_map.mp second
    have firsts : c.first = b.first := congrArg Prod.fst same
    rw [blocks_at_first _ start b member, blocks_at_first _ other c again] at firsts
    omega

end Once

section Completeness

variable (bounds : Bounds) (settings : Settings.Duplication) (l : Listing) (file : String)
  (module : Module)

theorem search_outcome (found : Outcome)
    (searched : search bounds settings l file module = .ok found) :
    found.stored = (kept bounds settings l module).length ∧
      found.groups = group (kept bounds settings l module) ∧
      found.warnings = cautions bounds settings l module := by
  rw [search_exact] at searched
  split at searched
  · cases searched
  · obtain ⟨findings, _, same⟩ := (bind_ok_iff _ _ _).mp searched
    cases same
    exact ⟨rfl, rfl, rfl⟩

def givenUp : Bool :=
  (gather bounds.blocks (blocksAt bounds settings.minDuplicateLines (excludedRanges module) l
    (min l.size bounds.lines)) 0 (List.range (min l.size bounds.lines))).2

theorem lines_warned_iff :
    linesWarning bounds ∈ cautions bounds settings l module ↔ bounds.lines < l.size := by
  rw [cautions, List.mem_append]
  constructor
  · rintro (first | second)
    · split at first
      · assumption
      · cases first
    · split at second
      · exact absurd (List.mem_singleton.mp second) (warnings_differ bounds)
      · cases second
  · intro long
    rw [if_pos long]
    exact Or.inl List.mem_cons_self

theorem blocks_warned_iff :
    blocksWarning bounds ∈ cautions bounds settings l module ↔
      givenUp bounds settings l module = true := by
  rw [cautions, List.mem_append]
  constructor
  · rintro (first | second)
    · split at first
      · exact absurd (List.mem_singleton.mp first).symm (warnings_differ bounds)
      · cases first
    · split at second
      · rename_i cut
        exact cut
      · cases second
  · intro cut
    rw [givenUp] at cut
    rw [if_pos cut]
    exact Or.inr List.mem_cons_self

/-- An outcome in which the eligible ranges are stored, each once, with those of its normal form. -/
structure Complete (found : Outcome) : Prop where
  stored_iff : ∀ b, b ∈ found.groups.flatten ↔ ∃ first last, b = blockOf l first last ∧
    Eligible bounds.blockSize settings.minDuplicateLines (excludedRanges module) l first last
  once : (found.groups.flatten.map Block.range).Nodup
  grouped : ∀ members ∈ found.groups, members ≠ [] ∧
    ∀ b ∈ members, ∀ c ∈ found.groups.flatten, c ∈ members ↔ c.normal = b.normal
  counted : found.stored = found.groups.flatten.length

variable {bounds settings l module}

theorem kept_whole (short : l.size ≤ bounds.lines)
    (whole : givenUp bounds settings l module = false) :
    kept bounds settings l module = (List.range l.size).flatMap
      (blocksAt bounds settings.minDuplicateLines (excludedRanges module) l l.size) := by
  rw [givenUp] at whole
  rw [kept, stored, gather_uncut _ _ _ _ whole, Nat.min_eq_left short]

theorem mem_kept_iff (positive : 1 ≤ settings.minDuplicateLines) (short : l.size ≤ bounds.lines)
    (whole : givenUp bounds settings l module = false) (b : Block) :
    b ∈ kept bounds settings l module ↔ ∃ first last, b = blockOf l first last ∧
      Eligible bounds.blockSize settings.minDuplicateLines (excludedRanges module) l first
        last := by
  rw [kept_whole short whole, List.mem_flatMap]
  constructor
  · rintro ⟨start, among, member⟩
    obtain ⟨last, same, eligible⟩ :=
      (mem_blocks_at_iff positive start (List.mem_range.mp among) b).mp member
    exact ⟨start + 1, last, same, eligible⟩
  · rintro ⟨first, last, same, eligible⟩
    obtain ⟨start, rfl⟩ : ∃ start, first = start + 1 :=
      ⟨first - 1, (Nat.sub_add_cancel eligible.first_pos).symm⟩
    have inside : start < l.size := Nat.lt_of_lt_of_le eligible.first_le eligible.last_le
    exact ⟨start, List.mem_range.mpr inside,
      (mem_blocks_at_iff positive start inside b).mpr ⟨last, same, eligible⟩⟩

end Completeness

section Guarantees

variable (bounds : Bounds) (settings : Settings) (l : Listing) (file : String) (module : Module)

theorem complete_of_untruncated (positive : 1 ≤ settings.duplication.minDuplicateLines)
    (found : Outcome) (searched : search bounds settings.duplication l file module = .ok found)
    (short : l.size ≤ bounds.lines)
    (whole : givenUp bounds settings.duplication l module = false) :
    Complete bounds settings.duplication l module found := by
  obtain ⟨counted, grouped, _⟩ :=
    search_outcome bounds settings.duplication l file module found searched
  have perm := group_perm (kept bounds settings.duplication l module)
  rw [← grouped] at perm
  constructor
  · intro b
    rw [perm.mem_iff]
    exact mem_kept_iff positive short whole b
  · rw [(perm.map Block.range).nodup_iff, kept_whole short whole]
    exact ranges_nodup _ _ _ _ _ _ List.nodup_range
  · intro members listed
    rw [grouped] at listed
    obtain ⟨filled, same⟩ := group_members _ members listed
    refine ⟨filled, fun b member c stored => same b member c ?_⟩
    exact perm.mem_iff.mp stored
  · rw [counted, perm.length_eq]

/--
A search that is not cut short by a failure stores all eligible ranges unless it warns, and it warns
of lines or of blocks only if there are more lines, or at least as many blocks, as the limit says.
-/
theorem unwarned_search_complete (valid : settings.fault? = none) :
    (search bounds settings.duplication l file module = .error missingStart ∧
      ∃ e ∈ excludedRanges module, e.first = none) ∨
    ∃ found, search bounds settings.duplication l file module = .ok found ∧
      ((∀ warning ∈ found.warnings, ¬ TellsTruncation warning) →
        Complete bounds settings.duplication l module found) ∧
      (linesWarning bounds ∈ found.warnings → bounds.lines < l.size) ∧
      (blocksWarning bounds ∈ found.warnings → bounds.blocks ≤ found.stored) ∧
      ((∀ line ∈ l.lines.toList, '\n' ∉ line.toList) → ∀ first last : Nat,
        1 ≤ first → first ≤ last → last ≤ l.size →
        tellingLines l first last =
          ((l.lines.toList.drop (first - 1)).take (last + 1 - first)).countP
            fun line => isMeaningfulLine line.toList) := by
  have least := Settings.least_lines settings valid
  have positive : 1 ≤ settings.duplication.minDuplicateLines := by omega
  rcases search_total bounds settings.duplication l file module positive with
    stuck | ⟨found, searched⟩
  · exact Or.inl stuck
  · obtain ⟨counted, _, warned⟩ :=
      search_outcome bounds settings.duplication l file module found searched
    refine Or.inr ⟨found, searched, ?_, ?_, ?_, ?_⟩
    · intro silent
      rw [warned] at silent
      refine complete_of_untruncated bounds settings l file module positive found searched ?_ ?_
      · refine Nat.not_lt.mp fun long => ?_
        exact silent _ ((lines_warned_iff _ _ _ _).mpr long) (lines_warning_tells bounds)
      · refine Bool.eq_false_iff.mpr fun cut => ?_
        exact silent _ ((blocks_warned_iff _ _ _ _).mpr cut) (blocks_warning_tells bounds)
    · rw [warned]
      exact (lines_warned_iff _ _ _ _).mp
    · rw [warned, blocks_warned_iff, counted]
      intro cut
      have reached := gather_cut _ _ _ _ cut
      rwa [Nat.zero_add] at reached
    · exact fun whole first last => telling_lines_unbroken l whole first last

def remarks : Listing := .ofList ["f(a)", "  # then", "g(b)"]

theorem unwarned_search_complete_remarks :
    ∃ found, search usualBounds { minDuplicateLines := 2 } remarks "a.py" ⟨[]⟩ = .ok found ∧
      found.warnings = [] ∧
      Complete usualBounds { minDuplicateLines := 2 } remarks ⟨[]⟩ found ∧
      blockOf remarks 1 3 ∈ found.groups.flatten := by
  rcases unwarned_search_complete usualBounds { duplication := { minDuplicateLines := 2 } } remarks
    "a.py" ⟨[]⟩ (by decide +kernel) with ⟨_, e, member, _⟩ | ⟨found, searched, complete, _⟩
  · cases member
  · obtain ⟨_, _, warned⟩ := search_outcome _ _ _ _ _ found searched
    have silent : found.warnings = [] := by
      rw [warned]
      decide +kernel
    have whole := complete (by simp [silent])
    refine ⟨found, searched, silent, whole, (whole.stored_iff _).mpr ⟨1, 3, rfl, ?_⟩⟩
    refine ⟨by decide, by decide, by decide, by decide, by decide, ?_, ?_, ?_⟩
    · intro e excluded
      cases excluded
    · decide +kernel
    · decide +kernel

end Guarantees

section Guard

variable (bounds : Bounds) (settings : Settings) (l : Listing) (file : String) (module : Module)

theorem blocks_at_few (least : Int) (excluded : List Excluded) (total start : Nat) :
    (blocksAt bounds least excluded l total start).length ≤
      (bounds.blockSize + 1 - least).toNat := by
  refine Nat.le_trans (List.length_filterMap_le _ _) ?_
  rw [lengths, integers, List.length_map, List.length_range]
  omega

-- The starts before the last one keep below the limit together, and only the last may go past it.
theorem stored_past_one_start (room : 0 < bounds.blocks) (least : Int) (excluded : List Excluded) :
    (stored bounds least excluded l).length <
        bounds.blocks + (bounds.blockSize + 1 - least).toNat ∧
      ∃ first, (∀ b ∈ stored bounds least excluded l, b.first ≤ first) ∧
        (stored bounds least excluded l).countP (fun b => b.first != first) < bounds.blocks := by
  rcases gather_before bounds.blocks (blocksAt bounds least excluded l (min l.size bounds.lines)) 0
    (List.range (min l.size bounds.lines)) room with none | ⟨before, start, leading, same, below⟩
  · rw [stored, none]
    refine ⟨?_, 0, by simp, by simpa using room⟩
    rw [List.length_nil]
    omega
  · have increasing : (before ++ [start]).Pairwise (· < ·) :=
      List.pairwise_lt_range.sublist leading.sublist
    have earlier : ∀ other ∈ before, other < start := by
      intro other member
      exact (List.pairwise_append.mp increasing).2.2 other member start List.mem_cons_self
    have firsts : ∀ b ∈ before.flatMap
        (blocksAt bounds least excluded l (min l.size bounds.lines)), b.first < start + 1 := by
      intro b member
      obtain ⟨other, among, here⟩ := List.mem_flatMap.mp member
      rw [blocks_at_first _ other b here]
      exact Nat.succ_lt_succ (earlier other among)
    have last : ∀ b ∈ blocksAt bounds least excluded l (min l.size bounds.lines) start,
        b.first = start + 1 := fun b member => blocks_at_first _ start b member
    have few := blocks_at_few bounds l least excluded (min l.size bounds.lines) start
    rw [Nat.zero_add] at below
    rw [stored, same, List.flatMap_append, List.flatMap_singleton]
    refine ⟨?_, start + 1, ?_, ?_⟩
    · rw [List.length_append]
      omega
    · intro b member
      rcases List.mem_append.mp member with old | new
      · exact Nat.le_of_lt (firsts b old)
      · exact Nat.le_of_eq (last b new)
    · have atLast : (blocksAt bounds least excluded l (min l.size bounds.lines) start).countP
          (fun b => b.first != start + 1) = 0 := by
        rw [List.countP_eq_zero]
        intro b member
        simp [last b member]
      rw [List.countP_append, atLast, Nat.add_zero]
      exact Nat.lt_of_le_of_lt List.countP_le_length below

/--
The blocks that a search stores are fewer than the limit but for those of one first line, the last
it has come to, and so go past the limit by less than the number of lengths that are searched.
-/
theorem stored_within_one_start (valid : settings.fault? = none) (room : 0 < bounds.blocks) :
    (search bounds settings.duplication l file module = .error missingStart ∧
      ∃ e ∈ excludedRanges module, e.first = none) ∨
    ∃ found, search bounds settings.duplication l file module = .ok found ∧
      found.stored <
        bounds.blocks + (bounds.blockSize + 1 - settings.duplication.minDuplicateLines).toNat ∧
      ∃ first, (∀ b ∈ found.groups.flatten, b.first ≤ first) ∧
        found.groups.flatten.countP (fun b => b.first != first) < bounds.blocks := by
  have least := Settings.least_lines settings valid
  rcases search_total bounds settings.duplication l file module (by omega) with
    stuck | ⟨found, searched⟩
  · exact Or.inl stuck
  · obtain ⟨counted, grouped, _⟩ :=
      search_outcome bounds settings.duplication l file module found searched
    have perm := group_perm (kept bounds settings.duplication l module)
    obtain ⟨below, first, firsts, others⟩ := stored_past_one_start bounds l room
      settings.duplication.minDuplicateLines (excludedRanges module)
    refine Or.inr ⟨found, searched, counted ▸ below, first, ?_, ?_⟩
    · intro b member
      rw [grouped, perm.mem_iff] at member
      exact firsts b member
    · rw [grouped, perm.countP_eq]
      exact others

def rows (count : Nat) : Listing := .ofList (List.replicate count "x")

theorem rows_slice (count start length : Nat) (inside : start + length ≤ count) :
    (rows count).slice start (start + length) = "\n".intercalate (List.replicate length "x") := by
  have stop : (rows count).stopIndex (start + length) = start + length := by
    rw [Listing.stopIndex, if_neg (by omega)]
    omega
  rw [Listing.slice, stop, Array.toList_extract, List.extract_eq_take_drop]
  congr 1
  simp only [rows, Listing.ofList, List.drop_replicate, List.take_replicate]
  congr 1
  omega

theorem row_texts_stored : (List.range 19).all (fun n =>
    let text := ['\n'].intercalate (List.replicate (n + 2) ['x'])
    isMeaningful 2 text && normalForm text != "") = true := by
  decide +kernel

theorem rows_block (count start : Nat) (length : Int) (least : 2 ≤ length) (most : length ≤ 20)
    (inside : start + length ≤ count) :
    (block? 2 [] (rows count) start length).isSome = true := by
  obtain ⟨n, rfl⟩ : ∃ n : Nat, length = (n + 2 : Nat) := ⟨(length - 2).toNat, by omega⟩
  have fine := List.all_eq_true.mp row_texts_stored n (List.mem_range.mpr (by omega))
  obtain ⟨enough, present⟩ := (Bool.and_eq_true _ _).mp fine
  have text : ((rows count).slice start (start + (n + 2 : Nat))).toList =
      ['\n'].intercalate (List.replicate (n + 2) ['x']) := by
    rw [rows_slice count start (n + 2) (by omega)]
    simp
  rw [Option.isSome_iff_exists]
  refine ⟨_, (block_eq_some_iff start _ _).mpr ⟨by simp, ?_, ?_, rfl⟩⟩
  · rw [text]
    exact of_decide_eq_true enough
  · rw [text]
    simpa using present

theorem rows_blocks_at (count start : Nat) (inside : start + 20 ≤ count) :
    (blocksAt usualBounds 2 [] (rows count) count start).length = 19 := by
  have sizes : lengths usualBounds 2 count start = integers 2 20 := by
    rw [lengths, Nat.min_eq_left]
    · rfl
    · change 20 ≤ count - start
      omega
  rw [blocksAt, sizes, List.length_filterMap_eq_countP, List.countP_eq_length.mpr]
  · rfl
  · intro length ranged
    obtain ⟨above, below⟩ := (mem_integers_iff _ _ _).mp ranged
    exact rows_block count start length above below (by omega)

/-- A search stores more blocks than the usual limit in a file of equal lines. -/
theorem stored_past_limit :
    ∃ found, search usualBounds { minDuplicateLines := 2 } (rows 2700) "a.py" ⟨[]⟩ = .ok found ∧
      found.stored = 50008 ∧ usualBounds.blocks < found.stored := by
  rcases search_total usualBounds { minDuplicateLines := 2 } (rows 2700) "a.py" ⟨[]⟩
    (by decide) with
    ⟨_, e, member, _⟩ | ⟨found, searched⟩
  · cases member
  · obtain ⟨counted, _, _⟩ := search_outcome _ _ _ _ _ found searched
    have size : min (rows 2700).size usualBounds.lines = 2681 + 19 := by
      rw [Listing.size, rows, Listing.ofList, List.size_toArray, List.length_replicate]
      rfl
    obtain ⟨steps, same, above, below⟩ := gather_even usualBounds.blocks
      (blocksAt usualBounds 2 [] (rows 2700) 2700) 19 0 (List.range 2681)
      ((List.range 19).map (2681 + ·)) (by
        intro start among
        exact rows_blocks_at 2700 start (by have := List.mem_range.mp among; omega))
      (by decide) (by rw [List.length_range]; decide)
    have total : found.stored = 19 * steps := by
      rw [counted, kept, stored, size, List.range_add]
      exact same
    have limit : usualBounds.blocks = 50000 := rfl
    rw [limit] at above below ⊢
    exact ⟨found, searched, by omega, by omega⟩

theorem stored_within_one_start_echo :
    ∃ found, search { usualBounds with blocks := 1 } { minDuplicateLines := 2 } echo "a.py" ⟨[]⟩ =
        .ok found ∧ found.stored = 3 ∧ found.stored < 1 + 19 := by
  rcases stored_within_one_start { usualBounds with blocks := 1 }
    { duplication := { minDuplicateLines := 2 } } echo "a.py" ⟨[]⟩ (by decide +kernel)
    (by decide) with
    ⟨_, e, member, _⟩ | ⟨found, searched, below, _⟩
  · cases member
  · obtain ⟨counted, _, _⟩ := search_outcome _ _ _ _ _ found searched
    refine ⟨found, searched, ?_, below⟩
    rw [counted]
    decide +kernel

end Guard

end RefactorAdvice.Rules.Duplication
