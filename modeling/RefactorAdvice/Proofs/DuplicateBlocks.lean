import RefactorAdvice.Rules.Duplication

/-!
Blocks that a search for duplicates keeps, and their groups. A kept block is a range of the
lines searched, of a searched length and clear of the excluded ranges; kept blocks come in the
order of their first lines. The table of groups is a partition of them by normal form, each
group in the order of the blocks.
-/

namespace RefactorAdvice.Rules.Duplication

open Code

section Ranges

def Apart (first last otherFirst otherLast : Int) : Prop := last < otherFirst ∨ otherLast < first

theorem overlap_false_iff (first last otherFirst otherLast : Int) :
    overlap first last otherFirst otherLast = false ↔ Apart first last otherFirst otherLast := by
  simp only [overlap, Apart, Bool.and_eq_false_iff, decide_eq_false_iff_not, Int.not_le]

theorem apart_comm (first last otherFirst otherLast : Int) :
    Apart first last otherFirst otherLast ↔ Apart otherFirst otherLast first last := by
  simp only [Apart, or_comm]

theorem overlaps_any_false_iff (first last : Int) (ranges : List (Int × Int)) :
    overlapsAny first last ranges = false ↔
      ∀ range ∈ ranges, Apart first last range.1 range.2 := by
  simp only [overlapsAny, List.any_eq_false, Bool.not_eq_true, overlap_false_iff]

theorem meets_false_iff (first last : Int) (e : Excluded) :
    e.meets first last = false ↔ ∀ start, e.first = some start → Apart first last start e.last := by
  cases place : e.first with
  | none => simp [Excluded.meets, place]
  | some start => simp [Excluded.meets, place, overlap_false_iff]

theorem mem_integers_iff (low high n : Int) : n ∈ integers low high ↔ low ≤ n ∧ n ≤ high := by
  simp only [integers, List.mem_map, List.mem_range]
  constructor
  · rintro ⟨offset, inside, rfl⟩
    omega
  · rintro ⟨above, below⟩
    exact ⟨(n - low).toNat, by omega, by omega⟩

end Ranges

section Admission

/--
A range that a search takes up: within the lines searched, of a searched length, and sharing
no line with an excluded range.
-/
structure Admitted (bounds : Bounds) (least : Int) (excluded : List Excluded) (l : Listing)
    (first : Nat) (last : Int) : Prop where
  first_pos : 1 ≤ first
  first_le : first ≤ min l.size bounds.lines
  last_le : last ≤ (min l.size bounds.lines : Nat)
  least_le : least ≤ last - first + 1
  length_le : last - first + 1 ≤ bounds.blockSize
  clear : ∀ e ∈ excluded, ∀ start, e.first = some start → Apart first last start e.last

def normalOf (l : Listing) (first : Nat) (last : Int) : String :=
  normalForm (l.slice (first - 1) last).toList

structure Faithful (bounds : Bounds) (least : Int) (excluded : List Excluded) (l : Listing)
    (b : Block) : Prop where
  admitted : Admitted bounds least excluded l b.first b.last
  normal_eq : b.normal = normalOf l b.first b.last
  normal_ne : b.normal ≠ ""

variable {bounds : Bounds} {least : Int} {excluded : List Excluded} {l : Listing}

theorem block_some (start : Nat) (length : Int) (b : Block)
    (built : block? least excluded l start length = some b) :
    (∀ e ∈ excluded, e.meets (start + 1) (start + length) = false) ∧
      b.first = start + 1 ∧ b.last = start + length ∧
      b.normal = normalForm (l.slice start (start + length)).toList ∧ b.normal ≠ "" := by
  simp only [block?] at built
  split at built
  · cases built
  · rename_i clear
    split at built
    · split at built
      · cases built
      · rename_i filled
        cases built
        refine ⟨?_, rfl, rfl, rfl, ?_⟩
        · simpa only [List.any_eq_true, not_exists, not_and, Bool.not_eq_true] using clear
        · simpa only [String.isEmpty_iff] using filled
    · cases built

theorem blocks_at_first (total start : Nat) (b : Block)
    (member : b ∈ blocksAt bounds least excluded l total start) : b.first = start + 1 := by
  obtain ⟨length, _, built⟩ := List.mem_filterMap.mp member
  exact (block_some start length b built).2.1

theorem blocks_at_faithful (start : Nat) (b : Block) (inside : start < min l.size bounds.lines)
    (member : b ∈ blocksAt bounds least excluded l (min l.size bounds.lines) start) :
    Faithful bounds least excluded l b := by
  obtain ⟨length, ranged, built⟩ := List.mem_filterMap.mp member
  obtain ⟨clear, firstEq, lastEq, normalEq, filled⟩ := block_some start length b built
  obtain ⟨above, below⟩ := (mem_integers_iff _ _ _).mp ranged
  refine ⟨?_, ?_, filled⟩
  · rw [firstEq, lastEq]
    refine ⟨by omega, by omega, by omega, by omega, by omega, ?_⟩
    intro e excludedRange
    simpa using (meets_false_iff _ _ e).mp (clear e excludedRange)
  · simpa [normalOf, firstEq, lastEq] using normalEq

end Admission

section Gathering

-- Giving up drops whole starts from the end, never a block between two kept ones.
theorem gather_exact (limit : Nat) (at_ : Nat → List Block) (kept : Nat) (starts : List Nat) :
    ∃ reached, reached <+: starts ∧ (gather limit at_ kept starts).1 = reached.flatMap at_ := by
  induction starts generalizing kept with
  | nil => exact ⟨[], List.prefix_rfl, rfl⟩
  | cons start rest ih =>
    by_cases full : limit ≤ kept
    · exact ⟨[], List.nil_prefix, by simp [gather, full]⟩
    · obtain ⟨reached, leading, same⟩ := ih (kept + (at_ start).length)
      refine ⟨start :: reached, (List.prefix_cons_inj start).mpr leading, ?_⟩
      simp [gather, full, same]

def stored (bounds : Bounds) (least : Int) (excluded : List Excluded) (l : Listing) : List Block :=
  (gather bounds.blocks (blocksAt bounds least excluded l (min l.size bounds.lines)) 0
    (List.range (min l.size bounds.lines))).1

variable (bounds : Bounds) (least : Int) (excluded : List Excluded) (l : Listing)

theorem stored_faithful (b : Block) (member : b ∈ stored bounds least excluded l) :
    Faithful bounds least excluded l b := by
  obtain ⟨reached, leading, same⟩ := gather_exact bounds.blocks
    (blocksAt bounds least excluded l (min l.size bounds.lines)) 0
    (List.range (min l.size bounds.lines))
  rw [stored, same] at member
  obtain ⟨start, starts, here⟩ := List.mem_flatMap.mp member
  have inside : start < min l.size bounds.lines :=
    List.mem_range.mp (leading.subset starts)
  exact blocks_at_faithful start b inside here

theorem stored_ordered :
    (stored bounds least excluded l).Pairwise fun a b => a.first ≤ b.first := by
  obtain ⟨reached, leading, same⟩ := gather_exact bounds.blocks
    (blocksAt bounds least excluded l (min l.size bounds.lines)) 0
    (List.range (min l.size bounds.lines))
  rw [stored, same, List.pairwise_flatMap]
  constructor
  · intro start _
    refine List.pairwise_iff_forall_sublist.mpr ?_
    intro a b both
    have left := both.subset List.mem_cons_self
    have right := both.subset (List.mem_cons_of_mem a List.mem_cons_self)
    have same : a.first = b.first :=
      (blocks_at_first _ start a left).trans (blocks_at_first _ start b right).symm
    exact Nat.le_of_eq same
  · have increasing : reached.Pairwise (· < ·) :=
      List.pairwise_lt_range.sublist leading.sublist
    refine increasing.imp ?_
    intro start later before a left b right
    rw [blocks_at_first _ start a left, blocks_at_first _ later b right]
    omega

end Gathering

section Groups

def sharing (normal : String) (blocks : List Block) : List Block :=
  blocks.filter fun b => b.normal == normal

/-- What a table of blocks holds: their normal forms as they appear, and under each its blocks. -/
structure Represents (blocks : List Block) (g : Groups) : Prop where
  order_eq : g.order.reverse = (blocks.map Block.normal).eraseDups
  members_eq : ∀ normal, g.members[normal]? =
    if normal ∈ blocks.map Block.normal then some (sharing normal blocks).reverse else none

theorem sharing_unseen (normal : String) (blocks : List Block)
    (unseen : normal ∉ blocks.map Block.normal) : sharing normal blocks = [] := by
  refine List.filter_eq_nil_iff.mpr ?_
  intro b member agrees
  apply unseen
  rw [← beq_iff_eq.mp agrees]
  exact List.mem_map_of_mem member

theorem erase_dups_snoc (normals : List String) (normal : String) :
    (normals ++ [normal]).eraseDups =
      if normal ∈ normals then normals.eraseDups else normals.eraseDups ++ [normal] := by
  rw [List.eraseDups_append, List.cons_removeAll]
  by_cases seen : normal ∈ normals
  · rw [if_pos seen, List.contains_iff_mem.mpr seen]
    exact List.append_nil _
  · have unseen : normals.contains normal = false := by
      rw [← Bool.not_eq_true, List.contains_iff_mem]
      exact seen
    rw [if_neg seen, unseen]
    rfl

theorem empty_represents : Represents [] Groups.empty := by
  refine ⟨rfl, ?_⟩
  intro normal
  simp [Groups.empty]

-- A normal form that is new has no blocks yet, so that both branches put the block before those
-- that share its normal form.
theorem insert_eq (blocks : List Block) (g : Groups) (b : Block) (rep : Represents blocks g) :
    g.insert b =
      { order := if b.normal ∈ blocks.map Block.normal then g.order else b.normal :: g.order
        members := g.members.insert b.normal (b :: (sharing b.normal blocks).reverse) } := by
  have held := rep.members_eq b.normal
  by_cases seen : b.normal ∈ blocks.map Block.normal
  · rw [if_pos seen] at held
    simp only [Groups.insert, held, if_pos seen]
  · rw [if_neg seen] at held
    simp only [Groups.insert, held, if_neg seen, sharing_unseen b.normal blocks seen,
      List.reverse_nil]

theorem insert_represents (blocks : List Block) (g : Groups) (b : Block)
    (rep : Represents blocks g) : Represents (blocks ++ [b]) (g.insert b) := by
  rw [insert_eq blocks g b rep]
  constructor
  · rw [List.map_append, List.map_singleton, erase_dups_snoc, ← rep.order_eq]
    by_cases seen : b.normal ∈ blocks.map Block.normal
    · rw [if_pos seen, if_pos seen]
    · rw [if_neg seen, if_neg seen, List.reverse_cons]
  · intro normal
    rw [Std.HashMap.getElem?_insert, rep.members_eq]
    by_cases same : b.normal = normal
    · simp [sharing, same]
    · simp [sharing, same, Ne.symm same]

theorem inserts_represent (blocks more : List Block) (g : Groups) (rep : Represents blocks g) :
    Represents (blocks ++ more) (more.foldl Groups.insert g) := by
  induction more generalizing blocks g with
  | nil => simpa using rep
  | cons b rest ih =>
    have next := ih (blocks ++ [b]) (g.insert b) (insert_represents blocks g b rep)
    simpa using next

/-- Grouping through the table is filtering by each normal form in the order of appearance. -/
theorem group_exact (blocks : List Block) :
    group blocks = (blocks.map Block.normal).eraseDups.map fun normal => sharing normal blocks := by
  have rep := inserts_represent [] blocks Groups.empty empty_represents
  rw [List.nil_append] at rep
  rw [group, Groups.toLists, rep.order_eq]
  refine List.map_congr_left ?_
  intro normal member
  have appears : normal ∈ blocks.map Block.normal := List.mem_eraseDups.mp member
  rw [Std.HashMap.getD_eq_getD_getElem?, rep.members_eq, if_pos appears]
  simp

end Groups

section Scanning

theorem recall_normal (memory : Memory) (text : String) :
    (memory.recall text).1 = normalForm text.toList := by
  unfold Memory.recall
  split
  · rename_i normal held
    exact memory.coherent text normal held
  · rfl

structure Scan.Took (before : Scan) (blocks : List Block) (after : Scan) : Prop where
  groups_eq : after.groups = blocks.foldl Groups.insert before.groups
  stored_eq : after.stored = before.stored + blocks.length

theorem took_append {before middle after : Scan} {blocks more : List Block}
    (first : before.Took blocks middle) (second : middle.Took more after) :
    before.Took (blocks ++ more) after := by
  constructor
  · rw [second.groups_eq, first.groups_eq, List.foldl_append]
  · rw [second.stored_eq, first.stored_eq, List.length_append, Nat.add_assoc]

variable (bounds : Bounds) (least : Int) (excluded : List Excluded) (l : Listing)

-- What the scan remembers is always the normal form, so it takes up the block itself.
theorem take_took (start : Nat) (scan : Scan) (length : Int) :
    scan.Took (block? least excluded l start length).toList
      (scan.take least excluded l start length) := by
  have normal := recall_normal scan.memory (l.slice start (start + length))
  unfold Scan.take block?
  dsimp only
  rw [normal]
  split
  · exact ⟨rfl, rfl⟩
  · split
    · split
      · exact ⟨rfl, rfl⟩
      · exact ⟨rfl, rfl⟩
    · exact ⟨rfl, rfl⟩

theorem take_all_took (start : Nat) (lengths : List Int) (scan : Scan) :
    scan.Took (lengths.filterMap (block? least excluded l start))
      (lengths.foldl (Scan.take least excluded l start) scan) := by
  induction lengths generalizing scan with
  | nil => exact ⟨rfl, rfl⟩
  | cons length rest ih =>
    have both := took_append (take_took least excluded l start scan length) (ih _)
    cases built : block? least excluded l start length with
    | none =>
      rw [built] at both
      rwa [List.filterMap_cons_none built]
    | some b =>
      rw [built] at both
      rwa [List.filterMap_cons_some built]

/-- A scan through starts takes up what is gathered from them, and is given up when that is. -/
theorem run_took (total : Nat) (starts : List Nat) (scan : Scan) :
    scan.Took (gather bounds.blocks (blocksAt bounds least excluded l total) scan.stored starts).1
        (Scan.run bounds least excluded l total scan starts).1 ∧
      (Scan.run bounds least excluded l total scan starts).2 =
        (gather bounds.blocks (blocksAt bounds least excluded l total) scan.stored starts).2 := by
  induction starts generalizing scan with
  | nil => exact ⟨⟨rfl, rfl⟩, rfl⟩
  | cons start rest ih =>
    rw [Scan.run, gather]
    by_cases full : bounds.blocks ≤ scan.stored
    · rw [if_pos full, if_pos full]
      exact ⟨⟨rfl, rfl⟩, rfl⟩
    · rw [if_neg full, if_neg full]
      have here : scan.Took (blocksAt bounds least excluded l total start)
          (scan.takeAt bounds least excluded l total start) :=
        take_all_took least excluded l start (lengths bounds least total start) scan
      obtain ⟨later, cut⟩ := ih (scan.takeAt bounds least excluded l total start)
      rw [here.stored_eq] at later cut
      exact ⟨took_append here later, cut⟩

theorem scan_stored (total : Nat) (starts : List Nat) (scan : Scan)
    (ungrouped : scan.groups = .empty) (unstored : scan.stored = 0) :
    (Scan.run bounds least excluded l total scan starts).1.groups.toLists =
        group (gather bounds.blocks (blocksAt bounds least excluded l total) 0 starts).1 ∧
      (Scan.run bounds least excluded l total scan starts).1.stored =
        (gather bounds.blocks (blocksAt bounds least excluded l total) 0 starts).1.length ∧
      (Scan.run bounds least excluded l total scan starts).2 =
        (gather bounds.blocks (blocksAt bounds least excluded l total) 0 starts).2 := by
  obtain ⟨took, cut⟩ := run_took bounds least excluded l total starts scan
  rw [unstored] at took cut
  refine ⟨?_, ?_, cut⟩
  · rw [took.groups_eq, ungrouped, group]
  · rw [took.stored_eq, unstored, Nat.zero_add]

end Scanning

end RefactorAdvice.Rules.Duplication
