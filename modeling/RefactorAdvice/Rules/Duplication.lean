import RefactorAdvice.Rules.Duplication.Excluded
import RefactorAdvice.Rules.Duplication.Normal
import RefactorAdvice.Rules.Notice
import RefactorAdvice.Settings.Basic
import Std.Data.HashMap

/-!
Blocks of lines that occur more than once. All blocks between a least and a greatest length
are brought to normal form and grouped by it; the later members of a group are reported, as
long as they overlap neither its first member nor a block reported before.
-/

namespace RefactorAdvice.Rules.Duplication

open Code

structure Bounds where
  blockSize : Nat
  lines : Nat
  blocks : Nat
deriving DecidableEq, Inhabited

def usualBounds : Bounds := { blockSize := 20, lines := 5000, blocks := 50000 }

def overlap (first last otherFirst otherLast : Int) : Bool :=
  otherFirst ≤ last && first ≤ otherLast

def Excluded.meets (first last : Int) (e : Excluded) : Bool :=
  match e.first with
  | none => false
  | some start => overlap first last start e.last

section Blocks

structure Block where
  first : Nat
  last : Int
  normal : String
deriving DecidableEq, Inhabited

def isMeaningfulLine (line : List Char) : Bool :=
  match Text.stripLeft line with
  | [] => false
  | c :: _ => c != '#'

def meaningfulLines (code : List Char) : Nat :=
  go [] code
where
  go (line : List Char) : List Char → Nat
    | [] => if isMeaningfulLine line.reverse then 1 else 0
    | '\n' :: rest => (if isMeaningfulLine line.reverse then 1 else 0) + go [] rest
    | c :: rest => go (c :: line) rest

def isMeaningful (least : Int) (code : List Char) : Bool := least ≤ meaningfulLines code

def integers (low high : Int) : List Int :=
  (List.range (high - low + 1).toNat).map fun (n : Nat) => low + n

def block? (least : Int) (excluded : List Excluded) (l : Listing) (start : Nat) (length : Int) :
    Option Block :=
  let last : Int := start + length
  if excluded.any (·.meets (start + 1) last) then none
  else
    let code := (l.slice start last).toList
    if isMeaningful least code then
      let normal := normalForm code
      if normal.isEmpty then none else some { first := start + 1, last, normal }
    else none

def lengths (bounds : Bounds) (least : Int) (total start : Nat) : List Int :=
  integers least (min bounds.blockSize (total - start) : Nat)

def blocksAt (bounds : Bounds) (least : Int) (excluded : List Excluded) (l : Listing)
    (total start : Nat) : List Block :=
  (lengths bounds least total start).filterMap (block? least excluded l start)

/--
Blocks from each start in turn. Before a start, the search is given up if there are already as
many blocks as are kept; the answer tells whether it was.
-/
def gather (limit : Nat) (at_ : Nat → List Block) : Nat → List Nat → List Block × Bool
  | _, [] => ([], false)
  | kept, start :: rest =>
    if limit ≤ kept then ([], true)
    else
      let here := at_ start
      let (more, cut) := gather limit at_ (kept + here.length) rest
      (here ++ more, cut)

end Blocks

section Groups

structure Groups where
  order : List String
  members : Std.HashMap String (List Block)

def Groups.empty : Groups := ⟨[], ∅⟩

def Groups.insert (g : Groups) (b : Block) : Groups :=
  match g.members[b.normal]? with
  | some others => { g with members := g.members.insert b.normal (b :: others) }
  | none => ⟨b.normal :: g.order, g.members.insert b.normal [b]⟩

def Groups.toLists (g : Groups) : List (List Block) :=
  g.order.reverse.map fun normal => (g.members.getD normal []).reverse

def group (blocks : List Block) : List (List Block) :=
  (blocks.foldl Groups.insert Groups.empty).toLists

end Groups

section Scan

structure Memory where
  table : Std.HashMap String String := ∅
  coherent : ∀ text normal : String,
    table[text]? = some normal → normal = normalForm text.toList := by simp

def Memory.recall (memory : Memory) (text : String) : String × Memory :=
  match memory.table[text]? with
  | some normal => (normal, memory)
  | none =>
    let normal := normalForm text.toList
    (normal, {
      table := memory.table.insert text normal
      coherent := by
        intro other found held
        rw [Std.HashMap.getElem?_insert] at held
        split at held
        · rename_i same
          rw [← beq_iff_eq.mp same]
          exact (Option.some.inj held).symm
        · exact memory.coherent other found held })

structure Scan where
  memory : Memory := {}
  groups : Groups := .empty
  stored : Nat := 0

variable (bounds : Bounds) (least : Int) (excluded : List Excluded) (l : Listing)

def Scan.take (start : Nat) (scan : Scan) (length : Int) : Scan :=
  let last : Int := start + length
  if excluded.any (·.meets (start + 1) last) then scan
  else
    let code := l.slice start last
    if isMeaningful least code.toList then
      let (normal, memory) := scan.memory.recall code
      if normal.isEmpty then { scan with memory }
      else
        { memory
          groups := scan.groups.insert { first := start + 1, last, normal }
          stored := scan.stored + 1 }
    else scan

def Scan.takeAt (total : Nat) (scan : Scan) (start : Nat) : Scan :=
  (lengths bounds least total start).foldl (Scan.take least excluded l start) scan

/--
Goes through the starts. Before each, the scan is given up if there are as many blocks as are
kept; the answer tells whether it was.
-/
def Scan.run (total : Nat) : Scan → List Nat → Scan × Bool
  | scan, [] => (scan, false)
  | scan, start :: rest =>
    if bounds.blocks ≤ scan.stored then (scan, true)
    else Scan.run total (scan.takeAt bounds least excluded l total start) rest

end Scan

section Similarity

/-- Shared words over all words of two normal forms, without repetition; zero if one has none. -/
def similarity (a b : String) : Binary64 :=
  let left := (Text.words a.toList).eraseDups
  let right := (Text.words b.toList).eraseDups
  if left.isEmpty || right.isEmpty then .ofInt 0
  else
    let shared := (left.filter right.contains).length
    .quotient shared (left.length + right.length - shared : Nat)

end Similarity

section Reports

def silenced (l : Listing) (line : Nat) : Bool :=
  line ≤ l.size && l.silences line (some Rule.duplicateBlock.code)

structure Reported where
  findings : List Finding
  ranges : List (Int × Int)

def overlapsAny (first last : Int) (ranges : List (Int × Int)) : Bool :=
  ranges.any fun (start, stop) => overlap first last start stop

def snippet (l : Listing) (b : Block) : Option String :=
  let text := Text.stripped (l.excerpt b.first b.last)
  if text.isEmpty then none else some text

def finding (l : Listing) (file : String) (origin b : Block) : Except Failure Finding :=
  let first := b.first
  let last := b.last
  let originFirst := origin.first
  let originLast := origin.last
  Finding.ofDraft
    { file, line := b.first, column := 0, severity := Rule.duplicateBlock.severity
      rule := Rule.duplicateBlock.code
      message := s!"Duplicate code block (lines {first}-{last}) similar to lines " ++
        s!"{originFirst}-{originLast}"
      suggestion := some "Extract duplicated code to a reusable function or method"
      snippet := snippet l b, endLine := some b.last }

def reports (threshold : Binary64) (l : Listing) (origin b : Block) (taken : List (Int × Int)) :
    Bool :=
  !silenced l b.first && !overlapsAny b.first b.last taken &&
    !overlap b.first b.last origin.first origin.last &&
    threshold.lessEq (similarity origin.normal b.normal)

def reportMember (threshold : Binary64) (l : Listing) (file : String) (origin : Block)
    (done : Reported) (b : Block) : Except Failure Reported :=
  if reports threshold l origin b done.ranges then do
    let found ← finding l file origin b
    return { findings := found :: done.findings, ranges := (↑b.first, b.last) :: done.ranges }
  else .ok done

def reportGroup (threshold : Binary64) (l : Listing) (file : String) (done : Reported) :
    List Block → Except Failure Reported
  | [] => .ok done
  | origin :: later => later.foldlM (reportMember threshold l file origin) done

end Reports

section Outcome

structure Outcome where
  excluded : List Excluded
  stored : Nat
  groups : List (List Block)
  findings : List Finding
  warnings : List String

def linesWarning (bounds : Bounds) : String :=
  s!"Duplication scan truncated at {bounds.lines} lines; results may be incomplete"

def blocksWarning (bounds : Bounds) : String :=
  s!"Duplication scan truncated at {bounds.blocks} blocks; results may be incomplete"

/-- Whether looking for an overlap comes to a range that does not say where it begins. -/
def reachesUnplaced (first last : Int) : List Excluded → Bool
  | [] => false
  | e :: rest => e.first.isNone || (!e.meets first last && reachesUnplaced first last rest)

def missingStart : Failure :=
  .raised .type "'>=' not supported between instances of 'int' and 'NoneType'"

def comparesUnplaced (bounds : Bounds) (least : Int) (total : Nat) (excluded : List Excluded) :
    Bool :=
  excluded.any (·.first.isNone) &&
    (List.range total).any fun start =>
      (lengths bounds least total start).any fun length =>
        reachesUnplaced (start + 1) (start + length) excluded

def search (bounds : Bounds) (settings : Settings.Duplication) (l : Listing) (file : String)
    (module : Module) : Except Failure Outcome := do
  let excluded := excludedRanges module
  let least := settings.minDuplicateLines
  let total := min l.size bounds.lines
  if comparesUnplaced bounds least total excluded then throw missingStart
  let (scan, cut) := Scan.run bounds least excluded l total {} (List.range total)
  let groups := scan.groups.toLists
  let reported ← groups.foldlM (reportGroup settings.similarityThreshold l file) ⟨[], []⟩
  return {
    excluded
    stored := scan.stored
    groups
    findings := reported.findings.reverse
    warnings := (if bounds.lines < l.size then [linesWarning bounds] else []) ++
      (if cut then [blocksWarning bounds] else []) }

end Outcome

end RefactorAdvice.Rules.Duplication
