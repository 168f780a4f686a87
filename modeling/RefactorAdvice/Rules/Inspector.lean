import RefactorAdvice.Rules.Examiner

/-!
An examiner that is kept: one for a family and a sheet, which examines one module after another.
It goes move by move. What it has at hand stays with it when an examination ends, fails or is
broken off, and each family clears a part of its own before the next module.
-/

namespace RefactorAdvice.Rules.Inspector

open Code

structure Notes where
  findings : List Finding := []
  warnings : List String := []
  /-- Whether it counts as being in a function, and in a loop. -/
  inFunction : Bool := false
  inLoop : Bool := false
  /-- The loops gone into, the last first. -/
  loops : List Node := []
  scopes : Performance.Scopes := []
  /-- Whether it knows what stands around a node. -/
  mapped : Bool := false
  excluded : List Duplication.Excluded := []
  blocks : List Duplication.Block := []
  stored : Nat := 0
  linesCut : Bool := false
  blocksCut : Bool := false

def Notes.clear (notes : Notes) : Family → Notes
  | .performance =>
    { notes with findings := [], inLoop := false, loops := [], scopes := [], mapped := false }
  | .contextManager => { notes with findings := [], mapped := false }
  | .duplication =>
    { notes with
      findings := [], warnings := [], excluded := [], blocks := [], stored := 0
      linesCut := false, blocksCut := false }
  | _ => { notes with findings := [], warnings := [] }

/--
Where an examination has come to: the notes, and what it forgets when it is over. That is what
to go back to at the end of each function it is in, and the ranges it has reported.
-/
structure Point where
  notes : Notes
  outer : List Bool := []
  taken : List (Int × Int) := []

/-- A failure tells the point at which the examination stopped. -/
abbrev Progress := Except (Failure × Point) Point

abbrev Move := Point → Progress

def go (p : Point) (moves : List Move) : Progress := moves.foldlM (fun q move => move q) p

def reached : Progress → Point
  | .ok p => p
  | .error (_, p) => p

def verdict : Progress → Except Failure Verdict
  | .ok p => .ok ⟨p.notes.findings, p.notes.warnings⟩
  | .error (failure, _) => .error failure

section Walk

def Point.add (p : Point) (findings : List Finding) : Point :=
  { p with notes := { p.notes with findings := p.notes.findings ++ findings } }

def say (sheet : Sheet) (p : Point) (n : Except Failure Notice) : Progress :=
  match n >>= fun n => sheet.listing.publish sheet.file n with
  | .ok found => .ok (p.add found.toList)
  | .error failure => .error (failure, p)

def Point.arrive (p : Point) (around : List Node) (node : Node) : Family → Point
  | .booleanLogic =>
    if node.isFunction then
      { p with
        notes := { p.notes with inFunction := true }
        outer := p.notes.inFunction :: p.outer }
    else p
  | .performance =>
    let notes := { p.notes with scopes := p.notes.scopes.step (.enter around node) }
    if node.isLoop then
      { p with notes := { notes with loops := node :: notes.loops, inLoop := true } }
    else { p with notes }
  | _ => p

def Point.depart (p : Point) (around : List Node) (node : Node) : Family → Point
  | .booleanLogic =>
    if node.isFunction then
      match p.outer with
      | [] => p
      | before :: outer => { p with notes := { p.notes with inFunction := before }, outer }
    else p
  | .performance =>
    let notes := { p.notes with scopes := p.notes.scopes.step (.leave around node) }
    if node.isLoop then
      let loops := notes.loops.tail
      { p with notes := { notes with loops, inLoop := !loops.isEmpty } }
    else { p with notes }
  | _ => p

def Notes.around (notes : Notes) (around : List Node) : List Node :=
  if notes.mapped then around else []

def Notes.loopsAround (notes : Notes) : List Node := if notes.inLoop then notes.loops else []

def remarks (settings : Settings) (listing : Listing) (notes : Notes) (family : Family) :
    Visit → Notices
  | .enter around node =>
    match family with
    | .complexity =>
      match Complexity.Subject.of? node with
      | some f => (Complexity.check settings.complexity f).map .ok
      | none => []
    | .performance =>
      let seen :=
        match node with
        | .stmt (.augAssign ..) => notes.loopsAround
        | _ => notes.around around
      Performance.check settings.performance
        (fun span rule => listing.silencesAt span (some rule.code)) notes.scopes (.enter seen node)
    | .booleanLogic =>
      ((BooleanLogic.check settings.booleanLogic notes.inFunction node).map .ok).toList
    | .loops => Loops.check node
    | .duplication => []
    | .contextManager => ((ContextManager.check (notes.around around) node).map .ok).toList
    | .controlFlow => ((ControlFlow.check node).map .ok).toList
    | .dictOperations => DictOperations.check node
    | .comparisons => Comparisons.check node
  | .leave around node =>
    match family with
    | .performance =>
      Performance.check settings.performance
        (fun span rule => listing.silencesAt span (some rule.code)) notes.scopes
        (.leave around node)
    | _ => []

def speak (settings : Settings) (sheet : Sheet) (family : Family) (visit : Visit) : Move := fun p =>
  (remarks settings sheet.listing p.notes family visit).foldlM (say sheet) p

def visitMoves (settings : Settings) (sheet : Sheet) (family : Family) : Visit → List Move
  | .enter around node =>
    [fun p => .ok (p.arrive around node family), speak settings sheet family (.enter around node)]
  | .leave around node =>
    [speak settings sheet family (.leave around node), fun p => .ok (p.depart around node family)]

def walkMoves (settings : Settings) (sheet : Sheet) (family : Family) (module : Module) :
    List Move :=
  (module.tree.visits []).flatMap (visitMoves settings sheet family)

def mapNodes : Move := fun p => .ok { p with notes := { p.notes with mapped := true } }

end Walk

section Search
variable (bounds : Duplication.Bounds) (settings : Settings.Duplication) (sheet : Sheet)

def exclude (module : Module) : Move := fun p =>
  .ok { p with notes := { p.notes with excluded := Duplication.excludedRanges module } }

def countLines : Move := fun p =>
  if bounds.lines < sheet.listing.size then
    .ok { p with notes := { p.notes with linesCut := true } }
  else .ok p

def tryStart : Move := fun p =>
  if bounds.blocks ≤ p.notes.stored then
    .ok { p with notes := { p.notes with blocksCut := true } }
  else .ok p

def store (start : Nat) (length : Int) : Move := fun p =>
  if p.notes.blocksCut then .ok p
  else if Duplication.reachesUnplaced (start + 1) (start + length) p.notes.excluded then
    .error (Duplication.missingStart, p)
  else
    match Duplication.block? settings.minDuplicateLines p.notes.excluded sheet.listing start
        length with
    | some b =>
      .ok { p with
        notes := { p.notes with blocks := p.notes.blocks ++ [b], stored := p.notes.stored + 1 } }
    | none => .ok p

def startMoves (total start : Nat) : List Move :=
  tryStart bounds ::
    (Duplication.lengths bounds settings.minDuplicateLines total start).map
      (store settings sheet start)

def announce (origin : Duplication.Block) (p : Point) (b : Duplication.Block) : Progress :=
  if Duplication.reports settings.similarityThreshold sheet.listing origin b p.taken then
    match Duplication.finding sheet.listing sheet.file origin b with
    | .ok found => .ok { p.add [found] with taken := (↑b.first, b.last) :: p.taken }
    | .error failure => .error (failure, p)
  else .ok p

def announceGroup (p : Point) : List Duplication.Block → Progress
  | [] => .ok p
  | origin :: later => later.foldlM (announce settings sheet origin) p

def compareBlocks : Move := fun p =>
  (Duplication.group p.notes.blocks).foldlM (announceGroup settings sheet) p

def warn : Move := fun p =>
  .ok { p with notes := { p.notes with
    warnings := p.notes.warnings ++
      ((if p.notes.linesCut then [Duplication.linesWarning bounds] else []) ++
        (if p.notes.blocksCut then [Duplication.blocksWarning bounds] else [])) } }

def searchMoves (module : Module) : List Move :=
  let total := min sheet.listing.size bounds.lines
  exclude module :: countLines bounds sheet ::
    (List.range total).flatMap (startMoves bounds settings sheet total) ++
    [compareBlocks settings sheet, warn bounds]

end Search

section Histories
variable (settings : Settings) (sheet : Sheet) (family : Family)

def moves (module : Module) : List Move :=
  match family with
  | .duplication => searchMoves Duplication.usualBounds settings.duplication sheet module
  | .performance => mapNodes :: walkMoves settings sheet .performance module
  | .contextManager => mapNodes :: walkMoves settings sheet .contextManager module
  | family => walkMoves settings sheet family module

/--
The examination of a module, up to its end or broken off after a number of moves, as where the
next one needs something of a node that is not there.
-/
structure Attempt where
  module : Module
  stop : Option Nat := none

def Attempt.moves (a : Attempt) : List Move :=
  match a.stop with
  | none => Inspector.moves settings sheet family a.module
  | some count => (Inspector.moves settings sheet family a.module).take count

def attempt (notes : Notes) (a : Attempt) : Progress :=
  go ⟨notes.clear family, [], []⟩ (a.moves settings sheet family)

def notesAfter (history : List Attempt) : Notes :=
  history.foldl (fun notes a => (reached (attempt settings sheet family notes a)).notes) {}

def inspect (notes : Notes) (module : Module) : Except Failure Verdict :=
  verdict (attempt settings sheet family notes { module })

end Histories

end RefactorAdvice.Rules.Inspector
