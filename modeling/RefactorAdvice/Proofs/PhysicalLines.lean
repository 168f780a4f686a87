import RefactorAdvice.Proofs.Containment

/-!
Two ways to count lines. A module is read with line feeds as the only breaks between lines, and
its nodes are placed by that count; lines are quoted and searched for directives in a listing
that is cut at other characters as well. Both name the same lines up to a number exactly if no
such character stands in a line up to that number. Below one, a finding is placed on one line
and gets the text, and the silence, of another.
-/

namespace RefactorAdvice

open Suppression

namespace Text

def physicalLines (cs : List Char) : List (List Char) := cs.splitOn '\n'

def Unbroken (line : List Char) : Prop := ∀ c ∈ line, isLineBreak c = false

/-- Line feeds are the only breaks in the first lines of a text. -/
def PlainThrough (count : Nat) (cs : List Char) : Prop :=
  ∀ line ∈ (physicalLines cs).take count, Unbroken line

instance (line : List Char) : Decidable (Unbroken line) :=
  List.decidableBAll (fun c => isLineBreak c = false) line

instance (count : Nat) (cs : List Char) : Decidable (PlainThrough count cs) :=
  List.decidableBAll Unbroken ((physicalLines cs).take count)

section Feeds

theorem physical_nil : physicalLines [] = [[]] := rfl

theorem physical_feed (cs : List Char) : physicalLines ('\n' :: cs) = [] :: physicalLines cs := by
  rw [physicalLines, List.splitOn_cons_eq_if_modifyHead]
  rfl

-- A character that is no line feed joins the first line, and there always is one.
theorem physical_other (c : Char) (cs : List Char) (other : c ≠ '\n') :
    ∃ first later, physicalLines cs = first :: later ∧
      physicalLines (c :: cs) = (c :: first) :: later := by
  obtain ⟨first, later, split⟩ := List.exists_cons_of_ne_nil (List.splitOn_ne_nil '\n' cs)
  refine ⟨first, later, split, ?_⟩
  simp [physicalLines, List.splitOn_cons_eq_if_modifyHead, other, split]

theorem plain_feed (count : Nat) (cs : List Char) (plain : PlainThrough (count + 1) ('\n' :: cs)) :
    PlainThrough count cs := by
  rw [PlainThrough, physical_feed, List.take_succ_cons] at plain
  exact fun line member => plain line (List.mem_cons_of_mem _ member)

theorem plain_other (count : Nat) (c : Char) (cs : List Char) (other : c ≠ '\n')
    (plain : PlainThrough (count + 1) (c :: cs)) :
    isLineBreak c = false ∧ PlainThrough (count + 1) cs := by
  obtain ⟨first, later, split, joined⟩ := physical_other c cs other
  rw [PlainThrough, joined, List.take_succ_cons, List.forall_mem_cons] at plain
  rw [PlainThrough, split, List.take_succ_cons, List.forall_mem_cons]
  obtain ⟨here, below⟩ := plain
  exact ⟨here c List.mem_cons_self, fun d member => here d (List.mem_cons_of_mem c member), below⟩

end Feeds

section Breaks

theorem lines_onto_append (done older : List (List Char)) (line cs : List Char) :
    linesOnto (done ++ older) line cs = older.reverse ++ linesOnto done line cs := by
  induction done, line, cs using linesOnto.induct with
  | case1 done line => cases line <;> simp [linesOnto]
  | case2 done line rest ih => simpa [linesOnto] using ih
  | case3 done line c rest _ breaks ih => simpa [linesOnto, breaks] using ih
  | case4 done line c rest _ breaks ih => simpa [linesOnto, breaks] using ih

theorem lines_onto_feed (line cs : List Char) :
    linesOnto [] line ('\n' :: cs) = line.reverse :: lines cs := by
  have feeds : isLineBreak '\n' = true := rfl
  simpa [linesOnto, feeds, lines] using lines_onto_append [] [line.reverse] [] cs

theorem lines_onto_other (line cs : List Char) (c : Char) (other : isLineBreak c = false) :
    linesOnto [] line (c :: cs) = linesOnto [] (c :: line) cs := by
  have kept : c ≠ '\r' := by
    rintro rfl
    cases other
  simp [linesOnto, other, kept]

theorem ended_unbroken (done : List (List Char)) (line : List Char)
    (closed : ∀ l ∈ done, Unbroken l) (opened : Unbroken line) :
    ∀ l ∈ line.reverse :: done, Unbroken l := by
  refine List.forall_mem_cons.mpr ⟨fun c member => ?_, closed⟩
  exact opened c (List.mem_reverse.mp member)

theorem lines_onto_unbroken (done : List (List Char)) (line cs : List Char)
    (closed : ∀ l ∈ done, Unbroken l) (opened : Unbroken line) :
    ∀ l ∈ linesOnto done line cs, Unbroken l := by
  have fresh : Unbroken [] := fun c member => nomatch member
  induction done, line, cs using linesOnto.induct with
  | case1 done line =>
    intro l member
    rw [linesOnto, List.mem_reverse] at member
    split at member
    · exact closed l member
    · exact ended_unbroken done line closed opened l member
  | case2 done line rest ih =>
    rw [linesOnto]
    exact ih (ended_unbroken done line closed opened) fresh
  | case3 done line c rest apart breaks ih =>
    rw [linesOnto.eq_3 done line c rest apart, if_pos breaks]
    exact ih (ended_unbroken done line closed opened) fresh
  | case4 done line c rest apart breaks ih =>
    rw [linesOnto.eq_3 done line c rest apart, if_neg breaks]
    exact ih closed (List.forall_mem_cons.mpr ⟨eq_false_of_ne_true breaks, opened⟩)

theorem lines_unbroken (cs : List Char) : ∀ l ∈ lines cs, Unbroken l :=
  lines_onto_unbroken [] [] cs (fun _ member => nomatch member) (fun _ member => nomatch member)

end Breaks

section Agreement

theorem head_kept (ls : List (List Char)) :
    ls.modifyHead (List.reverse [] ++ ·) = ls := congrFun List.modifyHead_id ls

-- The open line stands before the first of the lines still to come, in both counts.
theorem lines_onto_physical (line cs : List Char) (index : Nat)
    (plain : PlainThrough (index + 1) cs) :
    (linesOnto [] line cs).getD index [] =
      ((physicalLines cs).modifyHead (line.reverse ++ ·)).getD index [] := by
  induction cs generalizing line index with
  | nil =>
    rw [physical_nil]
    cases line <;> cases index <;> simp [linesOnto]
  | cons c rest ih =>
    by_cases feeds : c = '\n'
    · subst feeds
      rw [lines_onto_feed, physical_feed]
      cases index with
      | zero => simp
      | succ index =>
        have below := ih [] index (plain_feed _ _ plain)
        rw [head_kept] at below
        exact below
    · obtain ⟨other, plainRest⟩ := plain_other index c rest feeds plain
      obtain ⟨first, later, split, joined⟩ := physical_other c rest feeds
      rw [lines_onto_other line rest c other, ih (c :: line) index plainRest, joined, split]
      simp

theorem lines_physical (cs : List Char) (index : Nat) (plain : PlainThrough (index + 1) cs) :
    (lines cs).getD index [] = (physicalLines cs).getD index [] := by
  rw [lines, lines_onto_physical [] cs index plain, head_kept]

end Agreement

end Text

def Listing.physical (text : List Char) : Listing :=
  .ofList ((Text.physicalLines text).map String.ofList)

section Numbers

theorem listed_line (lines : List (List Char)) (index : Nat) :
    (Listing.ofList (lines.map String.ofList)).line (index + 1) =
      String.ofList (lines.getD index []) := by
  simp only [Listing.line, Listing.ofList]
  cases within : lines[index]? <;> simp [within]

theorem plain_mono (few many : Nat) (text : List Char) (fewer : few ≤ many)
    (plain : Text.PlainThrough many text) : Text.PlainThrough few text :=
  fun line member => plain line (List.take_subset_take_left _ fewer member)

/-- Both counts agree through a line exactly if line feeds are the only breaks through it. -/
theorem lines_agree_iff (text : List Char) (count : Nat) :
    (∀ number ≤ count, (Listing.ofText text).line number = (Listing.physical text).line number) ↔
      Text.PlainThrough count text := by
  constructor
  · intro agree line member
    obtain ⟨index, below, rfl⟩ := List.mem_take_iff_getElem.mp member
    have same := agree (index + 1) (by omega)
    rw [Listing.ofText, Listing.physical, listed_line, listed_line] at same
    -- What the listing names here is one of its lines or nothing, and neither holds a break.
    have unbroken : Text.Unbroken ((Text.lines text).getD index []) := by
      rw [List.getD_eq_getElem?_getD]
      cases found : (Text.lines text)[index]? with
      | none => exact fun c inside => nomatch inside
      | some listed => exact Text.lines_unbroken text listed (List.mem_of_getElem? found)
    have within : index < (Text.physicalLines text).length := by omega
    rw [String.ofList_injective same, List.getD_eq_getElem?_getD,
      List.getElem?_eq_getElem within] at unbroken
    exact unbroken
  · intro plain number upTo
    cases number with
    | zero => rfl
    | succ index =>
      have plainHere := plain_mono (index + 1) count text upTo plain
      rw [Listing.ofText, Listing.physical, listed_line, listed_line,
        Text.lines_physical text index plainHere]

end Numbers

section Reports

-- A search for duplicates quotes a whole block, and names one rule; the rest is published.
theorem examine_quoted (settings : Settings) (sheet : Rules.Sheet) (outside : Bool)
    (module : Code.Module) (family : Family) (verdict : Rules.Verdict)
    (examined : Rules.examine settings sheet outside module family = .ok verdict)
    (f : Finding) (member : f ∈ verdict.findings) (single : f.rule ≠ Rule.duplicateBlock.code) :
    f.snippet = sheet.listing.snippet f.line := by
  by_cases onTree : family = .duplication
  · subst onTree
    obtain ⟨found, searched, same⟩ := (bind_ok_iff _ _ _).mp examined
    cases same
    obtain ⟨_, made⟩ := Rules.Duplication.search_ok _ _ _ _ _ found searched
    obtain ⟨pair, _, given⟩ := map_ok_source _ _ _ made f member
    exact absurd (Rules.Duplication.finding_shows _ _ pair.1 pair.2 f given).1 single
  · rw [Rules.examine_eq _ _ _ _ family onTree] at examined
    obtain ⟨findings, published, same⟩ := (bind_ok_iff _ _ _).mp examined
    cases same
    obtain ⟨n, _, given⟩ := Listing.publish_all_source _ _ _ _ published f member
    obtain ⟨line, _, _, drafted⟩ := (Listing.publish_some_iff _ _ n f).mp given
    have lineEq : (f.line : Int) = line := congrArg Finding.Draft.line drafted
    have quoted := congrArg Finding.Draft.snippet drafted
    simp only [Finding.draft, Listing.draftOf] at quoted
    rw [quoted, Int.ofNat_inj.mp lineEq]

theorem reported_source (names : Code.CharNames) (store : Store) (settings : Settings)
    (path : Path) (f : Finding)
    (member : f ∈ ((Plan.usual names store settings).read path).1.findings) :
    ∃ text module, store.Opens names path text module ∧ ∃ family verdict,
      Rules.examine settings ⟨path.text, .ofText text⟩ false module family = .ok verdict ∧
        f ∈ verdict.findings := by
  rw [usual_under] at member
  rcases store.opens_or_closed names path with ⟨text, module, opened⟩ | closed
  · rw [read_opened _ path text module _ opened rfl, examined_findings] at member
    obtain ⟨family, _, left⟩ := List.mem_flatMap.mp member
    refine ⟨text, module, opened, family, ?_⟩
    rw [Conduct.usual] at left
    cases examined : Rules.examine settings ⟨path.text, .ofText text⟩ false module family with
    | ok verdict =>
      rw [examined] at left
      exact ⟨verdict, rfl, left⟩
    | error failure =>
      rw [examined] at left
      cases left
  · obtain ⟨_, _, unread⟩ :=
      read_closed (.under names store settings (.usual settings)) path closed
    rw [unread] at member
    cases member

/--
A finding that is not about a repeated block quotes the line of its number in the listing. If
line feeds are the only breaks through that line, it is also the line of its number in the text
as the module was read, and no directive there silences the rule of the finding.
-/
theorem reported_on_physical_line (names : Code.CharNames) (store : Store) (settings : Settings)
    (path : Path) (f : Finding)
    (member : f ∈ ((Plan.usual names store settings).read path).1.findings)
    (single : f.rule ≠ Rule.duplicateBlock.code) :
    ∃ text module, store.Opens names path text module ∧
      f.snippet = (Listing.ofText text).snippet f.line ∧
      (Text.PlainThrough f.line text →
        f.snippet = (Listing.physical text).snippet f.line ∧
        lineSuppresses ((Listing.physical text).line f.line) (some f.rule) = false) := by
  obtain ⟨text, module, opened, family, verdict, examined, found⟩ :=
    reported_source names store settings path f member
  have quoted := examine_quoted _ _ _ _ family verdict examined f found single
  refine ⟨text, module, opened, quoted, fun plain => ?_⟩
  have same := (lines_agree_iff text f.line).mpr plain f.line (Nat.le_refl f.line)
  have heard := (examine_unsilenced _ _ _ _ family verdict examined f found).here
  constructor
  · rw [quoted, Listing.snippet, Listing.snippet, same]
  · rw [← same]
    exact heard

def parted : String := "x==None\n\x0c\ny==None#noqa"

def partedStore : Store := { entries := [(["a.py"], .file parted.toUTF8)] }

section Parted

theorem parted_read : partedStore.read ⟨"", ["a.py"]⟩ = .ok parted.toUTF8 :=
  lone_file_read parted.toUTF8

theorem parted_source : Plan.source parted.toUTF8 = .ok parted.toList := by rfl

theorem parted_lines : Text.physicalLines parted.toList =
    ["x==None".toList, "\x0c".toList, "y==None#noqa".toList] := by
  decide

theorem parted_text (text : List Char) (module : Code.Module)
    (opened : partedStore.Opens Code.noNames ⟨"", ["a.py"]⟩ text module) :
    text = parted.toList := by
  obtain ⟨content, held, decoded⟩ := opened.decoded
  cases parted_read.symm.trans held
  exact Except.ok.inj (decoded.symm.trans parted_source)

theorem parted_reports :
    (((Plan.usual Code.noNames partedStore {}).read ⟨"", ["a.py"]⟩).1.findings.map
      fun f => (f.line, f.rule, f.snippet)) =
      [(1, "R014", some "x==None"), (3, "R014", none)] := by
  simp only [Plan.read, Plan.usual, parted_read, parted_source]
  decide +kernel

end Parted

theorem reported_on_physical_line_parted :
    ∃ f ∈ ((Plan.usual Code.noNames partedStore {}).read ⟨"", ["a.py"]⟩).1.findings,
      f.line = 1 ∧ f.rule ≠ Rule.duplicateBlock.code ∧
      Text.PlainThrough f.line parted.toList ∧
      f.snippet = (Listing.physical parted.toList).snippet f.line ∧
      lineSuppresses ((Listing.physical parted.toList).line f.line) (some f.rule) = false := by
  have listed : (1, "R014", some "x==None") ∈
      [((1 : Nat), "R014", some "x==None"), (3, "R014", none)] := List.mem_cons_self
  rw [← parted_reports] at listed
  obtain ⟨f, member, shown⟩ := List.mem_map.mp listed
  obtain ⟨lineEq, shown⟩ := Prod.mk.inj shown
  obtain ⟨ruleEq, _⟩ := Prod.mk.inj shown
  have single : f.rule ≠ Rule.duplicateBlock.code := by rw [ruleEq]; decide
  have plain : Text.PlainThrough f.line parted.toList := by
    rw [lineEq, Text.PlainThrough, parted_lines]
    decide +kernel
  obtain ⟨text, module, opened, _, placed⟩ :=
    reported_on_physical_line Code.noNames partedStore {} _ f member single
  cases parted_text text module opened
  exact ⟨f, member, lineEq, single, plain, placed plain⟩

/-- Below the form feed a finding has the number of a line that silences it, and not its text. -/
theorem reported_off_physical_line :
    ∃ f ∈ ((Plan.usual Code.noNames partedStore {}).read ⟨"", ["a.py"]⟩).1.findings,
      f.rule ≠ Rule.duplicateBlock.code ∧
      f.snippet ≠ (Listing.physical parted.toList).snippet f.line ∧
      lineSuppresses ((Listing.physical parted.toList).line f.line) (some f.rule) = true := by
  have listed : (3, "R014", none) ∈
      [((1 : Nat), "R014", some "x==None"), (3, "R014", none)] :=
    List.mem_cons_of_mem _ List.mem_cons_self
  rw [← parted_reports] at listed
  obtain ⟨f, member, shown⟩ := List.mem_map.mp listed
  obtain ⟨lineEq, shown⟩ := Prod.mk.inj shown
  obtain ⟨ruleEq, snippetEq⟩ := Prod.mk.inj shown
  refine ⟨f, member, ?_, ?_, ?_⟩
  · rw [ruleEq]
    decide
  · rw [snippetEq, lineEq, Listing.physical, parted_lines]
    decide +kernel
  · rw [lineEq, ruleEq, Listing.physical, parted_lines]
    decide +kernel

end Reports

end RefactorAdvice
