import RefactorAdvice.Analysis.Run
import RefactorAdvice.Proofs.DuplicateReports

/-!
What is silenced is never reported. Findings come to an analysis in two ways, as notices that
are published and as blocks that a search for duplicates picks; both look at the line of the
finding and the line above it before they let it through. Hearing the examiners and collecting
their findings adds none of its own.
-/

namespace RefactorAdvice

open Suppression

def Listing.ofText (text : List Char) : Listing := .ofList ((Text.lines text).map String.ofList)

/-- A finding that no directive speaks for, neither on its line nor on the line above. -/
structure Unsilenced (l : Listing) (f : Finding) : Prop where
  here : lineSuppresses (l.line f.line) (some f.rule) = false
  above : 1 < f.line → lineSuppresses (l.line (f.line - 1)) (some f.rule) = false

theorem unsilenced_iff (l : Listing) (f : Finding) :
    Unsilenced l f ↔ l.silences f.line (some f.rule) = false := by
  simp only [Listing.silences, Bool.or_eq_false_iff, Bool.and_eq_false_imp, decide_eq_true_eq]
  exact ⟨fun heard => ⟨heard.here, heard.above⟩, fun heard => ⟨heard.1, heard.2⟩⟩

section Origins

theorem publish_unsilenced (l : Listing) (file : String) (n : Notice) (f : Finding)
    (published : l.publish file n = .ok (some f)) : Unsilenced l f := by
  obtain ⟨line, _, heard, same⟩ := (Listing.publish_some_iff l file n f).mp published
  have lineEq : (f.line : Int) = line := congrArg Finding.Draft.line same
  have ruleEq : f.rule = n.rule := congrArg Finding.Draft.rule same
  rw [unsilenced_iff, Int.ofNat_inj.mp lineEq, ruleEq]
  exact heard

-- A silenced line is looked up only among the lines there are, and a block begins on one.
theorem search_unsilenced (bounds : Rules.Duplication.Bounds) (settings : Settings.Duplication)
    (l : Listing) (file : String) (module : Code.Module) (found : Rules.Duplication.Outcome)
    (searched : Rules.Duplication.search bounds settings l file module = .ok found)
    (f : Finding) (member : f ∈ found.findings) : Unsilenced l f := by
  obtain ⟨_, made⟩ := Rules.Duplication.search_ok bounds settings l file module found searched
  obtain ⟨pair, picked, given⟩ := map_ok_source _ _ _ made f member
  obtain ⟨ruleEq, lineEq, _⟩ := Rules.Duplication.finding_shows l file pair.1 pair.2 f given
  have repeated := Rules.Duplication.picked_pair bounds settings l module pair picked
  have present : pair.2.first ≤ l.size := by
    have := repeated.faithful.admitted.first_le
    omega
  have heard := repeated.heard
  rw [Rules.Duplication.silenced, decide_eq_true present, Bool.true_and] at heard
  rw [unsilenced_iff, lineEq, ruleEq]
  exact heard

theorem examine_unsilenced (settings : Settings) (sheet : Rules.Sheet) (outside : Bool)
    (module : Code.Module) (family : Family) (verdict : Rules.Verdict)
    (examined : Rules.examine settings sheet outside module family = .ok verdict)
    (f : Finding) (member : f ∈ verdict.findings) : Unsilenced sheet.listing f := by
  by_cases onTree : family = .duplication
  · subst onTree
    obtain ⟨found, searched, same⟩ := (bind_ok_iff _ _ _).mp examined
    cases same
    exact search_unsilenced _ _ _ _ _ found searched f member
  · rw [Rules.examine_eq _ _ _ _ family onTree] at examined
    obtain ⟨findings, published, same⟩ := (bind_ok_iff _ _ _).mp examined
    cases same
    obtain ⟨n, _, given⟩ := Listing.publish_all_source _ _ _ _ published f member
    exact publish_unsilenced sheet.listing sheet.file n f given

end Origins

section Collection

theorem failed_findings (analysis : Analysis) (failure : Failure) :
    (analysis.failed failure).1.findings = analysis.findings := by
  unfold Analysis.failed
  dsimp only
  split <;> rfl

theorem hear_unsilenced (settings : Settings) (path : String) (examiner : Rules.Examiner)
    (listed : examiner ∈ Rules.examiners settings) (sheet : Rules.Sheet) (module : Code.Module)
    (f : Finding) (member : f ∈ (Analysis.hear path examiner sheet module).1.findings) :
    Unsilenced sheet.listing f := by
  obtain ⟨family, _, rfl⟩ := List.mem_map.mp listed
  unfold Analysis.hear at member
  cases examined : Rules.examine settings sheet false module family with
  | ok verdict =>
    simp only [examined] at member
    exact examine_unsilenced settings sheet false module family verdict examined f member
  | error failure =>
    simp only [examined] at member
    cases member

theorem of_text_unsilenced (names : Code.CharNames) (settings : Settings) (path : String)
    (text : List Char) (f : Finding)
    (member : f ∈ (Analysis.ofText names path (.ok (Rules.examiners settings)) text).1.findings) :
    (Code.parse names text).isSome ∧ Unsilenced (.ofText text) f := by
  unfold Analysis.ofText at member
  cases parsed : Code.parse names text with
  | none =>
    simp only [parsed] at member
    cases member
  | some module =>
    simp only [parsed, List.mem_flatMap, List.mem_map] at member
    obtain ⟨_, ⟨examiner, listed, rfl⟩, heard⟩ := member
    exact ⟨rfl, hear_unsilenced settings path examiner listed _ module f heard⟩

/--
Every finding on a file comes from a text that parses, and no line of that text that could
speak for the finding silences its rule, whichever family found it.
-/
theorem reported_unsilenced (names : Code.CharNames) (store : Store) (settings : Settings)
    (path : Path) (f : Finding)
    (member : f ∈ ((Plan.usual names store settings).read path).1.findings) :
    ∃ content text, store.read path = .ok content ∧ Plan.source content = .ok text ∧
      (Code.parse names text).isSome ∧ Unsilenced (.ofText text) f := by
  unfold Plan.read at member
  cases held : store.read path with
  | error fault =>
    simp only [Plan.usual, held] at member
    cases fault with
    | zeroInPath =>
      rw [failed_findings] at member
      cases member
    | _ => cases member
  | ok content =>
    simp only [Plan.usual, held] at member
    cases decoded : Plan.source content with
    | error reason =>
      simp only [decoded] at member
      cases member
    | ok text =>
      simp only [decoded] at member
      exact ⟨content, text, rfl, decoded,
        of_text_unsilenced names settings path.text text f member⟩

def remarked : String := "x==None#noqa\n\ny==None"

def remarkedStore : Store := { entries := [(["a.py"], .file remarked.toUTF8)] }

theorem reported_unsilenced_remarked :
    ∃ f ∈ ((Plan.usual Code.noNames remarkedStore {}).read ⟨"", ["a.py"]⟩).1.findings,
      f.line = 3 ∧ f.rule = "R014" ∧
      ∃ content text, remarkedStore.read ⟨"", ["a.py"]⟩ = .ok content ∧
        Plan.source content = .ok text ∧ (Code.parse Code.noNames text).isSome ∧
        Unsilenced (.ofText text) f := by
  have held : remarkedStore.read ⟨"", ["a.py"]⟩ = .ok remarked.toUTF8 := by
    have named : Path.text ⟨"", ["a.py"]⟩ = "a.py" := by decide +kernel
    have clean : "a.py".contains '\x00' = false := by simp
    simp only [Store.read, Store.find, named, clean, Bool.false_eq_true, ↓reduceIte]
    rfl
  have decoded : Plan.source remarked.toUTF8 = .ok remarked.toList := by rfl
  have shown : (((Plan.usual Code.noNames remarkedStore {}).read ⟨"", ["a.py"]⟩).1.findings.map
      fun f => (f.line, f.rule)) = [(3, "R014")] := by
    simp only [Plan.read, Plan.usual, held, decoded]
    decide +kernel
  obtain ⟨f, found, place⟩ := List.map_eq_singleton_iff.mp shown
  obtain ⟨lineEq, ruleEq⟩ := Prod.mk.inj place
  have member :
      f ∈ ((Plan.usual Code.noNames remarkedStore {}).read ⟨"", ["a.py"]⟩).1.findings := by
    rw [found]
    exact List.mem_singleton_self f
  exact ⟨f, member, lineEq, ruleEq, reported_unsilenced Code.noNames remarkedStore {} _ f member⟩

end Collection

end RefactorAdvice
