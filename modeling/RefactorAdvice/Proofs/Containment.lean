import Mathlib.Data.List.Basic
import RefactorAdvice.Proofs.Silencing

/-!
Failures stay where they arise. A file that cannot be read, decoded or parsed has a reason and
nothing else. Of any other file the families are heard in their order, and what each leaves
depends on its own outcome alone: its findings and warnings if it comes to an end, one warning
that names it if it does not. To switch a family off, to break it or to change what it says
therefore changes one stretch of the findings, and the stretches around it stay.
-/

namespace RefactorAdvice

open Rules

section Behaviour

/-- What each family does with a module, be it to fail. -/
abbrev Conduct := Family → Sheet → Code.Module → Except Failure Verdict

namespace Conduct

def usual (settings : Settings) : Conduct := fun family sheet module =>
  examine settings sheet false module family

def examiners (conduct : Conduct) (settings : Settings) : List Examiner :=
  (Family.all.filter settings.runs).map fun family =>
    { name := family.name, examine := conduct family }

end Conduct

def Plan.under (names : Code.CharNames) (store : Store) (settings : Settings)
    (conduct : Conduct) : Plan :=
  { names, store, settings, examiners := .ok (conduct.examiners settings) }

theorem usual_under (names : Code.CharNames) (store : Store) (settings : Settings) :
    Plan.usual names store settings = .under names store settings (.usual settings) := rfl

end Behaviour

section Leavings

def leftFindings : Except Failure Verdict → List Finding
  | .ok verdict => verdict.findings
  | .error _ => []

/-- The warnings that an outcome leaves: its own, or one that tells who failed and why. -/
def leftWarnings (name : String) : Except Failure Verdict → List String
  | .ok verdict => verdict.warnings
  | .error failure => ["Detector " ++ name ++ " failed: " ++ failure.message]

theorem hear_leaves (path : String) (examiner : Examiner) (sheet : Sheet) (module : Code.Module) :
    (Analysis.hear path examiner sheet module).1 =
      ⟨leftFindings (examiner.examine sheet module),
        leftWarnings examiner.name (examiner.examine sheet module)⟩ := by
  unfold Analysis.hear
  cases examiner.examine sheet module with
  | ok verdict => rfl
  | error failure => rfl

end Leavings

section Reading

structure Store.Opens (store : Store) (names : Code.CharNames) (path : Path) (text : List Char)
    (module : Code.Module) : Prop where
  decoded : ∃ content, store.read path = .ok content ∧ Plan.source content = .ok text
  parsed : Code.parse names text = some module

theorem Store.opens_or_closed (store : Store) (names : Code.CharNames) (path : Path) :
    (∃ text module, store.Opens names path text module) ∨
      ∀ text module, ¬ store.Opens names path text module := by
  by_cases opens : ∃ text module, store.Opens names path text module
  · exact Or.inl opens
  · exact Or.inr fun text module opened => opens ⟨text, module, opened⟩

def Analysis.unread (path reason : String) (lines : Nat) : Analysis :=
  { path, parseError := some reason, lineCount := lines }

def Analysis.examined (path : String) (text : List Char) (examiners : List Examiner)
    (module : Code.Module) : Analysis :=
  let sheet : Sheet := ⟨path, .ofText text⟩
  { path
    findings := examiners.flatMap fun e => leftFindings (e.examine sheet module)
    warnings := examiners.flatMap fun e => leftWarnings e.name (e.examine sheet module)
    lineCount := (Text.lines text).length }

theorem failed_unread (analysis : Analysis) (failure : Failure) :
    ∃ reason, (analysis.failed failure).1 = { analysis with parseError := some reason } := by
  unfold Analysis.failed
  dsimp only
  split <;> exact ⟨_, rfl⟩

theorem of_text_examined (names : Code.CharNames) (path : String) (text : List Char)
    (module : Code.Module) (examiners : List Examiner)
    (parsed : Code.parse names text = some module) :
    (Analysis.ofText names path (.ok examiners) text).1 =
      .examined path text examiners module := by
  unfold Analysis.ofText
  simp only [parsed, List.flatMap_map, hear_leaves, List.length_map]
  rfl

theorem of_text_unread (names : Code.CharNames) (path : String) (text : List Char)
    (examiners : Except Failure (List Examiner))
    (stuck : Code.parse names text = none ∨ ∃ failure, examiners = .error failure) :
    ∃ reason lines,
      (Analysis.ofText names path examiners text).1 = .unread path reason lines := by
  unfold Analysis.ofText
  rcases stuck with unparsed | ⟨failure, rfl⟩
  · simp only [unparsed]
    exact ⟨_, _, rfl⟩
  · cases Code.parse names text with
    | none => exact ⟨_, _, rfl⟩
    | some module =>
      obtain ⟨reason, same⟩ := failed_unread { path, lineCount := _ } failure
      exact ⟨reason, _, same⟩

theorem read_opened (plan : Plan) (path : Path) (text : List Char) (module : Code.Module)
    (examiners : List Examiner) (opened : plan.store.Opens plan.names path text module)
    (given : plan.examiners = .ok examiners) :
    (plan.read path).1 = .examined path.text text examiners module := by
  obtain ⟨⟨content, held, decoded⟩, parsed⟩ := opened
  unfold Plan.read
  simp only [held, decoded, given]
  exact of_text_examined plan.names path.text text module examiners parsed

theorem read_closed (plan : Plan) (path : Path)
    (closed : ∀ text module, ¬ plan.store.Opens plan.names path text module) :
    ∃ reason lines, (plan.read path).1 = .unread path.text reason lines := by
  unfold Plan.read
  cases held : plan.store.read path with
  | error fault =>
    cases fault with
    | zeroInPath =>
      obtain ⟨reason, same⟩ := failed_unread { path := path.text } _
      exact ⟨reason, 0, same⟩
    | _ => exact ⟨_, 0, rfl⟩
  | ok content =>
    cases decoded : Plan.source content with
    | error reason =>
      simp only [decoded]
      exact ⟨reason, 0, rfl⟩
    | ok text =>
      simp only [decoded]
      refine of_text_unread plan.names path.text text plan.examiners (Or.inl ?_)
      refine Option.eq_none_iff_forall_ne_some.mpr fun module parsed => ?_
      exact closed text module ⟨⟨content, held, decoded⟩, parsed⟩

theorem read_unset (plan : Plan) (path : Path) (failure : Failure)
    (unset : plan.examiners = .error failure) :
    ∃ reason lines, (plan.read path).1 = .unread path.text reason lines := by
  rcases plan.store.opens_or_closed plan.names path with ⟨text, module, opened⟩ | closed
  · obtain ⟨content, held, decoded⟩ := opened.decoded
    unfold Plan.read
    simp only [held, decoded]
    exact of_text_unread plan.names path.text text plan.examiners (Or.inr ⟨failure, unset⟩)
  · exact read_closed plan path closed

theorem read_path (plan : Plan) (path : Path) : (plan.read path).1.path = path.text := by
  rcases plan.store.opens_or_closed plan.names path with ⟨text, module, opened⟩ | closed
  · cases given : plan.examiners with
    | ok examiners =>
      rw [read_opened plan path text module examiners opened given]
      rfl
    | error failure =>
      obtain ⟨_, _, same⟩ := read_unset plan path failure given
      rw [same]
      rfl
  · obtain ⟨_, _, same⟩ := read_closed plan path closed
    rw [same]
    rfl

theorem lone_file_read (content : ByteArray) :
    Store.read { entries := [(["a.py"], .file content)] } ⟨"", ["a.py"]⟩ = .ok content := by
  have named : Path.text ⟨"", ["a.py"]⟩ = "a.py" := rfl
  have clean : "a.py".contains '\x00' = false := by simp
  simp only [Store.read, Store.find, named, clean, Bool.false_eq_true, ↓reduceIte]
  rfl

theorem remarked_opens :
    ∃ module, remarkedStore.Opens Code.noNames ⟨"", ["a.py"]⟩ remarked.toList module := by
  have spelled : (Code.parse Code.noNames remarked.toList).isSome := by decide +kernel
  obtain ⟨module, parsed⟩ := Option.isSome_iff_exists.mp spelled
  exact ⟨module, ⟨remarked.toUTF8, lone_file_read remarked.toUTF8, rfl⟩, parsed⟩

end Reading

section Shares
variable (settings : Settings) (conduct : Conduct) (sheet : Sheet) (module : Code.Module)

def share (family : Family) : List Finding :=
  if settings.runs family then leftFindings (conduct family sheet module) else []

theorem shares_eq (families : List Family) :
    (families.filter settings.runs).flatMap (fun family =>
      leftFindings (conduct family sheet module)) =
      families.flatMap (share settings conduct sheet module) := by
  induction families with
  | nil => rfl
  | cons family rest ih => cases on : settings.runs family <;> simp [share, on, ih]

/-- Settings and conduct that differ in one family at most. -/
structure AlikeBut (changed : Family) (settings : Settings) (conduct : Conduct)
    (settings' : Settings) (conduct' : Conduct) : Prop where
  runs_eq : ∀ family, family ≠ changed → settings'.runs family = settings.runs family
  conduct_eq : ∀ family, family ≠ changed → conduct' family = conduct family

theorem all_split (family : Family) :
    ∃ before after, Family.all = before ++ family :: after ∧ family ∉ before ∧ family ∉ after := by
  have listed : family ∈ Family.all := by cases family <;> decide
  have single : Family.all.Nodup := by decide
  obtain ⟨before, after, split⟩ := List.append_of_mem listed
  rw [split] at single
  obtain ⟨_, later, apart⟩ := List.nodup_append.mp single
  refine ⟨before, after, split, ?_, (List.nodup_cons.mp later).1⟩
  exact fun inside => apart family inside family List.mem_cons_self rfl

-- The families before the changed one and after it leave what they left.
theorem shares_apart (changed : Family) :
    ∃ before after, ∀ settings' conduct',
      AlikeBut changed settings conduct settings' conduct' →
        Family.all.flatMap (share settings' conduct' sheet module) =
          before ++ share settings' conduct' sheet module changed ++ after := by
  obtain ⟨sooner, later, split, notSooner, notLater⟩ := all_split changed
  refine ⟨sooner.flatMap (share settings conduct sheet module),
    later.flatMap (share settings conduct sheet module), ?_⟩
  intro settings' conduct' alike
  have same : ∀ families : List Family, changed ∉ families →
      families.flatMap (share settings' conduct' sheet module) =
        families.flatMap (share settings conduct sheet module) := by
    intro families outside
    refine List.flatMap_congr fun family member => ?_
    have other : family ≠ changed := fun equal => outside (equal ▸ member)
    rw [share, share, alike.runs_eq family other, alike.conduct_eq family other]
  rw [split, List.flatMap_append, List.flatMap_cons, same sooner notSooner, same later notLater,
    List.append_assoc]

end Shares

section Switches

def Settings.without (s : Settings) : Family → Settings
  | .complexity => { s with complexity := { s.complexity with enabled := false } }
  | .performance => { s with performance := { s.performance with enabled := false } }
  | .booleanLogic => { s with booleanLogic := { s.booleanLogic with enabled := false } }
  | .loops => { s with loops := { enabled := false } }
  | .duplication => { s with duplication := { s.duplication with enabled := false } }
  | .contextManager => { s with contextManager := { enabled := false } }
  | .controlFlow => { s with controlFlow := { enabled := false } }
  | .dictOperations => { s with dictOperations := { enabled := false } }
  | .comparisons => { s with comparisons := { enabled := false } }

theorem without_runs (s : Settings) (off : Family) : (s.without off).runs off = false := by
  cases off <;> rfl

-- A family looks at the limits of its own section only.
theorem without_alike (s : Settings) (off : Family) :
    AlikeBut off s (.usual s) (s.without off) (.usual (s.without off)) := by
  constructor
  · intro family other
    cases off <;> cases family <;> first | exact absurd rfl other | rfl
  · intro family other
    cases off <;> cases family <;> first | exact absurd rfl other | rfl

def Conduct.breaking (conduct : Conduct) (broken : Family) (failure : Failure) : Conduct :=
  fun family => if family = broken then fun _ _ => .error failure else conduct family

theorem breaking_alike (settings : Settings) (conduct : Conduct) (broken : Family)
    (failure : Failure) :
    AlikeBut broken settings conduct settings (conduct.breaking broken failure) :=
  ⟨fun _ _ => rfl, fun _ other => if_neg other⟩

end Switches

section Guarantees

theorem examined_findings (path : String) (text : List Char) (settings : Settings)
    (conduct : Conduct) (module : Code.Module) :
    (Analysis.examined path text (conduct.examiners settings) module).findings =
      (Family.all.filter settings.runs).flatMap fun family =>
        leftFindings (conduct family ⟨path, .ofText text⟩ module) := by
  simp only [Analysis.examined, Conduct.examiners, List.flatMap_map]

theorem examined_warnings (path : String) (text : List Char) (settings : Settings)
    (conduct : Conduct) (module : Code.Module) :
    (Analysis.examined path text (conduct.examiners settings) module).warnings =
      (Family.all.filter settings.runs).flatMap fun family =>
        leftWarnings family.name (conduct family ⟨path, .ofText text⟩ module) := by
  simp only [Analysis.examined, Conduct.examiners, List.flatMap_map]

/--
A file is left unread with a reason, without findings or warnings, exactly where there is no
text or no module to examine. Otherwise it has no reason, and each enabled family leaves in turn
all its findings and warnings, or none and the one warning that it failed. Whatever one family
is changed to, the findings before and after its own are the same; to switch it off is such a
change.
-/
theorem failures_contained (names : Code.CharNames) (store : Store) (settings : Settings)
    (conduct : Conduct) (path : Path) :
    let analysis := fun s c => ((Plan.under names store s c).read path).1
    (((∀ text module, ¬ store.Opens names path text module) ∧
        ∃ reason lines, analysis settings conduct = .unread path.text reason lines) ∨
      ∃ text module, store.Opens names path text module ∧
        (analysis settings conduct).parseError = none ∧
        (analysis settings conduct).findings =
          (Family.all.filter settings.runs).flatMap (fun family =>
            leftFindings (conduct family ⟨path.text, .ofText text⟩ module)) ∧
        (analysis settings conduct).warnings =
          (Family.all.filter settings.runs).flatMap (fun family =>
            leftWarnings family.name (conduct family ⟨path.text, .ofText text⟩ module)) ∧
        ∀ changed, ∃ before after, ∀ settings' conduct',
          AlikeBut changed settings conduct settings' conduct' →
            (analysis settings' conduct').findings =
              before ++ share settings' conduct' ⟨path.text, .ofText text⟩ module changed ++
                after) ∧
      ∀ off, (settings.without off).runs off = false ∧
        AlikeBut off settings (.usual settings) (settings.without off)
          (.usual (settings.without off)) := by
  intro analysis
  refine ⟨?_, fun off => ⟨without_runs settings off, without_alike settings off⟩⟩
  rcases store.opens_or_closed names path with ⟨text, module, opened⟩ | closed
  · have heard : ∀ s c, analysis s c = .examined path.text text (c.examiners s) module :=
      fun s c => read_opened (.under names store s c) path text module _ opened rfl
    refine Or.inr ⟨text, module, opened, ?_, ?_, ?_, ?_⟩
    · rw [heard]
      rfl
    · rw [heard, examined_findings]
    · rw [heard, examined_warnings]
    · intro changed
      obtain ⟨before, after, apart⟩ :=
        shares_apart settings conduct ⟨path.text, .ofText text⟩ module changed
      refine ⟨before, after, fun settings' conduct' alike => ?_⟩
      rw [heard, examined_findings, shares_eq, apart settings' conduct' alike]
  · exact Or.inl ⟨closed, read_closed (.under names store settings conduct) path closed⟩

theorem failures_contained_remarked :
    let analysis := fun c => ((Plan.under Code.noNames remarkedStore {} c).read ⟨"", ["a.py"]⟩).1
    let broken := Conduct.breaking (.usual {}) .comparisons (.raised .runtime "lost")
    ∃ before after text module, remarkedStore.Opens Code.noNames ⟨"", ["a.py"]⟩ text module ∧
      (analysis (.usual {})).findings = before ++
        share {} (.usual {}) ⟨Path.text ⟨"", ["a.py"]⟩, .ofText text⟩ module .comparisons ++ after ∧
      (analysis broken).findings = before ++ after ∧
      (analysis (.usual {})).findings.map (·.rule) = ["R014"] ∧
      (analysis broken).warnings = ["Detector comparisons failed: lost"] := by
  intro analysis broken
  have decoded : Plan.source remarked.toUTF8 = .ok remarked.toList := by rfl
  have held : remarkedStore.read ⟨"", ["a.py"]⟩ = .ok remarked.toUTF8 := lone_file_read _
  have advised : (analysis (.usual {})).findings.map (·.rule) = ["R014"] := by
    simp only [analysis, Plan.read, Plan.under, held, decoded]
    decide +kernel
  have warned : (analysis broken).warnings = ["Detector comparisons failed: lost"] := by
    simp only [analysis, Plan.read, Plan.under, held, decoded]
    decide +kernel
  obtain ⟨module, opened⟩ := remarked_opens
  rcases (failures_contained Code.noNames remarkedStore {} (.usual {}) ⟨"", ["a.py"]⟩).1 with
    ⟨closed, _⟩ | ⟨text, found, opens, _, _, _, apart⟩
  · exact absurd opened (closed _ _)
  · obtain ⟨before, after, split⟩ := apart .comparisons
    have whole := split _ _ ⟨fun _ _ => rfl, fun _ _ => rfl⟩
    have rest := split _ _ (breaking_alike {} (.usual {}) .comparisons (.raised .runtime "lost"))
    have nothing : share {} broken ⟨Path.text ⟨"", ["a.py"]⟩, .ofText text⟩ found .comparisons =
        [] := rfl
    rw [nothing, List.append_nil] at rest
    exact ⟨before, after, text, found, opens, whole, rest, advised, warned⟩

end Guarantees

end RefactorAdvice
