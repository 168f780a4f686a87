import Mathlib
import RefactorAdvice.Proofs.LoggedRuns
import RefactorAdvice.Proofs.PrintedReports
import RefactorAdvice.Proofs.Schedules
import RefactorAdvice.Report.Json

/-!
The reports of a survey agree on its findings. By file they are sorted within each file, by
severity they are dealt out among the severities and sorted there, and neither loses or doubles
one, as long as no file has findings behind a reason. The totals of the summary, the counts of
the payload and the lists of its files all come to the same number.
-/

namespace RefactorAdvice

def Analysis.Clear (a : Analysis) : Prop := Report.reason? a ≠ none → a.findings = []

/-- A survey in which no file has findings behind a reason. -/
def Survey.Clear (s : Survey) : Prop := ∀ a ∈ s.files, a.Clear

section Runs

open LoggingExcept

theorem read_clear (plan : Plan) (path : Path) : (plan.read path).1.Clear := by
  intro stated
  rcases plan.store.opens_or_closed plan.names path with ⟨text, module, opened⟩ | closed
  · cases given : plan.examiners with
    | ok examiners =>
      rw [read_opened plan path text module examiners opened given] at stated
      exact absurd rfl stated
    | error failure =>
      obtain ⟨_, _, same⟩ := read_unset plan path failure given
      rw [same]
      rfl
  · obtain ⟨_, _, same⟩ := read_closed plan path closed
    rw [same]
    rfl

namespace Plan

theorem task_clear (plan : Plan) (path : Path) (analysis : Analysis)
    (done : (plan.task path).1 = .ok analysis) : analysis.Clear := by
  unfold task at done
  cases broken : plan.broken.find? (·.1 == path.text) with
  | some entry =>
    rw [broken] at done
    cases done
  | none =>
    rw [broken] at done
    cases done
    exact read_clear plan path

theorem handed_clear (plan : Plan) (path : Path) : (plan.handed path).1.Clear := by
  cases given : (plan.task path).1 with
  | ok analysis =>
    rw [plan.handed_done path analysis given]
    exact plan.task_clear path analysis given
  | error failure =>
    rw [plan.handed_failed path failure given]
    exact fun _ => rfl

theorem in_turn_clear (plan : Plan) (paths : List Path) :
    Yields (plan.inTurn paths) fun files => ∀ a ∈ files, a.Clear := by
  refine yields_each _ _ (fun path => ?_) paths
  have clear := plan.task_clear path
  generalize plan.task path = returned at clear
  obtain ⟨outcome, log⟩ := returned
  refine yields_bind (yields_anything _) fun _ _ => ?_
  cases outcome with
  | ok analysis => exact yields_pure analysis _ (clear analysis rfl)
  | error failure => exact yields_throw failure _

theorem analyses_clear (plan : Plan) (paths : List Path) (workers : Int) :
    Yields (plan.analyses paths workers) fun files => ∀ a ∈ files, a.Clear := by
  unfold analyses
  split
  · exact plan.in_turn_clear paths
  · intro log files given a member
    rw [plan.side_by_side_result paths log] at given
    cases given
    have handed := (List.mergeSort_perm _ _).subset member
    rw [List.map_map] at handed
    obtain ⟨path, _, rfl⟩ := List.mem_map.mp handed
    exact plan.handed_clear path

theorem run_clear (plan : Plan) (paths : List Path) (workers : Int) :
    Yields (plan.run paths workers) Survey.Clear := by
  refine yields_bind (yields_anything _) fun found _ => ?_
  split
  · exact yields_pure _ _ fun _ member => by cases member
  · refine yields_bind (plan.analyses_clear found.paths workers) fun files clear => ?_
    exact yields_pure _ _ clear

theorem run_folder_clear (plan : Plan) (path : Path) (workers : Int) :
    Yields (plan.runFolder path workers) Survey.Clear := by
  have empty : ∀ n, Survey.Clear { excluded := n } := fun _ _ member => by cases member
  refine yields_bind (yields_anything _) fun present _ => ?_
  split
  · refine yields_bind (yields_anything _) fun _ _ => ?_
    exact yields_pure _ _ (empty 0)
  · refine yields_bind (yields_anything _) fun lone _ => ?_
    split
    · refine yields_bind (yields_anything _) fun _ _ => ?_
      refine yields_bind (plan.in_turn_clear [path]) fun files clear => ?_
      exact yields_pure _ _ clear
    · refine yields_bind (yields_anything _) fun excluded _ => ?_
      refine yields_bind (yields_anything _) fun kept _ => ?_
      split
      · refine yields_bind (yields_anything _) fun _ _ => ?_
        exact yields_pure _ _ (empty _)
      · refine yields_bind (plan.analyses_clear kept workers) fun files clear => ?_
        exact yields_pure _ _ clear

end Plan

end Runs

namespace Report

section Telling

def printedPlace (grouping : Grouping) (f : Finding) : String :=
  (if grouping = .bySeverity then f.file ++ ":" else "") ++ toString f.line ++ ":" ++
    ((f.endLine.filter (· ≠ f.line)).elim "" fun last => toString last ++ ":") ++
    toString f.column

def issueLines (mark : String) (grouping : Grouping) (f : Finding) : List String :=
  ["  " ++ painted (colourOf f.severity)
      (mark ++ " [" ++ f.rule ++ "] " ++ printedPlace grouping f),
    "    " ++ f.message] ++
  (f.suggestion.filter (· ≠ "")).toList.map
    (fun advice => "    " ++ painted .green ("→ " ++ advice)) ++
  (f.snippet.filter (· ≠ "")).toList.map fun code => "    " ++ painted .grey code

def capitals : Severity → String
  | .high => "HIGH"
  | .medium => "MEDIUM"
  | .low => "LOW"
  | .info => "INFO"

/-- What may stand between findings. -/
inductive Heading (s : Survey) : List String → Prop
  | reason (a : Analysis) (reason : String) : a ∈ s.files → reason? a = some reason →
      Heading s (reasonLines a.path reason)
  | file (a : Analysis) : a ∈ s.files → Heading s ["\n" ++ painted .cyan a.path]
  | warning (a : Analysis) (warning : String) : a ∈ s.files → warning ∈ a.warnings →
      Heading s ["  " ++ painted .yellow ("⚠ Warning: " ++ warning)]
  | severity (level : Severity) :
      Heading s ["\n" ++ painted (colourOf level) (capitals level ++ " Severity Issues")]

/-- A text that tells of findings in this order, of each once, under headings and with nothing
else in it. -/
inductive Tells (sink : Sink) (s : Survey) (grouping : Grouping) : List Finding → String → Prop
  | nothing : Tells sink s grouping [] ""
  | heading {messages : List String} {told : List Finding} {rest : String} :
      Heading s messages → Tells sink s grouping told rest →
      Tells sink s grouping told (lines sink messages ++ rest)
  | finding {f : Finding} {told : List Finding} {rest : String} : Tells sink s grouping told rest →
      Tells sink s grouping (f :: told)
        (lines sink (issueLines (sink.icon f.severity) grouping f) ++ rest)

variable {sink : Sink} {s : Survey} {grouping : Grouping}

theorem location_eq (grouping : Grouping) (f : Finding) :
    location f (decide (grouping = .bySeverity)) = printedPlace grouping f := by
  unfold location printedPlace
  cases f.endLine with
  | none => cases grouping <;> simp [String.append_assoc]
  | some last =>
    by_cases same : last = f.line <;>
      cases grouping <;> simp [same, Option.filter_some, String.append_assoc]

theorem finding_lines_eq (icon : Severity → String) (grouping : Grouping) (f : Finding) :
    findingLines icon f (decide (grouping = .bySeverity)) =
      issueLines (icon f.severity) grouping f := by
  unfold findingLines issueLines
  rw [location_eq]
  refine congrArg₂ (· ++ ·) (congrArg₂ (· ++ ·) rfl ?_) ?_
  · cases f.suggestion with
    | none => rfl
    | some advice => by_cases void : advice = "" <;> simp [void, Option.filter_some]
  · cases f.snippet with
    | none => rfl
    | some code => by_cases void : code = "" <;> simp [void, Option.filter_some]

theorem upper_name_eq (level : Severity) : upperName level = capitals level := by
  apply String.toList_injective
  rw [upperName, String.toList_map]
  cases level <;> decide

theorem printed_cons (item : Item) (rest : List Item) :
    printed sink (item :: rest) = lines sink (item.messages sink.icon) ++ printed sink rest := by
  simp only [printed, List.flatMap_cons, lines_append]

theorem tells_append {first second : List Finding} {text more : String}
    (sooner : Tells sink s grouping first text) (later : Tells sink s grouping second more) :
    Tells sink s grouping (first ++ second) (text ++ more) := by
  induction sooner with
  | nothing => rwa [List.nil_append, String.empty_append]
  | heading between _ ih =>
    rw [String.append_assoc]
    exact .heading between ih
  | finding _ ih =>
    rw [String.append_assoc, List.cons_append]
    exact .finding ih

theorem findings_tell (told : List Finding) : Tells sink s grouping told
    (printed sink (told.map (.finding · (decide (grouping = .bySeverity))))) := by
  induction told with
  | nil => exact .nothing
  | cons f rest ih =>
    rw [List.map_cons, printed_cons, Item.messages, finding_lines_eq]
    exact .finding ih

theorem warnings_tell {a : Analysis} (member : a ∈ s.files) {warnings : List String}
    (own : ∀ warning ∈ warnings, warning ∈ a.warnings) :
    Tells sink s grouping [] (printed sink (warnings.map .warning)) := by
  induction warnings with
  | nil => exact .nothing
  | cons warning rest ih =>
    rw [List.map_cons, printed_cons]
    exact .heading (.warning a warning member (own warning List.mem_cons_self))
      (ih fun other listed => own other (List.mem_cons_of_mem warning listed))

theorem file_tells {a : Analysis} (member : a ∈ s.files) (clear : a.Clear) : ∃ told,
    Tells sink s .byFile told (printed sink (fileItems a)) ∧ told.Perm a.findings := by
  cases stated : reason? a with
  | some reason =>
    refine ⟨[], ?_, by rw [clear (by simp [stated])]⟩
    rw [file_items_reason a reason stated, printed_cons]
    exact .heading (.reason a reason member stated) .nothing
  | none =>
    rcases file_items_open a stated with ⟨nothing, unfound, _⟩ | told
    · refine ⟨[], ?_, by rw [unfound]⟩
      rw [nothing]
      exact .nothing
    · refine ⟨byLine a.findings, ?_, List.mergeSort_perm _ _⟩
      rw [told, printed_append, printed_cons]
      exact tells_append (.heading (.file a member) (warnings_tell member fun _ listed => listed))
        (findings_tell _)

theorem severity_tells (level : Severity) : ∃ told,
    Tells sink s .bySeverity told (printed sink (severityItems s level)) ∧
      told.Perm (s.bySeverity level) := by
  unfold severityItems
  dsimp only
  split
  · next bare => exact ⟨[], .nothing, by rw [List.isEmpty_iff.mp bare]⟩
  · refine ⟨byFileAndLine (s.bySeverity level), ?_, List.mergeSort_perm _ _⟩
    rw [printed_cons, Item.messages, upper_name_eq]
    exact .heading (.severity level) (findings_tell _)

-- Parts that each tell of their own findings tell together of all of them.
theorem parts_tell {α : Type} {its : α → List Item} {own : α → List Finding} (parts : List α)
    (each : ∀ x ∈ parts, ∃ told, Tells sink s grouping told (printed sink (its x)) ∧
      told.Perm (own x)) :
    ∃ told, Tells sink s grouping told (printed sink (parts.flatMap its)) ∧
      told.Perm (parts.flatMap own) := by
  induction parts with
  | nil => exact ⟨[], .nothing, .nil⟩
  | cons x rest ih =>
    obtain ⟨first, tells, same⟩ := each x List.mem_cons_self
    obtain ⟨others, later, alike⟩ := ih fun y listed => each y (List.mem_cons_of_mem x listed)
    refine ⟨first ++ others, ?_, same.append alike⟩
    rw [List.flatMap_cons, printed_append]
    exact tells_append tells later

-- A finding has one severity, and each severity is listed once: no count is lost or doubled.
theorem severities_exhaust (s : Survey) : (gravestFirst.flatMap s.bySeverity).Perm s.findings := by
  rw [List.perm_iff_count]
  intro f
  have dealt : ∀ level, (s.bySeverity level).count f =
      if f.severity = level then s.findings.count f else 0 := by
    intro level
    unfold Survey.bySeverity
    by_cases own : f.severity = level
    · rw [if_pos own, List.count_filter (by simpa using own)]
    · have absent : f ∉ s.findings.filter (·.severity == level) := by simp [own]
      rw [if_neg own, List.count_eq_zero.mpr absent]
  simp only [List.count_flatMap, gravestFirst, List.map_cons, List.map_nil, Function.comp_apply,
    dealt, List.sum_cons, List.sum_nil]
  cases f.severity <;> simp

theorem body_tells (sink : Sink) (grouping : Grouping) (clear : s.Clear) : ∃ told,
    Tells sink s grouping told (printed sink (bodyItems s grouping)) ∧ told.Perm s.findings := by
  cases grouping with
  | byFile => exact parts_tell s.files fun a member => file_tells member (clear a member)
  | bySeverity =>
    obtain ⟨told, tells, same⟩ : ∃ told,
        Tells sink s .bySeverity told (printed sink (severitiesItems s)) ∧
          told.Perm (gravestFirst.flatMap s.bySeverity) :=
      parts_tell gravestFirst fun level _ => severity_tells level
    exact ⟨told, tells, same.trans (severities_exhaust s)⟩

end Telling

section Totals

/-- The severities that occur, with the number of their findings. -/
def severityCounts (findings : List Finding) : List (Severity × Nat) :=
  (gravestFirst.map fun level => (level, findings.countP (·.severity == level))).filter (0 < ·.2)

def anySerious (findings : List Finding) : Bool :=
  findings.any fun f => f.severity == .high || f.severity == .medium

def openingLines (t : Totals) : List String :=
  ["\n" ++ painted .yellow rule, painted .yellow "Summary", painted .yellow rule,
    s!"\nFiles analyzed: {t.files}", s!"Files with issues: {t.filesWithFindings}"] ++
  (if t.parseErrors = 0 then [] else [s!"Files with parse errors: {t.parseErrors}"]) ++
  if t.warnings = 0 then [] else [s!"Analysis warnings: {t.warnings}"]

def totalLines (total : Nat) (counts : List (Severity × Nat)) : List String :=
  [s!"Total issues: {total}"] ++
    if total = 0 then []
    else "\nIssues by severity:" :: counts.map fun (level, count) =>
      "  " ++ painted (colourOf level) (capitals level ++ ": " ++ toString count)

def alarmLines (serious : Bool) : List String :=
  if serious then ["\n" ++ painted .red "⚠ High or medium severity issues found"] else []

theorem totals_lines_eq (t : Totals) : totalsLines t =
    openingLines t ++ totalLines t.findings t.bySeverity ++ alarmLines t.serious := by
  simp only [totalsLines, openingLines, totalLines, alarmLines, upper_name_eq, List.append_assoc]

theorem totals_counts (s : Survey) : (totals s).bySeverity = severityCounts s.findings := by
  unfold severityCounts
  rw [← List.filterMap_eq_filter, List.filterMap_map]
  refine List.filterMap_congr fun level _ => ?_
  rw [Function.comp_apply, List.countP_eq_length_filter, ← Survey.bySeverity]
  by_cases bare : (s.bySeverity level).length = 0
  · simp [bare, Option.guard]
  · simp [bare, Option.guard, Nat.pos_of_ne_zero bare]

theorem severity_counts_perm {first second : List Finding} (same : first.Perm second) :
    severityCounts first = severityCounts second := by
  simp only [severityCounts, same.countP_eq]

theorem positive_sum (counts : List (Severity × Nat)) :
    ((counts.filter (0 < ·.2)).map (·.2)).sum = (counts.map (·.2)).sum := by
  induction counts with
  | nil => rfl
  | cons entry rest ih =>
    rw [List.filter_cons]
    split
    · simp only [List.map_cons, List.sum_cons, ih]
    · next nought =>
      rw [decide_eq_true_eq, Nat.not_lt, Nat.le_zero] at nought
      rw [ih, List.map_cons, List.sum_cons, nought, Nat.zero_add]

theorem severity_counts_sum (findings : List Finding) :
    ((severityCounts findings).map (·.2)).sum = findings.length := by
  rw [severityCounts, positive_sum]
  simp only [gravestFirst, List.map_cons, List.map_nil, List.sum_cons, List.sum_nil]
  induction findings with
  | nil => rfl
  | cons f rest ih =>
    simp only [List.countP_cons, List.length_cons]
    cases f.severity <;> simp <;> omega

theorem text_totals (sink : Sink) (grouping : Grouping) {s : Survey} {told : List Finding}
    (same : told.Perm s.findings) :
    text sink grouping s = printed sink (bodyItems s grouping) ++
      lines sink (openingLines (totals s) ++ totalLines told.length (severityCounts told) ++
        alarmLines (anySerious told)) := by
  have alarming : anySerious told = (totals s).serious := same.any_eq
  rw [text_split, totals_lines_eq, totals_counts, ← severity_counts_perm same, ← alarming,
    same.length_eq]
  rfl

end Totals

section Counts

-- The recursion of `countOne` ends at the name or at the end of the list, and adds one there.
theorem count_one_sum (counts : List (String × Nat)) (name : String) :
    ((countOne counts name).map (·.2)).sum = (counts.map (·.2)).sum + 1 := by
  induction counts with
  | nil => rfl
  | cons entry rest ih =>
    obtain ⟨other, n⟩ := entry
    unfold countOne
    split
    · simp only [List.map_cons, List.sum_cons]
      omega
    · simp only [List.map_cons, List.sum_cons, ih]
      omega

theorem counts_sum (names : List String) (counts : List (String × Nat)) :
    ((names.foldl countOne counts).map (·.2)).sum = (counts.map (·.2)).sum + names.length := by
  induction names generalizing counts with
  | nil => rfl
  | cons name rest ih =>
    rw [List.foldl_cons, ih, count_one_sum, List.length_cons]
    omega

theorem occurrences_sum (names : List String) :
    ((occurrences names).map (·.2)).sum = names.length := by
  have sorted := (List.mergeSort_perm (names.foldl countOne [])
    fun a b => decide (a.1 ≤ b.1)).map (·.2)
  rw [occurrences, sorted.sum_eq, counts_sum, List.map_nil, List.sum_nil, Nat.zero_add]

theorem map_all {α β : Type} (f : α → Option β) (g : α → β) (xs : List α)
    (defined : ∀ x ∈ xs, f x = some (g x)) : xs.mapM f = some (xs.map g) := by
  induction xs with
  | nil => rfl
  | cons x rest ih =>
    have others := ih fun y member => defined y (List.mem_cons_of_mem x member)
    rw [List.mapM_cons, defined x List.mem_cons_self, others]
    rfl

def numbers? (d : Data) : Option (List Int) :=
  d.entries?.bind fun entries => entries.mapM fun entry => entry.2.int?

theorem count_table_numbers (names : List String) :
    ∃ numbers, numbers? (countTable names) = some numbers ∧ numbers.sum = names.length := by
  refine ⟨((occurrences names).map (·.2)).map Nat.cast, ?_, ?_⟩
  · simp only [numbers?, countTable, Data.entries?, Option.bind_some]
    rw [List.mapM_map, List.map_map]
    exact map_all _ _ _ fun _ _ => rfl
  · rw [← Nat.cast_list_sum, occurrences_sum]

def findingCounts? (d : Data) : Option (List Nat) :=
  d.items?.bind fun files => files.mapM fun file =>
    ((file.get? "issues").bind Data.items?).map List.length

theorem file_counts (version : String) (s : Survey) : ∃ counts,
    ((surveyData version s).get? "files").bind findingCounts? = some counts ∧
      counts.sum = s.total := by
  refine ⟨s.files.map (·.findings.length), ?_, ?_⟩
  · have listed : (surveyData version s).get? "files" =
        some (.list (s.files.map analysisData)) := by
      simp [surveyData, Data.get?, Data.lookup]
    simp only [listed, findingCounts?, Data.items?, Option.bind_some]
    rw [List.mapM_map]
    refine map_all _ _ _ fun a _ => ?_
    simp [analysisData, Data.get?, Data.lookup, Data.items?]
  · rw [Survey.total, Survey.findings, List.length_flatMap]

def summaryField? (payload : Data) (key : String) : Option Data :=
  (payload.get? "summary").bind (·.get? key)

theorem summary_field_eq (version : String) (s : Survey) (key : String) :
    summaryField? (surveyData version s) key = (summaryData s).get? key := by
  simp [summaryField?, surveyData, Data.get?, Data.lookup]

theorem summary_counts (version : String) {s : Survey} {key : String} {names : List String}
    (held : (summaryData s).get? key = some (countTable names)) : ∃ counts,
    (summaryField? (surveyData version s) key).bind numbers? = some counts ∧
      counts.sum = names.length := by
  rw [summary_field_eq, held, Option.bind_some]
  exact count_table_numbers names

end Counts

section Guarantees

/--
The surveys of runs are clear. Of a clear survey both text reports tell of the same findings, all
those of the survey and each once, as what can be shown is shown as it is. Their number is the
total that ends both texts and the sum of the counts by severity printed with it; and it is the
total of the payload, the sum of its counts by severity, the sum of its counts by rule and the sum
of the findings listed for its files.
-/
theorem reports_agree :
    (∀ (plan : Plan) (paths : List Path) (path : Path) (workers : Int),
      LoggingExcept.Yields (plan.run paths workers) Survey.Clear ∧
        LoggingExcept.Yields (plan.runFolder path workers) Survey.Clear) ∧
    ∀ (version : String) (sink : Sink) (s : Survey), s.Clear →
      let payload := surveyData version s
      sink.Faithful ∧ ∃ told : Grouping → List Finding, ∃ total : Nat,
        (told .byFile).Perm (told .bySeverity) ∧
        (∀ grouping, (told grouping).Perm s.findings ∧ (told grouping).length = total ∧
          (∃ body, Tells sink s grouping (told grouping) body ∧
            text sink grouping s = body ++ lines sink (openingLines (totals s) ++
              totalLines total (severityCounts (told grouping)) ++
              alarmLines (anySerious (told grouping)))) ∧
          ((severityCounts (told grouping)).map (·.2)).sum = total) ∧
        summaryField? payload "total_issues" = some (.int total) ∧
        (∃ counts, (summaryField? payload "by_severity").bind numbers? = some counts ∧
          counts.sum = total) ∧
        (∃ counts, (summaryField? payload "by_rule").bind numbers? = some counts ∧
          counts.sum = total) ∧
        ∃ counts, (payload.get? "files").bind findingCounts? = some counts ∧
          counts.sum = total := by
  refine ⟨fun plan paths path workers =>
    ⟨plan.run_clear paths workers, plan.run_folder_clear path workers⟩, ?_⟩
  intro version sink s clear payload
  choose told tells same using fun grouping => body_tells sink grouping clear
  have byName : (summaryData s).get? "by_severity" =
      some (countTable (s.findings.map (·.severity.name))) := by
    simp [summaryData, Data.get?, Data.lookup]
  have byRule : (summaryData s).get? "by_rule" =
      some (countTable (s.findings.map (·.rule))) := by
    simp [summaryData, Data.get?, Data.lookup]
  have sized : ∀ names : Finding → String, (s.findings.map names).length = s.total :=
    fun names => List.length_map names
  refine ⟨sink.faithful, told, s.total, (same .byFile).trans (same .bySeverity).symm,
    fun grouping => ?_, ?_, sized _ ▸ summary_counts version byName,
    sized _ ▸ summary_counts version byRule, file_counts version s⟩
  · have counted : (told grouping).length = s.total := (same grouping).length_eq
    refine ⟨same grouping, counted, ⟨_, tells grouping, ?_⟩, ?_⟩
    · rw [text_totals sink grouping (same grouping), counted]
    · rw [severity_counts_sum, counted]
  · rw [summary_field_eq]
    simp [summaryData, Data.get?, Data.lookup]

def bareFinding (file : String) (line : Nat) (placed : 1 ≤ line) (rule : Rule) : Finding :=
  { file, line, column := 0, severity := rule.severity, rule := rule.code, message := "m"
    suggestion := none, snippet := none, endLine := none, line_pos := placed
    line_le_end := fun _ member => by cases member }

def mixed : Survey :=
  { files :=
      [{ path := "c.py", parseError := some "Syntax error: invalid syntax" },
        { path := "b.py", findings := [bareFinding "b.py" 9 (by decide) .equalsBool,
            bareFinding "b.py" 2 (by decide) .deepNesting] },
        { path := "a.py", findings := [bareFinding "a.py" 5 (by decide) .equalsBool] }] }

theorem reports_agree_mixed :
    mixed.Clear ∧ ∃ byFile bySeverity : List Finding,
      byFile.Perm bySeverity ∧ bySeverity.length = 3 ∧
      (∃ body, Tells .plain mixed .bySeverity bySeverity body ∧
        text .plain .bySeverity mixed = body ++ lines .plain (openingLines (totals mixed) ++
          totalLines 3 [(.high, 1), (.info, 2)] ++ alarmLines true)) ∧
      (∃ body, Tells .plain mixed .byFile byFile body ∧
        text .plain .byFile mixed = body ++ lines .plain (openingLines (totals mixed) ++
          totalLines 3 [(.high, 1), (.info, 2)] ++ alarmLines true)) ∧
      summaryField? (surveyData "1.0" mixed) "total_issues" = some (.int 3) := by
  have clear : mixed.Clear := by
    intro a member stated
    simp only [mixed, List.mem_cons, List.not_mem_nil, or_false] at member
    rcases member with rfl | rfl | rfl
    · rfl
    · exact absurd rfl stated
    · exact absurd rfl stated
  obtain ⟨_, told, total, alike, texts, stated, _⟩ := reports_agree.2 "1.0" .plain mixed clear
  have three : total = 3 := (texts .byFile).2.1.symm.trans (texts .byFile).1.length_eq
  have counts : ∀ grouping, severityCounts (told grouping) = [(.high, 1), (.info, 2)] :=
    fun grouping => (severity_counts_perm (texts grouping).1).trans (by decide)
  have alarming : ∀ grouping, anySerious (told grouping) = true :=
    fun grouping => (texts grouping).1.any_eq.trans (by decide)
  subst three
  simp only [counts, alarming] at texts
  exact ⟨clear, told .byFile, told .bySeverity, alike, (texts .bySeverity).2.1,
    (texts .bySeverity).2.2.1, (texts .byFile).2.2.1, stated⟩

end Guarantees

end Report

end RefactorAdvice
