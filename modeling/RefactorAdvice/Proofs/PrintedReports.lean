import Mathlib.Data.List.Basic
import RefactorAdvice.Proofs.ShownMessages

/-!
What a text report holds. It is the lines of its items one after the other, and the summary is
the last of them. By file, each file is told of in one stretch: its reason if it has one, and
otherwise its warnings under its name. By severity only findings are told of, so that reasons and
warnings show in the numbers of the summary and nowhere else.
-/

namespace RefactorAdvice.Report

section Lines

def lines (sink : Sink) (messages : List String) : String :=
  String.join (messages.map fun message => sink.shown message ++ "\n")

theorem lines_append (sink : Sink) (first second : List String) :
    lines sink (first ++ second) = lines sink first ++ lines sink second := by
  simp only [lines, List.map_append, String.join_append]

def printed (sink : Sink) (its : List Item) : String :=
  lines sink (its.flatMap (Item.messages sink.icon))

theorem printed_append (sink : Sink) (first second : List Item) :
    printed sink (first ++ second) = printed sink first ++ printed sink second := by
  simp only [printed, List.flatMap_append, lines_append]

theorem text_printed (sink : Sink) (grouping : Grouping) (s : Survey) :
    text sink grouping s = printed sink (items grouping s) := rfl

/-- A text in which messages stand at a place, one right after the other. -/
def Holds (sink : Sink) (text : String) (messages : List String) : Prop :=
  ∃ before after, text = before ++ lines sink messages ++ after

theorem holds_within (sink : Sink) (text : String) (before messages after : List String)
    (held : Holds sink text (before ++ messages ++ after)) : Holds sink text messages := by
  obtain ⟨sooner, later, rfl⟩ := held
  refine ⟨sooner ++ lines sink before, lines sink after ++ later, ?_⟩
  simp only [lines_append, String.append_assoc]

end Lines

section Items

def bodyItems (s : Survey) : Grouping → List Item
  | .byFile => filesItems s
  | .bySeverity => severitiesItems s

theorem items_split (grouping : Grouping) (s : Survey) :
    items grouping s = bodyItems s grouping ++ [.summary (totals s)] := by
  cases grouping <;> rfl

theorem text_split (sink : Sink) (grouping : Grouping) (s : Survey) :
    text sink grouping s =
      printed sink (bodyItems s grouping) ++ lines sink (totalsLines (totals s)) := by
  rw [text_printed, items_split, printed_append]
  simp only [printed, List.flatMap_cons, List.flatMap_nil, List.append_nil, Item.messages]

theorem holds_file (sink : Sink) (s : Survey) (a : Analysis) (member : a ∈ s.files) :
    Holds sink (text sink .byFile s) ((fileItems a).flatMap (Item.messages sink.icon)) := by
  obtain ⟨sooner, later, split⟩ := List.append_of_mem member
  refine ⟨printed sink (sooner.flatMap fileItems),
    printed sink (later.flatMap fileItems) ++ lines sink (totalsLines (totals s)), ?_⟩
  rw [text_split]
  simp only [bodyItems, filesItems, split, List.flatMap_append, List.flatMap_cons, printed_append,
    String.append_assoc]
  rfl

end Items

section Reasons

theorem reason_some_iff (a : Analysis) (reason : String) :
    reason? a = some reason ↔ a.parseError = some reason ∧ reason ≠ "" := by
  unfold reason?
  rw [Option.filter_eq_some_iff, bne_iff_ne]

theorem reason_none_iff (a : Analysis) :
    reason? a = none ↔ ∀ reason, a.parseError = some reason → reason = "" := by
  rw [Option.eq_none_iff_forall_ne_some]
  simp only [ne_eq, reason_some_iff, not_and_not_right]

theorem file_items_reason (a : Analysis) (reason : String) (stated : reason? a = some reason) :
    fileItems a = [.parseError a.path reason] := by
  simp only [fileItems, stated]

theorem file_items_open (a : Analysis) (unstated : reason? a = none) :
    fileItems a = [] ∧ a.findings = [] ∧ a.warnings = [] ∨
      fileItems a =
        .file a.path :: a.warnings.map .warning ++ (byLine a.findings).map (.finding · false) := by
  simp only [fileItems, unstated]
  split
  · next bare =>
    rw [Bool.and_eq_true, List.isEmpty_iff, List.isEmpty_iff] at bare
    exact Or.inl ⟨rfl, bare⟩
  · exact Or.inr rfl

end Reasons

section Telling

def reasonLines (path reason : String) : List String :=
  ["\n" ++ painted .red ("✗ " ++ path), "  Parse error: " ++ reason]

def warningLines (path : String) (warnings : List String) : List String :=
  ("\n" ++ painted .cyan path) ::
    warnings.map fun warning => "  " ++ painted .yellow ("⚠ Warning: " ++ warning)

theorem reason_told (sink : Sink) (s : Survey) (a : Analysis) (member : a ∈ s.files)
    (reason : String) (stated : reason? a = some reason) :
    Holds sink (text sink .byFile s) (reasonLines a.path reason) := by
  have held := holds_file sink s a member
  rw [file_items_reason a reason stated] at held
  exact held

theorem warnings_told (sink : Sink) (s : Survey) (a : Analysis) (member : a ∈ s.files)
    (unstated : reason? a = none) (warned : a.warnings ≠ []) :
    Holds sink (text sink .byFile s) (warningLines a.path a.warnings) := by
  have held := holds_file sink s a member
  rcases file_items_open a unstated with ⟨_, _, unwarned⟩ | told
  · exact absurd unwarned warned
  · have opening : (Item.file a.path :: a.warnings.map .warning).flatMap
        (Item.messages sink.icon) = warningLines a.path a.warnings := by
      rw [List.flatMap_cons, List.flatMap_map, warningLines, List.map_eq_flatMap]
      rfl
    rw [told, List.flatMap_append, opening] at held
    exact holds_within sink _ [] _ _ held

theorem total_told (sink : Sink) (grouping : Grouping) (s : Survey) (message : String)
    (member : message ∈ totalsLines (totals s)) :
    Holds sink (text sink grouping s) [message] := by
  obtain ⟨sooner, later, split⟩ := List.append_of_mem member
  refine ⟨printed sink (bodyItems s grouping) ++ lines sink sooner, lines sink later, ?_⟩
  rw [text_split, split, ← List.singleton_append, lines_append, lines_append]
  simp only [String.append_assoc]

theorem warnings_counted (s : Survey) :
    (totals s).warnings = (s.files.flatMap (·.warnings)).length := by
  simp only [totals]
  induction s.files with
  | nil => rfl
  | cons a rest ih => simp only [List.map_cons, List.foldr_cons, ih, List.flatMap_cons,
      List.length_append]

theorem numbers_told (sink : Sink) (grouping : Grouping) (s : Survey) :
    ((totals s).parseErrors ≠ 0 → Holds sink (text sink grouping s)
        [s!"Files with parse errors: {(totals s).parseErrors}"]) ∧
      ((totals s).warnings ≠ 0 → Holds sink (text sink grouping s)
        [s!"Analysis warnings: {(totals s).warnings}"]) := by
  constructor
  · intro stated
    apply total_told
    simp only [totalsLines, if_neg stated, List.mem_append, List.mem_singleton, true_or, or_true]
  · intro warned
    apply total_told
    simp only [totalsLines, if_neg warned, List.mem_append, List.mem_singleton, true_or, or_true]

-- By severity a report goes by the findings and the totals, and by nothing else of a survey.
theorem by_severity_determined (sink : Sink) (s t : Survey) (found : t.findings = s.findings)
    (counted : totals t = totals s) : text sink .bySeverity t = text sink .bySeverity s := by
  have levels : ∀ level, severityItems t level = severityItems s level := by
    intro level
    have same : t.bySeverity level = s.bySeverity level := by
      rw [Survey.bySeverity, Survey.bySeverity, found]
    rw [severityItems, severityItems, same]
  rw [text_split, text_split, counted]
  simp only [bodyItems, severitiesItems, funext levels]

end Telling

section Guarantees

/--
What can be shown is shown as it is. By file, a report tells of every file that has a reason with
its path and that reason, and of every other file that has warnings with its path and all of them.
By either grouping it tells how many reasons and warnings there are. By severity it tells no more
of them than that: with the same findings and the same totals it is the same text, whatever the
reasons and warnings.
-/
theorem failures_told (sink : Sink) (s : Survey) :
    sink.Faithful ∧
    (∀ a ∈ s.files,
      (∀ reason, a.parseError = some reason → reason ≠ "" →
        Holds sink (text sink .byFile s) (reasonLines a.path reason)) ∧
      ((∀ reason, a.parseError = some reason → reason = "") → a.warnings ≠ [] →
        Holds sink (text sink .byFile s) (warningLines a.path a.warnings))) ∧
    (∀ grouping,
      let reasons := s.files.countP fun a => a.parseError.isSome
      let warnings := (s.files.flatMap (·.warnings)).length
      (reasons ≠ 0 →
        Holds sink (text sink grouping s) [s!"Files with parse errors: {reasons}"]) ∧
      (warnings ≠ 0 → Holds sink (text sink grouping s) [s!"Analysis warnings: {warnings}"])) ∧
    ∀ t : Survey, t.findings = s.findings → totals t = totals s →
      text sink .bySeverity t = text sink .bySeverity s := by
  refine ⟨sink.faithful, fun a member => ⟨?_, ?_⟩, fun grouping => ?_,
    by_severity_determined sink s⟩
  · intro reason stated worded
    exact reason_told sink s a member reason ((reason_some_iff a reason).mpr ⟨stated, worded⟩)
  · intro unstated warned
    exact warnings_told sink s a member ((reason_none_iff a).mpr unstated) warned
  · have told := numbers_told sink grouping s
    rw [warnings_counted] at told
    exact told

def troubled : Survey :=
  { files := [{ path := "index.py", parseError := some "Syntax error: invalid syntax" },
      { path := "text.py", warnings := ["text cut short"], lineCount := 6000 }] }

theorem failures_told_troubled :
    Holds .rich (text .rich .byFile troubled)
        (reasonLines "index.py" "Syntax error: invalid syntax") ∧
      Holds .rich (text .rich .byFile troubled) (warningLines "text.py" ["text cut short"]) ∧
      Holds .rich (text .rich .bySeverity troubled) ["Files with parse errors: 1"] ∧
      Holds .rich (text .rich .bySeverity troubled) ["Analysis warnings: 1"] ∧
      text .rich .bySeverity { files := [{ path := "a.py", parseError := some "other" },
        { path := "b.py", warnings := ["another"] }] } = text .rich .bySeverity troubled := by
  obtain ⟨_, told, counted, determined⟩ := failures_told .rich troubled
  have broken := (told _ List.mem_cons_self).1 _ rfl (by decide)
  have long := (told _ (List.mem_cons_of_mem _ List.mem_cons_self)).2 (by simp) (by decide)
  obtain ⟨reasons, warnings⟩ := counted .bySeverity
  exact ⟨broken, long, reasons (by decide), warnings (by decide), determined _ rfl (by decide)⟩

theorem mem_lines (messages : List String) (c : Char) :
    c ∈ (lines .rich messages).toList ↔ ∃ message ∈ messages, c ∈ message.toList ∨ c = '\n' := by
  induction messages with
  | nil => simp [lines]
  | cons message rest ih =>
    have split : lines .rich (message :: rest) = message ++ "\n" ++ lines .rich rest := by
      rw [lines, List.map_cons, String.join_cons]
      rfl
    simp [split, ih, or_assoc]

theorem troubled_by_severity :
    text .rich .bySeverity troubled = lines .rich
      ["\n" ++ painted .yellow rule, painted .yellow "Summary", painted .yellow rule,
        "\nFiles analyzed: 2", "Files with issues: 0", "Files with parse errors: 1",
        "Analysis warnings: 1", "Total issues: 0"] := by
  have bare : printed .rich (bodyItems troubled .bySeverity) = "" := rfl
  rw [text_split, bare, String.empty_append]
  rfl

/-- By severity, neither a path nor the reason nor the warning is anywhere in the text. -/
theorem failures_untold_by_severity :
    ¬ ∃ piece ∈ ["index.py", "Syntax error: invalid syntax", "text.py", "text cut short"],
      ∃ before after, text .rich .bySeverity troubled = before ++ piece ++ after := by
  -- Each of them has a letter that the summary has nowhere.
  have ruled : rule.toList = List.replicate 70 '=' := String.toList_ofList
  have absent : 'x' ∉ (text .rich .bySeverity troubled).toList := by
    rw [troubled_by_severity, mem_lines]
    simp [painted, Colour.code, ruled]
  have marked : ∀ piece ∈ ["index.py", "Syntax error: invalid syntax", "text.py",
      "text cut short"], 'x' ∈ piece.toList := by simp
  rintro ⟨piece, listed, before, after, split⟩
  apply absent
  rw [split, String.toList_append, String.toList_append, List.mem_append, List.mem_append]
  exact Or.inl (Or.inr (marked piece listed))

end Guarantees

end RefactorAdvice.Report
