import Mathlib.Data.List.Forall2
import RefactorAdvice.Report.Json

/-!
A payload tells all of a survey. Values are compared by what they hold, so the order of the keys
in a table does not count. Two encodings are alike under each key where the whole are, which
takes the question from a survey to its files, from a file to its findings and from a finding to
its fields. A field without a value is one whose key is absent, and no value looks like that.
-/

namespace RefactorAdvice

namespace Data

section Contents

/-- Values that hold the same, whatever the order of the keys in their tables. -/
inductive Same : Data → Data → Prop where
  | refl (d : Data) : Same d d
  | list (xs ys : List Data) (items : List.Forall₂ Same xs ys) : Same (.list xs) (.list ys)
  | table (xs ys : List (String × Data))
      (fields : ∀ key, Option.Rel Same (lookup key xs) (lookup key ys)) :
      Same (.table xs) (.table ys)

theorem same_get (d e : Data) (same : Same d e) (key : String) :
    Option.Rel Same (d.get? key) (e.get? key) := by
  cases same with
  | refl =>
    cases d.get? key with
    | none => exact .none
    | some value => exact .some (.refl value)
  | list => exact .none
  | table xs ys fields => exact fields key

theorem same_items (xs ys : List Data) (same : Same (.list xs) (.list ys)) :
    List.Forall₂ Same xs ys := by
  cases same with
  | refl => exact List.forall₂_same.mpr fun d _ => .refl d
  | list _ _ items => exact items

theorem lookup_append (key : String) (xs ys : List (String × Data)) :
    lookup key (xs ++ ys) = (lookup key xs).or (lookup key ys) := by
  simp only [lookup, List.find?_append, Option.map_or]

end Contents

section Encodings
variable {α : Type} {fits : α → Prop} {encode : α → Data}

def FaithfulOn (fits : α → Prop) (encode : α → Data) : Prop :=
  ∀ x y, fits x → fits y → Same (encode x) (encode y) → x = y

theorem faithful_text : FaithfulOn (fun _ => True) Data.text := by
  intro x y _ _ same
  cases same
  rfl

theorem faithful_nat : FaithfulOn (fun _ => True) fun n : Nat => Data.int n := by
  intro x y _ _ same
  have equal : (x : Int) = y := by
    cases same
    rfl
  exact Int.ofNat_inj.mp equal

theorem faithful_list (faithful : FaithfulOn fits encode) :
    FaithfulOn (fun xs => ∀ x ∈ xs, fits x) fun xs : List α => .list (xs.map encode) := by
  intro xs ys fitsX fitsY same
  have items := same_items _ _ same
  rw [List.forall₂_map_left_iff, List.forall₂_map_right_iff] at items
  clear same
  induction items with
  | nil => rfl
  | cons head _ ih =>
    have first := faithful _ _ (fitsX _ List.mem_cons_self) (fitsY _ List.mem_cons_self) head
    have rest := ih (fun x member => fitsX x (List.mem_cons_of_mem _ member))
      (fun y member => fitsY y (List.mem_cons_of_mem _ member))
    rw [first, rest]

theorem field_eq (faithful : FaithfulOn fits encode) (d e : Data) (same : Same d e) (key : String)
    (x y : α) (fitsX : fits x) (fitsY : fits y) (left : d.get? key = some (encode x))
    (right : e.get? key = some (encode y)) : x = y := by
  have related := same_get d e same key
  rw [left, right] at related
  cases related with
  | some held => exact faithful x y fitsX fitsY held

theorem optional_field_eq (faithful : FaithfulOn (fun _ => True) encode) (d e : Data)
    (same : Same d e) (key : String) (x y : Option α) (left : d.get? key = x.map encode)
    (right : e.get? key = y.map encode) : x = y := by
  have related := same_get d e same key
  rw [left, right] at related
  cases x with
  | none =>
    cases y with
    | none => rfl
    | some _ => cases related
  | some x =>
    cases y with
    | none => cases related
    | some y =>
      cases related with
      | some held => rw [faithful x y trivial trivial held]

end Encodings

end Data

theorem Severity.name_injective (a b : Severity) (same : a.name = b.name) : a = b := by
  revert same
  cases a <;> cases b <;> decide

def Survey.Filed (s : Survey) : Prop := ∀ a ∈ s.files, ∀ f ∈ a.findings, f.file = a.path

namespace Report

open Data hiding none

section Fields

theorem lookup_optional (key name : String) (value : Option Data) :
    lookup key (optional name value) = if name == key then value else none := by
  cases value with
  | none => simp [optional, lookup]
  | some d => by_cases same : name = key <;> simp [optional, lookup, same]

/-- The payload of a finding, field by field. -/
theorem finding_fields (f : Finding) :
    (findingData f).get? "line" = some (.int f.line) ∧
      (findingData f).get? "column" = some (.int f.column) ∧
      (findingData f).get? "severity" = some (.text f.severity.name) ∧
      (findingData f).get? "rule_id" = some (.text f.rule) ∧
      (findingData f).get? "message" = some (.text f.message) ∧
      (findingData f).get? "suggestion" = f.suggestion.map .text ∧
      (findingData f).get? "code_snippet" = f.snippet.map .text ∧
      (findingData f).get? "end_line" = f.endLine.map fun n => .int n := by
  simp only [findingData, get?, lookup_append, lookup_optional]
  cases f.endLine <;> simp [lookup]

theorem analysis_fields (a : Analysis) :
    (analysisData a).get? "path" = some (.text a.path) ∧
      (analysisData a).get? "lines_of_code" = some (.int a.lineCount) ∧
      (analysisData a).get? "issues" = some (.list (a.findings.map findingData)) ∧
      (analysisData a).get? "warnings" = some (.list (a.warnings.map .text)) ∧
      (analysisData a).get? "parse_error" = some ((a.parseError.map Data.text).getD .none) := by
  simp [analysisData, get?, lookup]

theorem survey_fields (version : String) (s : Survey) :
    (surveyData version s).get? "files" = some (.list (s.files.map analysisData)) ∧
      (surveyData version s).get? "excluded_file_count" = some (.int s.excluded) := by
  simp [surveyData, get?, lookup]

end Fields

section Faithful

theorem faithful_severity : FaithfulOn (fun _ => True) fun level : Severity => .text level.name :=
  fun x y _ _ same => x.name_injective y (faithful_text _ _ trivial trivial same)

theorem faithful_reason :
    FaithfulOn (fun _ => True) fun reason : Option String => (reason.map Data.text).getD .none := by
  intro x y _ _ same
  cases x with
  | none =>
    cases y with
    | none => rfl
    | some _ => cases same
  | some x =>
    cases y with
    | none => cases same
    | some y => rw [faithful_text x y trivial trivial same]

-- The file is the one part of a finding that its payload leaves out.
theorem faithful_finding (path : String) :
    FaithfulOn (fun f : Finding => f.file = path) findingData := by
  intro f g ownF ownG same
  obtain ⟨lineF, columnF, severityF, ruleF, messageF, suggestionF, snippetF, endF⟩ :=
    finding_fields f
  obtain ⟨lineG, columnG, severityG, ruleG, messageG, suggestionG, snippetG, endG⟩ :=
    finding_fields g
  have fileEq : f.file = g.file := ownF.trans ownG.symm
  have lineEq := field_eq faithful_nat _ _ same "line" _ _ trivial trivial lineF lineG
  have columnEq := field_eq faithful_nat _ _ same "column" _ _ trivial trivial columnF columnG
  have severityEq :=
    field_eq faithful_severity _ _ same "severity" _ _ trivial trivial severityF severityG
  have ruleEq := field_eq faithful_text _ _ same "rule_id" _ _ trivial trivial ruleF ruleG
  have messageEq := field_eq faithful_text _ _ same "message" _ _ trivial trivial messageF messageG
  have suggestionEq :=
    optional_field_eq faithful_text _ _ same "suggestion" _ _ suggestionF suggestionG
  have snippetEq := optional_field_eq faithful_text _ _ same "code_snippet" _ _ snippetF snippetG
  have endEq := optional_field_eq faithful_nat _ _ same "end_line" _ _ endF endG
  cases f
  cases g
  simp only at fileEq lineEq columnEq severityEq ruleEq messageEq suggestionEq snippetEq endEq
  subst fileEq lineEq columnEq severityEq ruleEq messageEq suggestionEq snippetEq endEq
  rfl

theorem faithful_analysis :
    FaithfulOn (fun a : Analysis => ∀ f ∈ a.findings, f.file = a.path) analysisData := by
  intro a b ownA ownB same
  obtain ⟨pathA, linesA, findingsA, warningsA, reasonA⟩ := analysis_fields a
  obtain ⟨pathB, linesB, findingsB, warningsB, reasonB⟩ := analysis_fields b
  have pathEq := field_eq faithful_text _ _ same "path" _ _ trivial trivial pathA pathB
  have linesEq := field_eq faithful_nat _ _ same "lines_of_code" _ _ trivial trivial linesA linesB
  have findingsEq := field_eq (faithful_list (faithful_finding a.path)) _ _ same "issues" _ _ ownA
    (pathEq ▸ ownB) findingsA findingsB
  have warningsEq := field_eq (faithful_list faithful_text) _ _ same "warnings" _ _
    (fun _ _ => trivial) (fun _ _ => trivial) warningsA warningsB
  have reasonEq := field_eq faithful_reason _ _ same "parse_error" _ _ trivial trivial reasonA
    reasonB
  cases a
  cases b
  simp only at pathEq linesEq findingsEq warningsEq reasonEq
  subst pathEq linesEq findingsEq warningsEq reasonEq
  rfl

end Faithful

section Guarantees

/--
Payloads of one version that hold the same are of the same survey, if findings name the file
they are listed under. Of the fields that a finding may lack, each has its key in the payload
exactly where it has a value, and under it that value.
-/
theorem payload_lossless (version : String) :
    (∀ s t : Survey, s.Filed → t.Filed →
      Same (surveyData version s) (surveyData version t) → s = t) ∧
    ∀ f : Finding,
      (findingData f).get? "suggestion" = f.suggestion.map .text ∧
      (findingData f).get? "code_snippet" = f.snippet.map .text ∧
      (findingData f).get? "end_line" = f.endLine.map fun n => .int n := by
  constructor
  · intro s t filedS filedT same
    obtain ⟨filesS, excludedS⟩ := survey_fields version s
    obtain ⟨filesT, excludedT⟩ := survey_fields version t
    have filesEq := field_eq (faithful_list faithful_analysis) _ _ same "files" _ _ filedS filedT
      filesS filesT
    have excludedEq := field_eq faithful_nat _ _ same "excluded_file_count" _ _ trivial trivial
      excludedS excludedT
    cases s
    cases t
    simp only at filesEq excludedEq
    subst filesEq excludedEq
    rfl
  · intro f
    exact (finding_fields f).2.2.2.2.2

def advised (advice : Option String) : Survey :=
  { files := [{ path := "a.py", findings :=
      [{ file := "a.py", line := 3, column := 0, severity := .low, rule := "X001", message := "m"
         suggestion := advice, snippet := none, endLine := some 4, line_pos := by decide
         line_le_end := by simp }] }] }

theorem payload_lossless_advised :
    (advised none).Filed ∧ (advised (some "")).Filed ∧
      ¬ Same (surveyData "1.0" (advised none)) (surveyData "1.0" (advised (some ""))) ∧
      Same (surveyData "1.0" ((advised none).atLeast .low)) (surveyData "1.0" (advised none)) ∧
      (advised none).atLeast .low = advised none := by
  have filed : ∀ advice, (advised advice).Filed := by
    intro advice a member f found
    rw [List.mem_singleton.mp member] at found ⊢
    rw [List.mem_singleton.mp found]
  have kept : ((advised none).atLeast .low).Filed := filed none
  have same : Same (surveyData "1.0" ((advised none).atLeast .low))
      (surveyData "1.0" (advised none)) := .refl _
  refine ⟨filed none, filed _, fun alike => ?_, same,
    (payload_lossless "1.0").1 _ _ kept (filed none) same⟩
  have equal := (payload_lossless "1.0").1 _ _ (filed none) (filed (some "")) alike
  revert equal
  decide

end Guarantees

end Report

end RefactorAdvice
