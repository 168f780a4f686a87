import RefactorAdvice.Proofs.SettingSlots
import RefactorAdvice.Proofs.ValidSettings
import RefactorAdvice.Settings.Written

/-!
Settings in their notations. Settings that are written out as a table are read back from it as
they were, and those out of range are refused by their first fault. Texts that can be read as the
options of a file of sections say the same in a table: only the table forgives blanks around the
word of a switch, and no such word has any.
-/

namespace RefactorAdvice.Settings

section Written

theorem told_raw {α : Type} (slot : Slot α) (read : Data → Except Refusal (Option α))
    (own : List (String × Data)) (s : Settings) (raw : Data) (set : slot.raw? own = some raw)
    (same : read raw = .ok (some (slot.value s))) : slot.Told read own s := by
  rw [Slot.Told, set]
  exact same

theorem written_switches (s : Settings) :
    ∀ slot ∈ Slot.switches, slot.raw? s.table = some (.bool (slot.value s)) := by
  simp only [Slot.switches, List.forall_mem_cons, Slot.raw?]
  simp [sectionTable, Data.lookup, table, sections]

theorem written_limits (s : Settings) :
    ∀ slot ∈ Slot.limits, slot.raw? s.table = some (.int (slot.value s)) := by
  simp only [Slot.limits, List.forall_mem_cons, Slot.raw?]
  simp [sectionTable, Data.lookup, table, sections]

theorem written_threshold (s : Settings) :
    Slot.threshold.raw? s.table = some (.float (Slot.threshold.value s)) := by
  simp [Slot.threshold, Slot.raw?, sectionTable, Data.lookup, table, sections]

theorem any_text_too_long (texts : List String) : anyTooLong (texts.map .text) = false := by
  induction texts with
  | nil => rfl
  | cons text rest ih => simp [anyTooLong, isTooLong, ih]

theorem written_patterns (s : Settings) : patternsOf s.table = .ok s.excludePatterns := by
  have set : Data.lookup "exclude_patterns" s.table = some s.patterns := by
    simp [Data.lookup, table, sections]
  have plain : (s.excludePatterns.map Data.text).map Data.plain = s.excludePatterns := by
    rw [List.map_map]
    exact List.map_id _
  simp only [patternsOf, set, patterns, asList, asTexts, any_text_too_long, plain]
  rfl

theorem written_tells (s : Settings) : Tells s.table s where
  switches slot member := told_raw slot _ _ s _ (written_switches s slot member) rfl
  limits slot member := told_raw slot _ _ s _ (written_limits s slot member) rfl
  threshold := told_raw Slot.threshold _ _ s _ (written_threshold s) rfl
  patterns := written_patterns s

/-- Settings in range are read back from their table, with nothing to warn of; others are refused
for their first fault. -/
theorem of_table_written (s : Settings) :
    (s.fault? = none → (ofTable (underTool s.table)).outcome = (.ok s, [])) ∧
      ∀ fault, s.fault? = some fault →
        (ofTable (underTool s.table)).outcome = (.error (.outOfRange fault), []) ∧
          (Refusal.outOfRange fault).kind = .value := by
  have read := of_table_told s.table s (written_tells s)
  constructor
  · intro valid
    rw [read, checked, valid]
  · intro fault faulty
    rw [read, checked, faulty]
    exact ⟨rfl, rfl⟩

theorem of_table_written_patterns :
    (ofTable (underTool (table { loops := ⟨false⟩, excludePatterns := ["a,b", ""] }))).outcome =
        (.ok { loops := ⟨false⟩, excludePatterns := ["a,b", ""] }, []) ∧
      (ofTable (underTool (table { duplication := { minDuplicateLines := 1 } }))).outcome =
        (.error (.outOfRange (.below "duplication.min_duplicate_lines" 2 1)), []) :=
  ⟨(of_table_written _).1 usual_valid,
    ((of_table_written _).2 _ (by decide)).1⟩

end Written

section Words

-- There are few blanks, so each is looked up in the table of small letters.
theorem lower_blank (c : Char) (blank : Text.isBlank c = true) : Text.lowerChar c = [c] := by
  have listed : ∀ code ∈ [0x09, 0x0a, 0x0b, 0x0c, 0x0d, 0x1c, 0x1d, 0x1e, 0x1f, 0x20, 0x85, 0xa0,
      0x1680, 0x2000, 0x2001, 0x2002, 0x2003, 0x2004, 0x2005, 0x2006, 0x2007, 0x2008, 0x2009,
      0x200a, 0x2028, 0x2029, 0x202f, 0x205f, 0x3000],
      Text.lowerChar (Char.ofNat code) = [Char.ofNat code] := by decide +kernel
  have here := listed c.toNat (by
    simp only [Text.isBlank, Bool.or_eq_true, Bool.and_eq_true, decide_eq_true_eq,
      beq_iff_eq] at blank
    simp only [List.mem_cons, List.not_mem_nil]
    omega)
  rwa [Char.ofNat_toNat] at here

theorem mem_lower_blank (cs : List Char) (c : Char) (member : c ∈ cs)
    (blank : Text.isBlank c = true) : c ∈ Text.lower cs :=
  List.mem_flatMap.mpr ⟨c, member, by simp [lower_blank c blank]⟩

theorem strip_solid (cs : List Char) (solid : ∀ c ∈ cs, Text.isBlank c = false) :
    Text.strip cs = cs := by
  have kept (ds : List Char) (same : ∀ c ∈ ds, Text.isBlank c = false) :
      ds.dropWhile Text.isBlank = ds := by
    cases ds with
    | nil => rfl
    | cons c rest => rw [List.dropWhile_cons_of_neg (by simp [same c])]
  have backwards : ∀ c ∈ cs.reverse, Text.isBlank c = false := fun c member =>
    solid c (List.mem_reverse.mp member)
  rw [Text.strip, Text.stripLeft, kept cs solid, Text.stripRight, kept cs.reverse backwards,
    List.reverse_reverse]

theorem switch_word_solid (word : String) (value : Bool) (known : switchWord? word = some value) :
    ∀ c ∈ word.toList, Text.isBlank c = false := by
  have solid : ∀ word ∈ trueWords ++ falseWords,
      word.toList.all (fun c => !Text.isBlank c) = true := by decide
  have listed : word ∈ trueWords ++ falseWords := by
    unfold switchWord? at known
    grind
  intro c inside
  have here := List.all_eq_true.mp (solid word listed) c inside
  simpa using here

theorem stripped_switch (text : String) (value : Bool)
    (known : switchWord? (lowered text) = some value) : Text.stripped text = text := by
  have solid : ∀ c ∈ text.toList, Text.isBlank c = false := by
    intro c member
    cases blank : Text.isBlank c with
    | false => rfl
    | true =>
      have kept : c ∈ (lowered text).toList := by
        rw [lowered, String.toList_ofList]
        exact mem_lower_blank text.toList c member blank
      rw [← blank]
      exact switch_word_solid (lowered text) value known c kept
  rw [Text.stripped, strip_solid text.toList solid, String.ofList_toList]

end Words

section Names

def sectionNames : List (String × List String) :=
  ({} : Settings).sections.map fun (header, fields) => (header, fields.map Prod.fst)

def Slot.Listed {α : Type} (slot : Slot α) : Prop :=
  ∃ entry ∈ sectionNames, entry.1 = slot.header ∧ slot.name ∈ entry.2

instance {α : Type} (slot : Slot α) : Decidable slot.Listed :=
  inferInstanceAs (Decidable (∃ entry ∈ sectionNames, entry.1 = slot.header ∧ slot.name ∈ entry.2))

theorem switches_listed : ∀ slot ∈ Slot.switches, slot.Listed := by decide

theorem limits_listed : ∀ slot ∈ Slot.limits, slot.Listed := by decide

theorem threshold_listed : Slot.threshold.Listed := by decide

end Names

section Texts

abbrev Texts := String → String → Option String

namespace Texts

def lookup (texts : Texts) : Lookup := fun header name => .ok (texts header name)

/-- A table that holds the texts, and no other value for a setting. -/
structure SetIn (texts : Texts) (own : List (String × Data)) : Prop where
  switches : ∀ slot ∈ Slot.switches, slot.raw? own = (texts slot.header slot.name).map .text
  limits : ∀ slot ∈ Slot.limits, slot.raw? own = (texts slot.header slot.name).map .text
  threshold : Slot.threshold.raw? own =
    (texts Slot.threshold.header Slot.threshold.name).map .text
  patterns : Data.lookup "exclude_patterns" own =
    (texts "general" "exclude_patterns").map .text

def fields (texts : Texts) (header : String) (names : List String) : List (String × Data) :=
  names.filterMap fun name => (texts header name).map fun text => (name, .text text)

def table (texts : Texts) : List (String × Data) :=
  sectionNames.map (fun (header, names) => (header, .table (texts.fields header names))) ++
    ((texts "general" "exclude_patterns").map fun text => ("exclude_patterns", .text text)).toList

theorem lookup_fields (texts : Texts) (header name : String) (names : List String) :
    Data.lookup name (texts.fields header names) =
      if name ∈ names then (texts header name).map .text else none := by
  induction names with
  | nil => rfl
  | cons first rest ih =>
    by_cases same : first = name
    · subst same
      cases given : texts header first with
      | none =>
        -- The name stays out of the table, however often it is listed.
        have skipped : texts.fields header (first :: rest) = texts.fields header rest := by
          simp [fields, given]
        rw [skipped, ih]
        simp [given]
      | some text => simp [fields, Data.lookup, given]
    · have apart : Data.lookup name (texts.fields header (first :: rest)) =
          Data.lookup name (texts.fields header rest) := by
        cases given : texts header first with
        | none => simp [fields, given]
        | some text => simp [fields, Data.lookup, given, same]
      rw [apart, ih]
      simp [Ne.symm same]

theorem section_table (texts : Texts) (header : String) (names : List String)
    (member : (header, names) ∈ sectionNames) :
    sectionTable header texts.table = texts.fields header names := by
  simp only [sectionNames, sections, List.map_cons, List.map_nil, List.mem_cons, Prod.mk.injEq,
    List.not_mem_nil, or_false] at member
  rcases member with ⟨rfl, rfl⟩ | ⟨rfl, rfl⟩ | ⟨rfl, rfl⟩ | ⟨rfl, rfl⟩ | ⟨rfl, rfl⟩ | ⟨rfl, rfl⟩ |
    ⟨rfl, rfl⟩ | ⟨rfl, rfl⟩ | ⟨rfl, rfl⟩ <;> rfl

theorem raw_table {α : Type} (texts : Texts) (slot : Slot α) (listed : slot.Listed) :
    slot.raw? texts.table = (texts slot.header slot.name).map .text := by
  obtain ⟨⟨header, names⟩, member, rfl, named⟩ := listed
  rw [Slot.raw?, section_table texts slot.header names member, lookup_fields, if_pos named]

theorem set_in_table (texts : Texts) : texts.SetIn texts.table where
  switches slot member := raw_table texts slot (switches_listed slot member)
  limits slot member := raw_table texts slot (limits_listed slot member)
  threshold := raw_table texts Slot.threshold threshold_listed
  patterns := by
    cases given : texts "general" "exclude_patterns" with
    | none => simp [Data.lookup, table, sectionNames, sections, given]
    | some text => simp [Data.lookup, table, sectionNames, sections, given]

end Texts

theorem told_option {α : Type} (slot : Slot α) (readText : String → Except Refusal α)
    (read : Data → Except Refusal (Option α)) (texts : Texts) (own : List (String × Data))
    (s : Settings)
    (agree : ∀ text value, readText text = .ok value → read (.text text) = .ok (some value))
    (set : slot.raw? own = (texts slot.header slot.name).map .text)
    (spelt : option texts.lookup slot.header slot.name readText (slot.value {}) =
      .ok (slot.value s)) :
    slot.Told read own s := by
  rw [Slot.Told, set]
  rw [option, Texts.lookup] at spelt
  cases given : texts slot.header slot.name with
  | none =>
    rw [given] at spelt
    exact (Except.ok.inj spelt).symm
  | some text =>
    rw [given] at spelt
    exact agree text _ spelt

theorem read_switch_agrees (text : String) (value : Bool) (read : readSwitch text = .ok value) :
    asBool? (.text text) = some value := by
  unfold readSwitch at read
  cases known : switchWord? (lowered text) with
  | none => simp [known] at read
  | some word =>
    rw [known] at read
    cases read
    rw [asBool?, stripped_switch text value known, known]

theorem to_option_of_map_error {φ α : Type} (x : Except φ α) (blame : φ → Refusal) (value : α)
    (read : x.mapError blame = .ok value) : x.toOption = some value := by
  cases x with
  | error fault => cases read
  | ok number =>
    cases read
    rfl

theorem read_int_agrees (text : String) (value : Int) (read : readInt text = .ok value) :
    asInt (.text text) = .ok (some value) := by
  rw [asInt, to_option_of_map_error _ _ value read]

theorem read_float_agrees (text : String) (value : Binary64) (read : readFloat text = .ok value) :
    asFloat (.text text) = .ok (some value) := by
  rw [asFloat, to_option_of_map_error _ _ value read]

theorem patterns_agree (texts : Texts) (own : List (String × Data)) (s : Settings)
    (set : texts.SetIn own) (spelt : Spells texts.lookup s) :
    patternsOf own = .ok s.excludePatterns := by
  have given := spelt.patterns
  rw [patternsOf, set.patterns]
  rw [option, Texts.lookup] at given
  cases text? : texts "general" "exclude_patterns" with
  | none =>
    rw [text?] at given
    exact given
  | some text =>
    rw [text?] at given
    exact given

theorem texts_tell (texts : Texts) (own : List (String × Data)) (s : Settings)
    (set : texts.SetIn own) (spelt : Spells texts.lookup s) : Tells own s where
  switches slot member :=
    told_option slot readSwitch _ texts own s
      (fun text value read => by rw [read_switch_agrees text value read])
      (set.switches slot member) (spelt.switches slot member)
  limits slot member :=
    told_option slot readInt _ texts own s read_int_agrees
      (set.limits slot member) (spelt.limits slot member)
  threshold :=
    told_option Slot.threshold readFloat _ texts own s read_float_agrees
      set.threshold spelt.threshold
  patterns := patterns_agree texts own s set spelt

/-- Where texts can be read as options, every table that holds them is read as the same settings,
with nothing to warn of; and there is such a table. -/
theorem table_agrees_with_options (texts : Texts) (s : Settings)
    (read : ofLookup texts.lookup = .ok s) :
    texts.SetIn texts.table ∧
      ∀ own, texts.SetIn own → (ofTable (underTool own)).outcome = (.ok s, []) := by
  refine ⟨texts.set_in_table, fun own set => ?_⟩
  have spelt := of_lookup_spells texts.lookup s read
  rw [of_table_told own s (texts_tell texts own s set spelt), checked, spelt.valid]

def Texts.sample : Texts
  | "complexity", "enabled" => some "OFF"
  | "complexity", "max_branches" => some " +1_2 "
  | "duplication", "similarity_threshold" => some "5e-1"
  | "loops", "enabled" => some "Yes"
  | _, _ => none

def Texts.sampleSettings : Settings where
  complexity := { enabled := false, maxBranches := 12 }
  duplication := { similarityThreshold := .ofDecimal false 5 (-1) }

theorem sample_read : ofLookup Texts.sample.lookup = .ok Texts.sampleSettings :=
  ok_of_to_option _ _ (by decide +kernel)

theorem table_agrees_with_options_sample :
    ofLookup Texts.sample.lookup = .ok Texts.sampleSettings ∧
      (ofTable (underTool Texts.sample.table)).outcome = (.ok Texts.sampleSettings, []) := by
  obtain ⟨set, same⟩ := table_agrees_with_options Texts.sample Texts.sampleSettings sample_read
  exact ⟨sample_read, same Texts.sample.table set⟩

end Texts

end RefactorAdvice.Settings
