import Mathlib.Tactic.Tauto
import RefactorAdvice.Proofs.SettingSlots
import RefactorAdvice.Settings.Load

/-!
How the loading of a settings file ends. It is meant to end in settings in range, or in a refusal
of the value kind. It ends so for every store and path but in three cases, each with a kind of its
own: whether a file is there cannot be told, the table above that of the settings is no table,
and a number of the table does not fit the kind of its setting.
-/

namespace RefactorAdvice.Settings

open LoggingExcept

/-- An ending that users are told of: settings in range, or a refusal of the value kind. -/
inductive Documented : Except Refusal Settings → Prop where
  | loaded (s : Settings) (valid : s.fault? = none) : Documented (.ok s)
  | refused (refusal : Refusal) (value : refusal.kind = .value) : Documented (.error refusal)

theorem documented_outcome (x : Loading Settings)
    (ends : ∃ ending, Documented ending ∧ Gives x ending) : Documented x.outcome.1 := by
  obtain ⟨ending, known, given⟩ := ends
  rwa [gives_outcome x ending given]

section Numbers

theorem as_int_error_iff (raw : Data) (refusal : Refusal) :
    asInt raw = .error refusal ↔
      refusal = .infinite ∧ ∃ negative, raw = .float (.infinite negative) := by
  unfold asInt
  split <;> simp_all [eq_comm]

theorem as_float_error_iff (raw : Data) (refusal : Refusal) :
    asFloat raw = .error refusal ↔
      refusal = .tooLarge ∧ ∃ n negative, raw = .int n ∧ Binary64.ofInt n = .infinite negative := by
  cases raw with
  | int n =>
    rw [asFloat]
    cases taken : Binary64.ofInt n with
    | infinite negative => simp [taken, eq_comm]
    | finite negative mantissa exponent => simp [taken]
    | nan => simp [taken]
  | _ => simp [asFloat]

end Numbers

section Fields

def Overflows (refusal : Refusal) : Prop := refusal.kind = .overflow

theorem gives_lift {α : Type} (x ending : Except Refusal α) (same : x = ending) :
    Gives (liftRefusal x) ending := by
  subst same
  cases x with
  | error refusal => exact fun _ => rfl
  | ok value => exact fun _ => rfl

-- Only what reads a value refuses it: one that is passed over is logged, and loading goes on.
theorem field_stops {α : Type} (header name kind : String) (read : Data → Except Refusal (Option α))
    (usual : α) (table : List (String × Data)) (how : Refusal → Prop)
    (known : ∀ raw refusal, read raw = .error refusal → how refusal) :
    StopsIff (field header name kind read usual table)
      (∃ raw refusal, Data.lookup name table = some raw ∧ read raw = .error refusal) how := by
  unfold field
  cases set : Data.lookup name table with
  | none => exact Or.inr ⟨by simp, .ok usual, ⟨usual, rfl⟩, fun _ => rfl⟩
  | some raw =>
    cases taken : read raw with
    | error refusal =>
      refine Or.inl ⟨⟨raw, refusal, rfl, taken⟩, refusal, known raw refusal taken, ?_⟩
      exact gives_bind_error _ _ refusal (gives_lift _ _ taken)
    | ok value? =>
      refine Or.inr ⟨by simp [taken], ?_⟩
      cases value? with
      | none =>
        exact ⟨.ok usual, ⟨usual, rfl⟩, gives_bind _ _ _ _ (gives_lift _ _ taken) fun _ => rfl⟩
      | some value =>
        exact ⟨.ok value, ⟨value, rfl⟩, gives_bind _ _ _ _ (gives_lift _ _ taken) fun _ => rfl⟩

theorem bool_field_stops (header : String) (usual : Bool) (table : List (String × Data)) :
    StopsIff (boolField header usual table) False Overflows :=
  ends_congr (by simp) (field_stops header "enabled" "bool" _ usual table _ nofun)

def Endless (table : List (String × Data)) (name : String) : Prop :=
  ∃ negative, Data.lookup name table = some (.float (.infinite negative))

def Outsized (table : List (String × Data)) (name : String) : Prop :=
  ∃ n negative, Data.lookup name table = some (.int n) ∧ Binary64.ofInt n = .infinite negative

theorem int_field_stops (header name : String) (usual : Int) (table : List (String × Data)) :
    StopsIff (intField header name usual table) (Endless table name) Overflows := by
  refine ends_congr ?_ (field_stops header name "int" asInt usual table Overflows ?_)
  · constructor
    · rintro ⟨raw, refusal, set, refused⟩
      obtain ⟨-, negative, rfl⟩ := (as_int_error_iff raw refusal).mp refused
      exact ⟨negative, set⟩
    · rintro ⟨negative, set⟩
      exact ⟨_, .infinite, set, rfl⟩
  · intro raw refusal refused
    obtain ⟨rfl, -⟩ := (as_int_error_iff raw refusal).mp refused
    rfl

theorem float_field_stops (header name : String) (usual : Binary64) (table : List (String × Data)) :
    StopsIff (floatField header name usual table) (Outsized table name) Overflows := by
  refine ends_congr ?_ (field_stops header name "float" asFloat usual table Overflows ?_)
  · constructor
    · rintro ⟨raw, refusal, set, refused⟩
      obtain ⟨-, n, negative, rfl, large⟩ := (as_float_error_iff raw refusal).mp refused
      exact ⟨n, negative, set, large⟩
    · rintro ⟨n, negative, set, large⟩
      exact ⟨_, .tooLarge, set, (as_float_error_iff _ _).mpr ⟨rfl, n, negative, rfl, large⟩⟩
  · intro raw refusal refused
    obtain ⟨rfl, -⟩ := (as_float_error_iff raw refusal).mp refused
    rfl

end Fields

section Sections

theorem complexity_stops (table : List (String × Data)) :
    StopsIff (complexityOf table)
      (Endless table "max_branches" ∨ Endless table "max_nesting_depth" ∨
        Endless table "max_function_lines" ∨ Endless table "max_arguments" ∨
        Endless table "max_local_variables" ∨ Endless table "max_cyclomatic_complexity")
      Overflows := by
  refine ends_congr ?_
    (ends_bind (bool_field_stops _ _ _) fun _ =>
    ends_bind (int_field_stops _ _ _ _) fun _ =>
    ends_bind (int_field_stops _ _ _ _) fun _ =>
    ends_bind (int_field_stops _ _ _ _) fun _ =>
    ends_bind (int_field_stops _ _ _ _) fun _ =>
    ends_bind (int_field_stops _ _ _ _) fun _ =>
    ends_bind (int_field_stops _ _ _ _) fun _ => stops_pure _ _)
  simp

theorem performance_stops (table : List (String × Data)) :
    StopsIff (performanceOf table)
      (Endless table "min_concatenations" ∨ Endless table "min_duplicate_calls") Overflows := by
  refine ends_congr ?_
    (ends_bind (bool_field_stops _ _ _) fun _ =>
    ends_bind (int_field_stops _ _ _ _) fun _ =>
    ends_bind (int_field_stops _ _ _ _) fun _ => stops_pure _ _)
  simp

theorem duplication_stops (table : List (String × Data)) :
    StopsIff (duplicationOf table)
      (Endless table "min_duplicate_lines" ∨ Outsized table "similarity_threshold") Overflows := by
  refine ends_congr ?_
    (ends_bind (bool_field_stops _ _ _) fun _ =>
    ends_bind (int_field_stops _ _ _ _) fun _ =>
    ends_bind (float_field_stops _ _ _ _) fun _ => stops_pure _ _)
  simp

theorem boolean_logic_stops (table : List (String × Data)) :
    StopsIff (booleanLogicOf table) (Endless table "max_boolean_operators") Overflows := by
  refine ends_congr ?_
    (ends_bind (bool_field_stops _ _ _) fun _ =>
    ends_bind (int_field_stops _ _ _ _) fun _ => stops_pure _ _)
  simp

theorem switch_stops (header : String) (table : List (String × Data)) :
    StopsIff (switchOf header table) False Overflows := by
  refine ends_congr ?_
    (ends_bind (bool_field_stops _ _ _) fun _ => stops_pure _ _)
  simp

end Sections

section Tables

/-- A table with a number that does not fit the kind of its setting: an infinite limit, or a
threshold beyond the largest floating-point number. -/
def Excess (own : List (String × Data)) : Prop :=
  (∃ slot ∈ Slot.limits, Endless (sectionTable slot.header own) slot.name) ∨
    Outsized (sectionTable Slot.threshold.header own) Slot.threshold.name

theorem patterns_error (own : List (String × Data)) (refusal : Refusal)
    (refused : patternsOf own = .error refusal) : refusal = .tooLong := by
  unfold patternsOf at refused
  split at refused
  · rename_i raw _
    cases raw with
    | list items =>
      rw [asList, asTexts] at refused
      split at refused
      · cases refused
        rfl
      · cases refused
    | _ => cases refused
  · cases refused

theorem checked_documented (s : Settings) : Documented s.checked := by
  unfold checked
  cases valid : s.fault? with
  | none => exact .loaded s valid
  | some fault => exact .refused _ rfl

theorem patterns_end (own : List (String × Data)) (build : List String → Settings) :
    EndsIn (do liftRefusal (build (← liftRefusal (patternsOf own))).checked) False Overflows
      Documented := by
  cases read : patternsOf own with
  | error refusal =>
    refine Or.inr ⟨id, .error refusal, ?_, gives_bind_error _ _ refusal (gives_lift _ _ rfl)⟩
    rw [patterns_error own refusal read]
    exact .refused _ rfl
  | ok patterns =>
    exact Or.inr ⟨id, (build patterns).checked, checked_documented _,
      gives_bind _ _ patterns _ (gives_lift _ _ rfl) (gives_lift _ _ rfl)⟩

-- The numbers are read before the patterns and before any range is checked, so one that does not
-- fit decides the ending whatever else the table holds.
theorem of_own_table_ends (own : List (String × Data)) :
    EndsIn (ofOwnTable own) (Excess own) Overflows Documented := by
  refine ends_congr ?_
    (ends_bind (complexity_stops _) fun _ =>
    ends_bind (performance_stops _) fun _ =>
    ends_bind (duplication_stops _) fun _ =>
    ends_bind (boolean_logic_stops _) fun _ =>
    ends_bind (switch_stops _ _) fun _ =>
    ends_bind (switch_stops _ _) fun _ =>
    ends_bind (switch_stops _ _) fun _ =>
    ends_bind (switch_stops _ _) fun _ =>
    ends_bind (switch_stops _ _) fun _ => patterns_end own _)
  simp only [Excess, Slot.limits, Slot.threshold, List.mem_cons, List.not_mem_nil,
    exists_eq_or_imp, false_and, exists_false]
  tauto

end Tables

section Options

def OnlyValues {α : Type} (x : Except Refusal α) : Prop :=
  ∀ refusal, x = .error refusal → refusal.kind = .value

theorem only_bind {α β : Type} {x : Except Refusal α} {next : α → Except Refusal β}
    (here : OnlyValues x) (there : ∀ value, OnlyValues (next value)) : OnlyValues (x >>= next) := by
  intro refusal refused
  cases first : x with
  | error other =>
    rw [first] at refused
    cases refused
    exact here refusal first
  | ok value =>
    rw [first] at refused
    exact there value refusal refused

theorem only_map_error {φ α : Type} (x : Except φ α) (blamed : φ → Refusal)
    (known : ∀ fault, (blamed fault).kind = .value) : OnlyValues (x.mapError blamed) := by
  intro refusal refused
  cases x with
  | error fault =>
    cases refused
    exact known fault
  | ok value => cases refused

theorem checked_only (s : Settings) : OnlyValues s.checked := by
  intro refusal refused
  have known := checked_documented s
  rw [refused] at known
  cases known with
  | refused _ value => exact value

theorem read_switch_only (text : String) : OnlyValues (readSwitch text) := by
  intro refusal refused
  unfold readSwitch at refused
  split at refused
  · cases refused
  · cases refused
    rfl

theorem look_in_only (document : Ini.Document) (header name : String) :
    OnlyValues (lookIn document header name) := by
  intro refusal refused
  unfold lookIn at refused
  split at refused
  · cases refused
  · cases refused
  · cases refused
    rfl

variable (look : Lookup) (told : ∀ header name, OnlyValues (look header name))

include told

theorem option_only {α : Type} (header name : String) (read : String → Except Refusal α) (usual : α)
    (reads : ∀ text, OnlyValues (read text)) : OnlyValues (option look header name read usual) := by
  refine only_bind (told header name) fun text? => ?_
  cases text? with
  | none => exact nofun
  | some text => exact reads text

theorem switch_option_only (header : String) : OnlyValues (switchOption look header) :=
  option_only look told header "enabled" readSwitch true read_switch_only

theorem int_option_only (header name : String) (usual : Int) :
    OnlyValues (intOption look header name usual) :=
  option_only look told header name readInt usual fun _ => only_map_error _ _ fun _ => rfl

theorem of_lookup_only : OnlyValues (ofLookup look) := by
  have switch := switch_option_only look told
  have limit := int_option_only look told
  refine only_bind (switch "complexity") fun _ => ?_
  iterate 6 refine only_bind (limit "complexity" _ _) fun _ => ?_
  refine only_bind (switch "performance") fun _ => ?_
  iterate 2 refine only_bind (limit "performance" _ _) fun _ => ?_
  refine only_bind (switch "duplication") fun _ => ?_
  refine only_bind (limit "duplication" _ _) fun _ => ?_
  refine only_bind (option_only look told _ _ _ _ fun _ => only_map_error _ _ fun _ => rfl)
    fun _ => ?_
  refine only_bind (switch "boolean_logic") fun _ => ?_
  refine only_bind (limit "boolean_logic" _ _) fun _ => ?_
  iterate 5 refine only_bind (switch _) fun _ => ?_
  refine only_bind (option_only look told _ _ _ _ fun _ => nofun) fun _ => ?_
  exact checked_only _

end Options

section Blame

theorem gives_blaming {α : Type} (x : Loading α) (ending : Except Refusal α)
    (given : Gives x ending) : Gives (blaming x) (ending.mapError Refusal.blame) := by
  intro log
  have whole : StateT.run x log = (ending, (StateT.run x log).2) := Prod.ext (given log) rfl
  simp only [blaming, tryCatch, tryCatchThe, MonadExceptOf.tryCatch, ExceptT.tryCatch,
    ExceptT.run_mk, StateT.run_bind]
  rw [whole]
  cases ending with
  | error refusal => rfl
  | ok value => rfl

theorem blamed_value (refusal : Refusal)
    (known : refusal.kind = .value ∨ refusal.kind = .encoding) : refusal.blame.kind = .value := by
  unfold Refusal.blame
  rcases known with value | encoding
  · rw [value]
    rfl
  · rw [encoding]
    rfl

theorem documented_blamed (ending : Except Refusal Settings) (known : Documented ending) :
    Documented (ending.mapError Refusal.blame) := by
  cases known with
  | loaded s valid => exact .loaded s valid
  | refused refusal value => exact .refused _ (blamed_value refusal (Or.inl value))

theorem overflow_unblamed (refusal : Refusal) (known : Overflows refusal) :
    refusal.blame = refusal := by
  unfold Refusal.blame
  rw [known]

theorem table_of_bytes_error (bytes : ByteArray) (refusal : Refusal)
    (refused : tableOfBytes bytes = .error refusal) : refusal.blame.kind = .value := by
  apply blamed_value
  unfold tableOfBytes at refused
  split at refused
  · cases refused
    exact Or.inr rfl
  · refine Or.inl (only_map_error _ _ (fun fault => ?_) refusal refused)
    cases fault <;> rfl

theorem document_error (path : Path) (bytes : ByteArray) (refusal : Refusal)
    (refused : documentOf path bytes = .error refusal) : refusal.blame.kind = .value := by
  apply blamed_value
  unfold documentOf at refused
  cases read : Ini.read bytes with
  | ok document =>
    rw [read] at refused
    cases refused
  | error fault =>
    rw [read] at refused
    cases refused
    cases fault with
    | badBytes fault => exact Or.inr rfl
    | _ => exact Or.inl rfl

end Blame

section Files

theorem is_file_read (store : Store) (path : Path) (there : store.isFile path = .ok true) :
    ∃ bytes, store.read path = .ok bytes := by
  unfold Store.isFile Store.holds at there
  unfold Store.read
  split at there
  · rename_i names entry found
    cases entry with
    | file bytes => exact ⟨bytes, by rw [found]⟩
    | link target => cases there
    | folder => cases there
  · split at there <;> cases there

inductive Unforeseen (store : Store) (path : Path) : FailureKind → Prop where
  | untold (fault : FileFault) (asked : store.isFile path = .error fault) :
    Unforeseen store path .system
  | notTable (bytes : ByteArray) (table : List (String × Data)) (value : Data)
    (toml : tomlSuffixes.contains (lowered path.suffix) = true)
    (held : content store path = .ok bytes) (read : tableOfBytes bytes = .ok table)
    (set : Data.lookup "tool" table = some value) (other : ∀ tools, value ≠ .table tools) :
    Unforeseen store path .attribute
  | excess (bytes : ByteArray) (table own : List (String × Data))
    (toml : tomlSuffixes.contains (lowered path.suffix) = true)
    (held : content store path = .ok bytes) (read : tableOfBytes bytes = .ok table)
    (set : ownTable table = .ok own) (excess : Excess own) :
    Unforeseen store path .overflow

theorem content_untold (store : Store) (path : Path) (fault : FileFault)
    (asked : store.isFile path = .error fault) :
    content store path = .error (.file path.text fault) := by
  rw [content, asked]

theorem content_told (store : Store) (path : Path) (there : Bool)
    (asked : store.isFile path = .ok there) :
    content store path = .error (.notFound path.text) ∨
      ∃ bytes, content store path = .ok bytes := by
  cases there with
  | false => exact Or.inl (by rw [content, asked])
  | true =>
    obtain ⟨bytes, read⟩ := is_file_read store path asked
    exact Or.inr ⟨bytes, by rw [content, asked, read]; rfl⟩

theorem of_file_refused (store : Store) (path : Path) (refusal : Refusal)
    (refused : content store path = .error refusal) :
    Gives (ofFile store path) (.error refusal) := by
  unfold ofFile ofTomlFile ofIniFile
  split <;> exact gives_bind_error _ _ refusal (gives_lift _ _ refused)

section Toml

variable (store : Store) (path : Path) (bytes : ByteArray)
  (toml : tomlSuffixes.contains (lowered path.suffix) = true)
  (held : content store path = .ok bytes)

include toml held

theorem of_file_toml (ending : Except Refusal Settings)
    (given : Gives (do ofTable (← liftRefusal (tableOfBytes bytes))) ending) :
    Gives (ofFile store path) (ending.mapError Refusal.blame) := by
  rw [ofFile, if_pos toml]
  exact gives_bind _ _ bytes _ (gives_lift _ _ held) (gives_blaming _ ending given)

theorem of_file_own_refused (table : List (String × Data)) (refusal : Refusal)
    (read : tableOfBytes bytes = .ok table) (refused : ownTable table = .error refusal) :
    Gives (ofFile store path) (.error refusal.blame) :=
  of_file_toml store path bytes toml held (.error refusal)
    (gives_bind _ _ table _ (gives_lift _ _ read) (gives_bind_error _ _ _ (gives_lift _ _ refused)))

theorem of_file_not_table (table : List (String × Data)) (value : Data)
    (read : tableOfBytes bytes = .ok table) (set : Data.lookup "tool" table = some value)
    (other : ∀ tools, value ≠ .table tools) :
    Gives (ofFile store path) (.error (.notTable value.kindName)) := by
  have refused : ownTable table = .error (.notTable value.kindName) := by
    rw [ownTable, set]
    cases value with
    | table tools => exact absurd rfl (other tools)
    | _ => rfl
  exact of_file_own_refused store path bytes toml held table _ read refused

theorem of_file_own (table own : List (String × Data)) (ending : Except Refusal Settings)
    (read : tableOfBytes bytes = .ok table) (set : ownTable table = .ok own)
    (given : Gives (ofOwnTable own) ending) :
    Gives (ofFile store path) (ending.mapError Refusal.blame) :=
  of_file_toml store path bytes toml held ending
    (gives_bind _ _ table _ (gives_lift _ _ read) (gives_bind _ _ own _ (gives_lift _ _ set) given))

theorem own_table_error (table : List (String × Data)) (refusal : Refusal)
    (read : tableOfBytes bytes = .ok table) (refused : ownTable table = .error refusal)
    (foreseen : ∀ kind, ¬ Unforeseen store path kind) : refusal = .badSettingsTable := by
  cases set : Data.lookup "tool" table with
  | none =>
    rw [ownTable, set] at refused
    cases refused
  | some value =>
    cases value with
    | table tools =>
      rw [ownTable, set] at refused
      dsimp only [Option.getD_some] at refused
      split at refused
      · cases refused
      · cases refused
        rfl
    | _ =>
      exact absurd (Unforeseen.notTable bytes table _ toml held read set (by simp))
        (foreseen .attribute)

theorem of_file_toml_foreseen (foreseen : ∀ kind, ¬ Unforeseen store path kind) :
    ∃ ending, Documented ending ∧ Gives (ofFile store path) ending := by
  cases read : tableOfBytes bytes with
  | error refusal =>
    exact ⟨.error refusal.blame, .refused _ (table_of_bytes_error bytes refusal read),
      of_file_toml store path bytes toml held (.error refusal)
        (gives_bind_error _ _ refusal (gives_lift _ _ read))⟩
  | ok table =>
    cases set : ownTable table with
    | error refusal =>
      have known := own_table_error store path bytes toml held table refusal read set foreseen
      subst known
      exact ⟨.error (.inFile .badSettingsTable), .refused _ rfl,
        of_file_own_refused store path bytes toml held table _ read set⟩
    | ok own =>
      rcases of_own_table_ends own with ⟨excess, -⟩ | ⟨-, ending, known, given⟩
      · exact absurd (Unforeseen.excess bytes table own toml held read set excess)
          (foreseen .overflow)
      · exact ⟨_, documented_blamed ending known,
          of_file_own store path bytes toml held table own ending read set given⟩

end Toml

theorem of_file_sections (store : Store) (path : Path) (bytes : ByteArray)
    (sections : tomlSuffixes.contains (lowered path.suffix) ≠ true)
    (held : content store path = .ok bytes) :
    ∃ ending, Documented ending ∧ Gives (ofFile store path) ending := by
  rw [ofFile, if_neg sections]
  have blamed (ending : Except Refusal Settings)
      (read : (do ofSections (← documentOf path bytes)) = ending) :
      Gives (ofIniFile store path) (ending.mapError Refusal.blame) :=
    gives_bind _ _ bytes _ (gives_lift _ _ held) (gives_blaming _ ending (gives_lift _ _ read))
  cases read : documentOf path bytes with
  | error refusal =>
    exact ⟨.error refusal.blame, .refused _ (document_error path bytes refusal read),
      blamed (.error refusal) (by rw [read]; rfl)⟩
  | ok document =>
    refine ⟨_, documented_blamed (ofSections document) ?_, blamed _ (by rw [read]; rfl)⟩
    cases loaded : ofSections document with
    | ok s => exact .loaded s (of_lookup_spells (lookIn document) s loaded).valid
    | error refusal =>
      exact .refused refusal
        (of_lookup_only (lookIn document) (look_in_only document) refusal loaded)

theorem of_file_foreseen (store : Store) (path : Path)
    (foreseen : ∀ kind, ¬ Unforeseen store path kind) :
    Documented (ofFile store path).outcome.1 := by
  apply documented_outcome
  cases asked : store.isFile path with
  | error fault => exact absurd (Unforeseen.untold fault asked) (foreseen .system)
  | ok there =>
    rcases content_told store path there asked with absent | ⟨bytes, held⟩
    · exact ⟨.error (.notFound path.text), .refused _ rfl, of_file_refused store path _ absent⟩
    · by_cases toml : tomlSuffixes.contains (lowered path.suffix) = true
      · exact of_file_toml_foreseen store path bytes toml held foreseen
      · exact of_file_sections store path bytes toml held

theorem of_file_unforeseen (store : Store) (path : Path) (kind : FailureKind)
    (unforeseen : Unforeseen store path kind) :
    ∃ refusal, (ofFile store path).outcome.1 = .error refusal ∧ refusal.kind = kind := by
  cases unforeseen with
  | untold fault asked =>
    exact ⟨_, gives_outcome _ _
      (of_file_refused store path _ (content_untold store path fault asked)), rfl⟩
  | notTable bytes table value toml held read set other =>
    exact ⟨_, gives_outcome _ _
      (of_file_not_table store path bytes toml held table value read set other), rfl⟩
  | excess bytes table own toml held read set excess =>
    rcases of_own_table_ends own with ⟨-, refusal, known, given⟩ | ⟨fits, -⟩
    · have ended := of_file_own store path bytes toml held table own _ read set given
      refine ⟨refusal, gives_outcome _ _ ?_, known⟩
      rwa [Except.mapError, overflow_unblamed refusal known] at ended
    · exact absurd excess fits

theorem unforeseen_kind (store : Store) (path : Path) (kind : FailureKind)
    (unforeseen : Unforeseen store path kind) : kind ≠ .value := by
  cases unforeseen <;> nofun

section Lone

def loneFile (text : String) : Store where
  entries := [(["c.toml"], .file text.toUTF8)]

def lonePath : Path := ⟨"", ["c.toml"]⟩

theorem lone_suffix : tomlSuffixes.contains (lowered lonePath.suffix) = true := by decide

theorem lone_held (text : String) : content (loneFile text) lonePath = .ok text.toUTF8 := by
  have named : lonePath.text = "c.toml" := rfl
  have clean : "c.toml".contains '\x00' = false := by simp
  have found : (loneFile text).find lonePath = .ok (["c.toml"], .file text.toUTF8) := by
    simp only [Store.find, named, clean, Bool.false_eq_true, ↓reduceIte]
    rfl
  simp [content, Store.isFile, Store.holds, Store.read, found, Except.mapError]

/-- What stands in a text can be seen of the table that is read from it. -/
theorem table_of_seen {α : Type} (text : String) (see : List (String × Data) → Option α) (sight : α)
    (seen : (tableOfBytes text.toUTF8).toOption.bind see = some sight) :
    ∃ table, tableOfBytes text.toUTF8 = .ok table ∧ see table = some sight := by
  obtain ⟨table, read, shown⟩ := Option.bind_eq_some_iff.mp seen
  exact ⟨table, ok_of_to_option _ table read, shown⟩

end Lone

/-- Loading ends as documented exactly where nothing unforeseen is met, and what is unforeseen
shows in the kind of the refusal. -/
theorem file_refusals (store : Store) (path : Path) :
    (Documented (ofFile store path).outcome.1 ↔ ∀ kind, ¬ Unforeseen store path kind) ∧
      ∀ kind, Unforeseen store path kind →
        ∃ refusal, (ofFile store path).outcome.1 = .error refusal ∧ refusal.kind = kind := by
  refine ⟨⟨?_, of_file_foreseen store path⟩, of_file_unforeseen store path⟩
  intro documented kind unforeseen
  obtain ⟨refusal, ended, kinded⟩ := of_file_unforeseen store path kind unforeseen
  rw [ended] at documented
  cases documented with
  | refused _ value => exact unforeseen_kind store path kind unforeseen (kinded.symm.trans value)

theorem file_refusals_endless :
    ∃ refusal, (ofFile (loneFile "[tool.pyrefactor.complexity]\nmax_branches = inf\n")
      lonePath).outcome.1 = .error refusal ∧ refusal.kind = .overflow := by
  obtain ⟨table, read, seen⟩ := table_of_seen "[tool.pyrefactor.complexity]\nmax_branches = inf\n"
    (fun table => (ownTable table).toOption.bind fun own =>
      (Data.lookup "max_branches" (sectionTable "complexity" own)).map fun raw =>
        (asInt raw).toOption.isNone) true (by decide)
  obtain ⟨own, owned, seen⟩ := Option.bind_eq_some_iff.mp seen
  obtain ⟨raw, set, refused⟩ := Option.map_eq_some_iff.mp seen
  have endless : Endless (sectionTable "complexity" own) "max_branches" := by
    cases taken : asInt raw with
    | error refusal =>
      obtain ⟨-, negative, rfl⟩ := (as_int_error_iff raw refusal).mp taken
      exact ⟨negative, set⟩
    | ok value =>
      rw [taken] at refused
      cases refused
  have excess : Excess own := Or.inl ⟨_, List.mem_cons_self, endless⟩
  exact (file_refusals _ lonePath).2 .overflow
    (.excess _ table own lone_suffix (lone_held _) read (ok_of_to_option _ own owned) excess)

theorem number_file_undocumented :
    (ofFile (loneFile "tool = 1\n") lonePath).outcome.1 = .error (.notTable "int") ∧
      ¬ Documented (ofFile (loneFile "tool = 1\n") lonePath).outcome.1 := by
  obtain ⟨table, read, seen⟩ := table_of_seen "tool = 1\n"
    (fun table => (Data.lookup "tool" table).map Data.kindName) "int" (by decide)
  obtain ⟨value, set, kind⟩ := Option.map_eq_some_iff.mp seen
  have other : ∀ tools, value ≠ .table tools := by
    rintro tools rfl
    simp [Data.kindName] at kind
  have ended := gives_outcome _ _
    (of_file_not_table _ _ _ lone_suffix (lone_held "tool = 1\n") table value read set other)
  rw [kind] at ended
  rw [ended]
  exact ⟨rfl, nofun⟩

end Files

end RefactorAdvice.Settings
