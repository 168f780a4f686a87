import RefactorAdvice.Proofs.FollowedPaths
import RefactorAdvice.Proofs.LoggedRuns
import RefactorAdvice.Proofs.ValidSettings
import RefactorAdvice.Settings.Load

/-!
Settings found in a folder whose project file is broken. The file is passed over if it cannot be
opened or is no well-formed document: then the settings, or their refusal, are those of the folder
without it, as long as the file of sections does not lead through it. It is not passed over if its
bytes are no text, if a number in it is too long to be read, or if it cannot be told whether it is
there at all; then the refusal is one that the folder without it never ends in.
-/

namespace RefactorAdvice.Settings

open LoggingExcept

theorem map_error_iff {ε δ α : Type} (x : Except ε α) (blamed : ε → δ) (failure : δ) :
    x.mapError blamed = .error failure ↔ ∃ cause, x = .error cause ∧ blamed cause = failure := by
  cases x with
  | error cause =>
    show Except.error (blamed cause) = .error failure ↔ _
    simp
  | ok value =>
    show Except.ok value = .error failure ↔ _
    simp

theorem bind_error_iff {ε α β : Type} (x : Except ε α) (f : α → Except ε β) (failure : ε) :
    x >>= f = .error failure ↔ x = .error failure ∨ ∃ a, x = .ok a ∧ f a = .error failure := by
  cases x with
  | error cause => simp [bind, Except.bind]
  | ok value => simp [bind, Except.bind]

section Sections

theorem silent_lift {α : Type} (x : Except Refusal α) : Silent (liftRefusal x) x := by
  cases x with
  | error refusal => exact fun _ => rfl
  | ok value => exact fun _ => rfl

theorem silent_blaming {α : Type} {x : Loading α} {ending : Except Refusal α}
    (here : Silent x ending) : Silent (blaming x) (ending.mapError Refusal.blame) := by
  intro log
  have whole : StateT.run x log = (ending, log) := here log
  simp only [blaming, tryCatch, tryCatchThe, MonadExceptOf.tryCatch, ExceptT.tryCatch,
    ExceptT.run_mk, StateT.run_bind]
  rw [whole]
  cases ending with
  | error refusal => rfl
  | ok value => rfl

def sectionsEnding (store : Store) : Except Refusal Settings :=
  match store.exists? sectionsFile with
  | .ok true => do
    let bytes ← content store sectionsFile
    (documentOf sectionsFile bytes >>= ofSections).mapError Refusal.blame
  | .ok false => checked {}
  | .error fault => .error (.file sectionsFile.text fault)

theorem sections_file_silent (store : Store) :
    Silent (ofSectionsFile store) (sectionsEnding store) := by
  rw [ofSectionsFile, sectionsEnding]
  cases store.exists? sectionsFile with
  | error fault => exact silent_throw _
  | ok there =>
    cases there with
    | false => exact silent_lift (checked {})
    | true => exact silent_bind (silent_lift _) fun bytes => silent_blaming (silent_lift _)

def isOfProject : Refusal → Bool
  | .badBytes _ | .badNumber _ => true
  | .file path _ => path == projectFile.text
  | _ => false

theorem texts_differ : (sectionsFile.text == projectFile.text) = false := by decide

theorem content_of_sections (store : Store) (refusal : Refusal)
    (refused : content store sectionsFile = .error refusal) : isOfProject refusal = false := by
  unfold content at refused
  split at refused
  · cases refused
    exact texts_differ
  · cases refused
    rfl
  · obtain ⟨fault, -, rfl⟩ := (map_error_iff _ _ _).mp refused
    exact texts_differ

-- What is refused within the file of sections is blamed on it, and so told apart.
theorem blame_of_sections (refusal : Refusal) : isOfProject refusal.blame = false := by
  cases refusal <;> rfl

theorem sections_ending_of_sections (store : Store) (refusal : Refusal)
    (ended : sectionsEnding store = .error refusal) : isOfProject refusal = false := by
  unfold sectionsEnding at ended
  split at ended
  · rcases (bind_error_iff _ _ _).mp ended with refused | ⟨bytes, -, refused⟩
    · exact content_of_sections store refusal refused
    · obtain ⟨cause, -, rfl⟩ := (map_error_iff _ _ _).mp refused
      exact blame_of_sections cause
  · unfold checked at ended
    split at ended
    · cases ended
      rfl
    · cases ended
  · cases ended
    exact texts_differ

theorem sections_ending_congr (store other : Store)
    (same : other.find sectionsFile = store.find sectionsFile) :
    sectionsEnding other = sectionsEnding store := by
  simp only [sectionsEnding, content, Store.exists?, Store.isFile, Store.read, Store.holds, same]

end Sections

section Broken

/-- A project file that is passed over, with what is said of it. -/
inductive PassedOver : Except FileFault ByteArray → Refusal → Prop where
  | unopened (fault : FileFault) : PassedOver (.error fault) (.file projectFile.text fault)
  | malformed (bytes : ByteArray) (text : String) (reason : Toml.Reason) (position : Nat) :
      Text.decodeUtf8 bytes = .ok text → Toml.read text.toList = .error (.at reason position) →
      PassedOver (.ok bytes) (.badDocument (Toml.faultMessage text.toList (.at reason position)))

/-- A project file that ends the loading, with the refusal. -/
inductive Stopping : Except FileFault ByteArray → Refusal → Prop where
  | undecoded (bytes : ByteArray) (fault : Text.Utf8Fault) :
      Text.decodeUtf8 bytes = .error fault → Stopping (.ok bytes) (.badBytes fault)
  | overlong (bytes : ByteArray) (text : String) (fault : Number.Fault) :
      Text.decodeUtf8 bytes = .ok text → Toml.read text.toList = .error (.number fault) →
      Stopping (.ok bytes) (.badNumber fault)

theorem passed_over_refused {opened : Except FileFault ByteArray} {refusal : Refusal}
    (passed : PassedOver opened refusal) :
    projectTable opened = .error refusal ∧ isPassedOver refusal = true := by
  cases passed with
  | unopened fault => exact ⟨rfl, rfl⟩
  | malformed bytes text reason position decoded refused =>
    refine ⟨?_, rfl⟩
    show tableOfBytes bytes = _
    rw [tableOfBytes, decoded]
    exact (map_error_iff _ _ _).mpr ⟨_, refused, rfl⟩

theorem stopping_refused {opened : Except FileFault ByteArray} {refusal : Refusal}
    (stopping : Stopping opened refusal) :
    projectTable opened = .error refusal ∧ isPassedOver refusal = false ∧
      isOfProject refusal = true := by
  cases stopping with
  | undecoded bytes fault undecoded =>
    refine ⟨?_, rfl, rfl⟩
    show tableOfBytes bytes = _
    rw [tableOfBytes, undecoded]
  | overlong bytes text fault decoded refused =>
    refine ⟨?_, rfl, rfl⟩
    show tableOfBytes bytes = _
    rw [tableOfBytes, decoded]
    exact (map_error_iff _ _ _).mpr ⟨_, refused, rfl⟩

-- There is no further way: a file is opened, then decoded, then read.
theorem project_table_refused (opened : Except FileFault ByteArray) (refusal : Refusal)
    (refused : projectTable opened = .error refusal) :
    PassedOver opened refusal ∨ Stopping opened refusal := by
  cases opened with
  | error fault =>
    cases refused
    exact Or.inl (.unopened fault)
  | ok bytes =>
    change tableOfBytes bytes = .error refusal at refused
    rw [tableOfBytes] at refused
    cases decoded : Text.decodeUtf8 bytes with
    | error fault =>
      rw [decoded] at refused
      cases refused
      exact Or.inr (.undecoded bytes fault decoded)
    | ok text =>
      rw [decoded] at refused
      obtain ⟨⟨reason, position⟩ | ⟨fault⟩, unread, rfl⟩ := (map_error_iff _ _ _).mp refused
      · exact Or.inl (.malformed bytes text reason position decoded unread)
      · exact Or.inr (.overlong bytes text fault decoded unread)

end Broken

section Discovery

variable (store : Store) (opened : Except FileFault ByteArray)

theorem discover_untold (fault : FileFault) (asked : store.isFile projectFile = .error fault) :
    Silent (discoverOpening store opened) (.error (.file projectFile.text fault)) := by
  rw [discoverOpening, asked]
  exact silent_throw _

theorem discover_absent (asked : store.isFile projectFile = .ok false) :
    Silent (discoverOpening store opened) (sectionsEnding store) := by
  rw [discoverOpening, asked]
  exact sections_file_silent store

theorem discover_stopping (refusal : Refusal) (asked : store.isFile projectFile = .ok true)
    (stopping : Stopping opened refusal) :
    Silent (discoverOpening store opened) (.error refusal) := by
  obtain ⟨refused, stops, -⟩ := stopping_refused stopping
  rw [discoverOpening, asked]
  simp only [refused, stops, Bool.false_eq_true, ↓reduceIte]
  exact silent_throw refusal

theorem discover_passed_over (refusal : Refusal) (asked : store.isFile projectFile = .ok true)
    (passed : PassedOver opened refusal) :
    (discoverOpening store opened).outcome =
      (sectionsEnding store, [{ level := .warning, message := passingOver store refusal }]) := by
  obtain ⟨refused, passes⟩ := passed_over_refused passed
  rw [discoverOpening, asked]
  simp only [refused, passes, ↓reduceIte]
  exact silent_warned _ (sections_file_silent store)

end Discovery

section Removal

theorem project_file_eq : projectFile = ⟨"", ["pyproject.toml"]⟩ := rfl

theorem sections_file_eq : sectionsFile = ⟨"", ["pyrefactor.ini"]⟩ := rfl

theorem find_project_removed (store : Store) :
    (store.without projectFile.parts).find projectFile = .error .missing := by
  rw [project_file_eq]
  exact store.find_removed "pyproject.toml" (by decide) (by decide)

theorem discover_removed (store : Store) :
    Silent (discover (store.without projectFile.parts))
      (sectionsEnding (store.without projectFile.parts)) := by
  have asked : (store.without projectFile.parts).isFile projectFile = .ok false := by
    rw [Store.isFile, Store.holds, find_project_removed]
    rfl
  exact discover_absent _ _ asked

theorem sections_ending_removed (store : Store)
    (apart : projectFile.parts ∉ store.trail sectionsFile) :
    sectionsEnding (store.without projectFile.parts) = sectionsEnding store := by
  have named : projectFile.parts ≠ [] := List.cons_ne_nil "pyproject.toml" []
  exact sections_ending_congr store _ (store.find_without _ sectionsFile named apart)

end Removal

/-- The settings found in a folder, whatever comes of opening its project file, against those of the
folder without that file; `discover` is the case of what the store gives on opening. -/
theorem discovery_past_project_file (store : Store) (opened : Except FileFault ByteArray)
    (apart : projectFile.parts ∉ store.trail sectionsFile) :
    ∃ ending, (discover (store.without projectFile.parts)).outcome = (ending, []) ∧
      (store.isFile projectFile = .ok false →
        (discoverOpening store opened).outcome = (ending, [])) ∧
      (∀ refusal, store.isFile projectFile = .ok true → PassedOver opened refusal →
        (discoverOpening store opened).outcome =
          (ending, [{ level := .warning, message := passingOver store refusal }])) ∧
      (∀ refusal, store.isFile projectFile = .ok true → Stopping opened refusal →
        (discoverOpening store opened).outcome = (.error refusal, []) ∧
          ending ≠ .error refusal) ∧
      (∀ fault, store.isFile projectFile = .error fault →
        (discoverOpening store opened).outcome = (.error (.file projectFile.text fault), []) ∧
          ending ≠ .error (.file projectFile.text fault)) ∧
      ∀ refusal, projectTable opened = .error refusal →
        PassedOver opened refusal ∨ Stopping opened refusal := by
  have absent := silent_outcome (discover_removed store)
  rw [sections_ending_removed store apart] at absent
  refine ⟨sectionsEnding store, absent, ?_, ?_, ?_, ?_, project_table_refused opened⟩
  · exact fun asked => silent_outcome (discover_absent store opened asked)
  · exact discover_passed_over store opened
  · intro refusal asked stopping
    refine ⟨silent_outcome (discover_stopping store opened refusal asked stopping), ?_⟩
    intro ended
    have foreign := sections_ending_of_sections store refusal ended
    obtain ⟨-, -, own⟩ := stopping_refused stopping
    exact absurd (own.symm.trans foreign) Bool.noConfusion
  · intro fault asked
    refine ⟨silent_outcome (discover_untold store opened fault asked), ?_⟩
    intro ended
    have foreign := sections_ending_of_sections store _ ended
    exact absurd ((beq_self_eq_true _).symm.trans foreign) Bool.noConfusion

section Samples

def strayed : Store :=
  { entries :=
    [(["pyproject.toml"], .file "max_branches".toUTF8), (["pyrefactor.ini"], .link "conf/a.ini"),
      (["conf"], .folder), (["conf", "a.ini"], .file "[complexity]\nmax_branches = 7\n".toUTF8)] }

theorem find_strayed :
    strayed.find projectFile = .ok (["pyproject.toml"], .file "max_branches".toUTF8) := by
  rw [project_file_eq, strayed.find_named ["pyproject.toml"] (by decide)]
  rfl

theorem discovery_past_project_file_strayed :
    projectFile.parts ∉ strayed.trail sectionsFile ∧ strayed.isFile projectFile = .ok true ∧
      ∃ refusal ending, PassedOver (strayed.read projectFile) refusal ∧
        (discover (strayed.without projectFile.parts)).outcome = (ending, []) ∧
        (discover strayed).outcome =
          (ending, [{ level := .warning, message := passingOver strayed refusal }]) := by
  have apart : projectFile.parts ∉ strayed.trail sectionsFile := by decide
  have asked : strayed.isFile projectFile = .ok true := by
    rw [Store.isFile, Store.holds, find_strayed]
  have read : strayed.read projectFile = .ok "max_branches".toUTF8 := by
    rw [Store.read, find_strayed]
  have passed := PassedOver.malformed "max_branches".toUTF8 "max_branches" .noEquals 12 rfl rfl
  rw [← read] at passed
  obtain ⟨ending, absent, -, past, -⟩ :=
    discovery_past_project_file strayed (strayed.read projectFile) apart
  exact ⟨apart, asked, _, ending, passed, absent, past _ asked passed⟩

theorem sections_ending_read (store : Store) (names : List String) (bytes : ByteArray)
    (found : store.find sectionsFile = .ok (names, .file bytes)) :
    sectionsEnding store =
      (documentOf sectionsFile bytes >>= ofSections).mapError Refusal.blame := by
  simp only [sectionsEnding, Store.exists?, content, Store.isFile, Store.read, Store.holds, found]
  rfl

theorem sections_ending_vacant (store : Store)
    (missing : store.find sectionsFile = .error .missing) : sectionsEnding store = .ok {} := by
  have absent : store.exists? sectionsFile = .ok false := by
    rw [Store.exists?, Store.holds, missing]
    rfl
  simp only [sectionsEnding, absent, checked, usual_valid]

def undecodable : Store := { entries := [(["pyproject.toml"], .file ⟨#[0xff]⟩)] }

theorem find_undecodable :
    undecodable.find projectFile = .ok (["pyproject.toml"], .file ⟨#[0xff]⟩) := by
  rw [project_file_eq, undecodable.find_named ["pyproject.toml"] (by decide)]
  rfl

theorem undecodable_stops :
    ∃ fault, (discover undecodable).outcome.1 = .error (.badBytes fault) := by
  have asked : undecodable.isFile projectFile = .ok true := by
    rw [Store.isFile, Store.holds, find_undecodable]
  have read : undecodable.read projectFile = .ok ⟨#[0xff]⟩ := by
    rw [Store.read, find_undecodable]
  have foreign : String.fromUTF8? ⟨#[0xff]⟩ = none := by decide
  obtain ⟨fault, undecoded⟩ : ∃ fault, Text.decodeUtf8 ⟨#[0xff]⟩ = .error fault := by
    rw [Text.decodeUtf8, foreign]
    dsimp only
    split
    · exact ⟨_, rfl⟩
    · exact ⟨_, rfl⟩
  have stopping := Stopping.undecoded _ fault undecoded
  rw [← read] at stopping
  exact ⟨fault, congrArg Prod.fst
    (silent_outcome (discover_stopping undecodable _ _ asked stopping))⟩

theorem undecodable_vacant :
    (discover (undecodable.without projectFile.parts)).outcome.1 = .ok {} := by
  rw [silent_outcome (discover_removed undecodable)]
  apply sections_ending_vacant
  rw [sections_file_eq, Store.find_named _ ["pyrefactor.ini"] (by decide)]
  rfl

def sectionsText : String := "[complexity]\nmax_branches: 7\n"

theorem sections_text_read :
    ∃ settings, documentOf sectionsFile sectionsText.toUTF8 >>= ofSections = .ok settings ∧
      settings.complexity.maxBranches = 7 := by
  have limit : (match documentOf sectionsFile sectionsText.toUTF8 >>= ofSections with
    | .ok settings => settings.complexity.maxBranches
    | .error _ => 0) = 7 := by decide +kernel
  cases made : documentOf sectionsFile sectionsText.toUTF8 >>= ofSections with
  | error refusal =>
    rw [made] at limit
    cases limit
  | ok settings =>
    rw [made] at limit
    exact ⟨settings, rfl, limit⟩

def doubled : Store :=
  { entries :=
    [(["pyproject.toml"], .file sectionsText.toUTF8),
      (["pyrefactor.ini"], .link "pyproject.toml")] }

theorem find_doubled (p : Path) (either : p = projectFile ∨ p = sectionsFile) :
    doubled.find p = .ok (["pyproject.toml"], .file sectionsText.toUTF8) := by
  rcases either with rfl | rfl
  · rw [project_file_eq, doubled.find_named ["pyproject.toml"] (by decide)]
    rfl
  · rw [sections_file_eq, doubled.find_named ["pyrefactor.ini"] (by decide)]
    rfl

theorem discover_doubled : (discover doubled).outcome.1 = sectionsEnding doubled := by
  have asked : doubled.isFile projectFile = .ok true := by
    rw [Store.isFile, Store.holds, find_doubled _ (Or.inl rfl)]
  have read : doubled.read projectFile = .ok sectionsText.toUTF8 := by
    rw [Store.read, find_doubled _ (Or.inl rfl)]
  have passed := PassedOver.malformed sectionsText.toUTF8 sectionsText .noEquals 25 rfl rfl
  rw [← read] at passed
  rw [discover, discover_passed_over doubled _ _ asked passed]

theorem doubled_vacant : (discover (doubled.without projectFile.parts)).outcome.1 = .ok {} := by
  rw [silent_outcome (discover_removed doubled)]
  apply sections_ending_vacant
  rw [sections_file_eq, Store.find_named _ ["pyrefactor.ini"] (by decide)]
  rfl

/-- A project file that is no text, and one that the file of sections leads to, decide what comes
of a folder that has the usual settings without them. -/
theorem broken_project_file_decides :
    ((∃ fault, (discover undecodable).outcome.1 = .error (.badBytes fault)) ∧
      (discover (undecodable.without projectFile.parts)).outcome.1 = .ok {}) ∧
    ((∃ settings, (discover doubled).outcome.1 = .ok settings ∧
        settings.complexity.maxBranches = 7) ∧
      (discover (doubled.without projectFile.parts)).outcome.1 = .ok {}) := by
  refine ⟨⟨undecodable_stops, undecodable_vacant⟩, ?_, doubled_vacant⟩
  obtain ⟨settings, made, limit⟩ := sections_text_read
  refine ⟨settings, ?_, limit⟩
  rw [discover_doubled, sections_ending_read _ _ _ (find_doubled _ (Or.inr rfl)), made]
  rfl

end Samples

end RefactorAdvice.Settings
