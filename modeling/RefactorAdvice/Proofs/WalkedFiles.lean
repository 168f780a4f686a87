import RefactorAdvice.Proofs.CollectedFiles
import RefactorAdvice.Proofs.FollowedPaths

/-!
Files that are named one by one and files that a walk of their folder comes to. A walk lists just
the files that names lead to through folders, and each of them is found again by the path it is
listed with. What is a module is told by the end of the name in a walk, and by its suffix for a file
that is named. The two differ for one name, that of a file without a stem.
-/

namespace RefactorAdvice

namespace Path

section Suffixes

theorem ends_py_iff (name : String) :
    name.endsWith ".py" = true ↔ ∃ stem, name.toList.reverse = 'y' :: 'p' :: '.' :: stem := by
  rw [String.endsWith_eq_endsWith_toSlice, String.Slice.endsWith_string_iff, String.copy_toSlice,
    ← List.reverse_prefix]
  constructor
  · rintro ⟨stem, spelled⟩
    exact ⟨stem, spelled.symm⟩
  · rintro ⟨stem, spelled⟩
    exact ⟨stem, spelled.symm⟩

-- Read from its end, the name is the suffix without its dot up to the first dot.
theorem suffix_py_iff (p : Path) :
    p.suffix = ".py" ↔ p.name.endsWith ".py" = true ∧ p.name ≠ ".py" := by
  have lone : p.name = ".py" ↔ p.name.toList.reverse = ['y', 'p', '.'] := by
    rw [← String.toList_inj, ← List.reverse_inj]
    rfl
  rw [ends_py_iff, ne_eq, lone, suffix]
  generalize p.name.toList.reverse = reversed
  constructor
  · intro spelled
    split at spelled
    · exact absurd spelled (by decide)
    · rename_i shown
      have chars : '.' :: (reversed.takeWhile (· != '.')).reverse = ['.', 'p', 'y'] := by
        rw [← String.toList_inj, String.toList_ofList] at spelled
        exact spelled
      have ending : reversed.takeWhile (· != '.') = ['y', 'p'] := by
        rw [← List.reverse_inj]
        exact (List.cons.inj chars).2
      have whole := List.takeWhile_append_dropWhile (p := (· != '.')) (l := reversed)
      rw [ending] at whole shown
      cases rest : reversed.dropWhile (· != '.') with
      | nil =>
        rw [rest] at whole
        simp [← whole] at shown
      | cons c stem =>
        have dot := List.head?_dropWhile_not (· != '.') reversed
        rw [rest] at whole dot
        obtain rfl : c = '.' := by simpa using dot
        refine ⟨⟨stem, whole.symm⟩, ?_⟩
        rintro rfl
        simp at shown
  · rintro ⟨⟨stem, rfl⟩, stemmed⟩
    have left : stem.isEmpty = false := by
      cases stem with
      | nil => exact absurd rfl stemmed
      | cons c rest => rfl
    simp [left]

end Suffixes

end Path

namespace Store

section Below

def isLinkEntry : Entry → Bool
  | .link _ => true
  | _ => false

def isFileName (name : String) : Bool := isOrdinary name && !name.toList.contains '\x00'

/-- A folder below which there are only folders and regular files, under names that files can
have. -/
def Regular (s : Store) (folder : List String) : Prop :=
  ∀ placed ∈ s.entries, folder <+: placed.1 → placed.1 ≠ folder →
    isFileName (placed.1.getLast?.getD "") = true ∧ isLinkEntry placed.2 = false

instance (s : Store) (folder : List String) : Decidable (s.Regular folder) :=
  List.decidableBAll (fun placed : List String × Entry => folder <+: placed.1 →
    placed.1 ≠ folder → isFileName (placed.1.getLast?.getD "") = true ∧
      isLinkEntry placed.2 = false) s.entries

inductive Leads (s : Store) : List String → List String → ByteArray → Prop
  | file (folder : List String) (name : String) (content : ByteArray) :
      s.entryAt (folder ++ [name]) = some (.file content) → Leads s folder [name] content
  | folder (folder : List String) (name : String) (inner : List String) (content : ByteArray) :
      s.entryAt (folder ++ [name]) = some .folder → Leads s (folder ++ [name]) inner content →
      Leads s folder (name :: inner) content

variable {s : Store} {folder : List String}

theorem regular_entry (regular : s.Regular folder) {name : String} {entry : Entry}
    (held : s.entryAt (folder ++ [name]) = some entry) :
    isOrdinary name = true ∧ '\x00' ∉ name.toList ∧ ∀ target, entry ≠ .link target := by
  have listed := entry_listed (by simp) held
  obtain ⟨named, notLink⟩ := regular _ listed (List.prefix_append _ _) (by simp)
  rw [List.getLast?_concat, Option.getD_some, isFileName] at named
  obtain ⟨ordinary, clean⟩ := Bool.and_eq_true_iff.mp named
  refine ⟨ordinary, by simpa using clean, ?_⟩
  rintro target rfl
  cases notLink

theorem regular_inner (regular : s.Regular folder) (name : String) :
    s.Regular (folder ++ [name]) := by
  intro placed listed below _
  refine regular placed listed ((List.prefix_append folder [name]).trans below) ?_
  intro same
  have longer := below.length_le
  rw [same, List.length_append] at longer
  exact Nat.not_succ_le_self _ longer

theorem locate_leads {inner : List String} {content : ByteArray}
    (leads : Leads s folder inner content) (regular : s.Regular folder)
    (there : s.entryAt folder = some .folder) (fuel links : Nat) :
    s.locate true (fuel + 1 + inner.length) links folder inner =
      .ok (folder ++ inner, .file content) := by
  induction leads with
  | file folder name content held =>
    obtain ⟨ordinary, -, notLink⟩ := regular_entry regular held
    rw [List.length_singleton, s.locate_down _ links folder name [] _ there ordinary held notLink]
    exact (s.locate_nil_iff fuel links _ _ _).mpr ⟨rfl, held⟩
  | folder folder name inner content held _ ih =>
    obtain ⟨ordinary, -, notLink⟩ := regular_entry regular held
    rw [List.length_cons, ← Nat.add_assoc,
      s.locate_down _ links folder name inner _ there ordinary held notLink,
      ih (regular_inner regular name) held, List.append_assoc]
    rfl

theorem leads_clean {inner : List String} {content : ByteArray}
    (leads : Leads s folder inner content) (regular : s.Regular folder) :
    ∀ name ∈ inner, '\x00' ∉ name.toList := by
  induction leads with
  | file folder name content held =>
    rw [List.forall_mem_singleton]
    exact (regular_entry regular held).2.1
  | folder folder name inner content held _ ih =>
    rw [List.forall_mem_cons]
    exact ⟨(regular_entry regular held).2.1, ih (regular_inner regular name)⟩

def deeper (s : Store) (depth : Nat) : List (List String × Entry) :=
  s.entries.filter fun entry => decide (depth < entry.1.length)

theorem deeper_length_lt {names : List String} {entry : Entry} {depth : Nat}
    (listed : (names, entry) ∈ s.entries) (placed : names.length = depth + 1) :
    (s.deeper (depth + 1)).length < (s.deeper depth).length := by
  have again : s.deeper (depth + 1) =
      (s.deeper depth).filter fun entry => decide (depth + 1 < entry.1.length) := by
    rw [deeper, deeper, List.filter_filter]
    congr 1
    funext entry
    rw [← Bool.decide_and]
    exact decide_eq_decide.mpr ⟨fun deep => ⟨deep, Nat.lt_of_succ_lt deep⟩, And.left⟩
  rw [again, List.length_filter_lt_length_iff_exists]
  refine ⟨(names, entry), List.mem_filter.mpr ⟨listed, ?_⟩, ?_⟩
  · rw [decide_eq_true_iff, placed]
    exact Nat.lt_succ_self depth
  · rw [decide_eq_true_iff, placed]
    exact Nat.lt_irrefl _

-- The names on the way are those of entries, each deeper than the one before.
theorem leads_depth {inner : List String} {content : ByteArray}
    (leads : Leads s folder inner content) :
    inner.length ≤ (s.deeper folder.length).length := by
  have named : ∀ (folder : List String) (name : String), folder ++ [name] ≠ [] := fun folder name =>
    List.append_ne_nil_of_right_ne_nil folder (List.cons_ne_nil name [])
  induction leads with
  | file folder name content held =>
    exact Nat.lt_of_le_of_lt (Nat.zero_le _)
      (deeper_length_lt (entry_listed (named folder name) held) List.length_append)
  | folder folder name inner content held _ ih =>
    rw [List.length_append] at ih
    exact Nat.lt_of_le_of_lt ih
      (deeper_length_lt (entry_listed (named folder name) held) List.length_append)

end Below

section Walking

theorem mem_names_in (s : Store) (folder : List String) (name : String) :
    name ∈ s.namesIn folder ↔ ∃ entry, (folder ++ [name], entry) ∈ s.entries := by
  rw [namesIn, List.mem_mergeSort, List.mem_filterMap]
  constructor
  · rintro ⟨⟨names, entry⟩, listed, last⟩
    dsimp only at last
    split at last
    · rename_i placed
      simp only [Bool.and_eq_true, decide_eq_true_eq, beq_iff_eq] at placed
      obtain ⟨before, rfl⟩ := List.getLast?_eq_some_iff.mp last
      rw [List.length_append] at placed
      have same : before = folder := by
        rw [← placed.2, ← Nat.succ.inj placed.1, List.take_left]
      exact ⟨entry, same ▸ listed⟩
    · cases last
  · rintro ⟨entry, listed⟩
    exact ⟨_, listed, by simp⟩

theorem names_in_entry (s : Store) (folder : List String) (name : String) :
    name ∈ s.namesIn folder ↔ ∃ entry, s.entryAt (folder ++ [name]) = some entry := by
  have named := List.append_ne_nil_of_right_ne_nil folder (List.cons_ne_nil name [])
  rw [mem_names_in]
  constructor
  · rintro ⟨entry, listed⟩
    have found : (s.entries.find? (·.1 == folder ++ [name])).isSome = true := by
      rw [List.find?_isSome]
      exact ⟨_, listed, beq_self_eq_true _⟩
    obtain ⟨first, held⟩ := Option.isSome_iff_exists.mp found
    exact ⟨first.2, by rw [entryAt, if_neg (by simp), held]; rfl⟩
  · rintro ⟨entry, held⟩
    exact ⟨entry, entry_listed named held⟩

section Folder

variable {s : Store} {folder : List String} (regular : s.Regular folder) (direct : s.Direct folder)
  (there : s.entryAt folder = some .folder)

include regular direct there

theorem leads_to_folder_iff {name : String} {entry : Entry}
    (held : s.entryAt (folder ++ [name]) = some entry) :
    s.leadsToFolder folder name = true ↔ entry = .folder := by
  obtain ⟨ordinary, -, notLink⟩ := regular_entry regular held
  have found : s.locate true (s.stepLimit ⟨"", folder ++ [name]⟩) linkLimit [] (folder ++ [name]) =
      .ok (folder ++ [name], entry) := by
    obtain ⟨spare, steps⟩ : ∃ spare,
        s.stepLimit ⟨"", folder ++ [name]⟩ = folder.length + (spare + 1 + 1) := by
      refine ⟨1 + (linkLimit + 1) * (s.longestLink + 1), ?_⟩
      rw [step_limit_eq, List.length_append, List.length_singleton]
      omega
    rw [steps, s.locate_of_direct folder direct,
      s.locate_down _ _ folder name [] entry there ordinary held notLink]
    exact (s.locate_nil_iff _ _ _ _ _).mpr ⟨rfl, held⟩
  rw [leadsToFolder, found]
  cases entry with
  | file content => simp
  | link target => exact absurd rfl (notLink target)
  | folder => simp

theorem direct_inner {name : String} (held : s.entryAt (folder ++ [name]) = some .folder) :
    s.Direct (folder ++ [name]) := by
  obtain ⟨ordinary, -, notLink⟩ := regular_entry regular held
  exact .down folder name _ direct there ordinary held notLink

-- What a walk does in one folder.
theorem mem_files_step (fuel : Nat) (path file : Path) :
    file ∈ s.filesBelow (fuel + 1) folder path ↔
      (∃ name content, s.entryAt (folder ++ [name]) = some (.file content) ∧
        file = path.child name) ∨
      ∃ name, s.entryAt (folder ++ [name]) = some .folder ∧
        file ∈ s.filesBelow fuel (folder ++ [name]) (path.child name) := by
  simp only [filesBelow, List.partition_eq_filter_filter, List.mem_append, List.mem_map,
    List.mem_flatMap, List.mem_filter, names_in_entry]
  constructor
  · rintro (⟨name, ⟨⟨entry, held⟩, other⟩, rfl⟩ | ⟨name, ⟨⟨⟨entry, held⟩, leading⟩, -⟩, member⟩)
    · have told := leads_to_folder_iff regular direct there held
      cases entry with
      | file content => exact Or.inl ⟨name, content, held, rfl⟩
      | link target => exact absurd rfl ((regular_entry regular held).2.2 target)
      | folder => simp [told.mpr rfl] at other
    · obtain rfl := (leads_to_folder_iff regular direct there held).mp leading
      exact Or.inr ⟨name, held, member⟩
  · rintro (⟨name, content, held, rfl⟩ | ⟨name, held, member⟩)
    · have told := leads_to_folder_iff regular direct there held
      exact Or.inl ⟨name, ⟨⟨_, held⟩, by simpa using mt told.mp Entry.noConfusion⟩, rfl⟩
    · have told := leads_to_folder_iff regular direct there held
      exact Or.inr ⟨name, ⟨⟨⟨_, held⟩, told.mpr rfl⟩, by rw [isLink, held]; rfl⟩, member⟩

theorem mem_files_below (fuel : Nat) (path file : Path) :
    file ∈ s.filesBelow fuel folder path ↔ ∃ inner content, inner.length ≤ fuel ∧
      Leads s folder inner content ∧ file = ⟨path.root, path.parts ++ inner⟩ := by
  induction fuel generalizing folder path with
  | zero =>
    constructor
    · intro member
      cases member
    · rintro ⟨inner, content, short, leads, -⟩
      cases leads <;> cases short
  | succ fuel ih =>
    have inner_iff : ∀ name, s.entryAt (folder ++ [name]) = some .folder →
        (file ∈ s.filesBelow fuel (folder ++ [name]) (path.child name) ↔ _) := fun name held =>
      ih (regular_inner regular name) (direct_inner regular direct there held) held
        (path.child name)
    rw [mem_files_step regular direct there]
    constructor
    · rintro (⟨name, content, held, rfl⟩ | ⟨name, held, member⟩)
      · exact ⟨[name], content, Nat.succ_le_succ (Nat.zero_le _), .file _ _ _ held, rfl⟩
      · obtain ⟨inner, content, short, leads, rfl⟩ := (inner_iff name held).mp member
        refine ⟨name :: inner, content, Nat.succ_le_succ short, .folder _ _ _ _ held leads, ?_⟩
        rw [Path.child, List.append_assoc, List.singleton_append]
    · rintro ⟨inner, content, short, leads, rfl⟩
      cases leads with
      | file _ name content held => exact Or.inl ⟨name, content, held, rfl⟩
      | folder _ name inner content held leads =>
        refine Or.inr ⟨name, held, (inner_iff name held).mpr
          ⟨inner, content, Nat.le_of_succ_le_succ short, leads, ?_⟩⟩
        rw [Path.child, List.append_assoc, List.singleton_append]

end Folder

-- The path goes on from the folder that its beginning leads to.
theorem find_leads (s : Store) (path : Path) (names inner : List String) (content : ByteArray)
    (there : s.find path = .ok (names, .folder)) (regular : s.Regular names)
    (leads : Leads s names inner content) :
    s.find ⟨path.root, path.parts ++ inner⟩ = .ok (names ++ inner, .file content) := by
  obtain ⟨root, parts⟩ := path
  obtain ⟨clean, rfl⟩ : _ ∧ root = "" := find_ok there
  have found := there
  rw [s.find_relative _ clean rfl] at found
  obtain ⟨-, held⟩ := s.locate_direct _ _ _ _ _ _ .top found
  obtain ⟨spare, left, further⟩ := s.locate_append _ _ _ _ _ _ found
  have longer : s.stepLimit ⟨"", parts ++ inner⟩ = s.stepLimit ⟨"", parts⟩ + inner.length := by
    simp only [step_limit_eq, List.length_append]
    omega
  have spotless : ∀ name ∈ parts ++ inner, '\x00' ∉ name.toList := by
    rw [List.forall_mem_append]
    exact ⟨(Path.text_clean_iff parts).mp clean, leads_clean leads regular⟩
  rw [s.find_named _ spotless, longer, further, locate_leads leads regular held]

theorem mem_walked (s : Store) (path : Path) (names : List String)
    (there : s.find path = .ok (names, .folder)) (regular : s.Regular names) (file : Path) :
    file ∈ s.filesBelow (s.entries.length + 1) names path ↔ ∃ inner content,
      Leads s names inner content ∧ file = ⟨path.root, path.parts ++ inner⟩ := by
  obtain ⟨clean, relative⟩ := find_ok there
  rw [s.find_relative _ clean relative] at there
  obtain ⟨direct, held⟩ := s.locate_direct _ _ _ _ _ _ .top there
  rw [mem_files_below regular direct held]
  constructor
  · rintro ⟨inner, content, -, leads, rfl⟩
    exact ⟨inner, content, leads, rfl⟩
  · rintro ⟨inner, content, leads, rfl⟩
    have short := Nat.le_trans (leads_depth leads) (List.length_filter_le _ _)
    exact ⟨inner, content, Nat.le_succ_of_le short, leads, rfl⟩

end Walking

end Store

namespace Plan

open LoggingExcept

def walked (plan : Plan) (folder : Path) : List Path :=
  match plan.store.find folder with
  | .ok (names, .folder) => plan.store.filesBelow (plan.store.entries.length + 1) names folder
  | _ => []

theorem modules_below_eq (plan : Plan) (folder : Path) :
    plan.modulesBelow folder = (plan.walked folder).filter (·.name.endsWith ".py") := rfl

def isStemless (file : Path) : Bool := file.name == ".py"

section Offers

variable (plan : Plan) (folder : Path) (names : List String)
  (there : plan.store.find folder = .ok (names, .folder)) (regular : plan.store.Regular names)

include there

theorem walked_eq :
    plan.walked folder = plan.store.filesBelow (plan.store.entries.length + 1) names folder := by
  rw [walked, there]

theorem folder_answered : ∀ path ∈ [folder], plan.Answered path := by
  intro path member fault missing
  rw [List.mem_singleton.mp member, there] at missing
  cases missing

include regular

theorem find_walked (file : Path) (member : file ∈ plan.walked folder) :
    ∃ place content, plan.store.find file = .ok (place, .file content) := by
  rw [plan.walked_eq folder names there, Store.mem_walked _ _ _ there regular] at member
  obtain ⟨inner, content, leads, rfl⟩ := member
  exact ⟨_, content, plan.store.find_leads folder names inner content there regular leads⟩

theorem walked_answered : ∀ file ∈ plan.walked folder, plan.Answered file := by
  intro file member fault missing
  obtain ⟨place, content, found⟩ := plan.find_walked folder names there regular file member
  rw [found] at missing
  cases missing

theorem walked_offers :
    (plan.walked folder).flatMap plan.offered =
      (plan.walked folder).filter (·.suffix == ".py") := by
  have offers : ∀ file ∈ plan.walked folder,
      plan.offered file = if file.suffix == ".py" then [file] else [] := by
    intro file member
    obtain ⟨place, content, found⟩ := plan.find_walked folder names there regular file member
    rw [offered, found]
  generalize plan.walked folder = files at offers
  induction files with
  | nil => rfl
  | cons file rest ih =>
    rw [List.forall_mem_cons] at offers
    rw [List.flatMap_cons, List.filter_cons, offers.1, ih offers.2]
    split <;> rfl

end Offers

theorem suffixed_walked (plan : Plan) (folder : Path) :
    (plan.walked folder).filter (·.suffix == ".py") =
      (plan.modulesBelow folder).filter (!isStemless ·) := by
  rw [modules_below_eq, List.filter_filter]
  congr 1
  funext file
  rw [Bool.eq_iff_iff, Bool.and_eq_true, beq_iff_eq, Path.suffix_py_iff, isStemless,
    Bool.not_eq_true', beq_eq_false_iff_ne, and_comm]

theorem stemless_modules (plan : Plan) (folder : Path) :
    (plan.modulesBelow folder).countP isStemless = (plan.walked folder).countP isStemless := by
  rw [modules_below_eq, List.countP_filter]
  congr 1
  funext file
  rw [Bool.and_eq_left_iff_imp]
  intro stemless
  rw [beq_iff_eq.mp stemless, Path.ends_py_iff]
  exact ⟨[], by decide⟩

theorem length_sifted (files : List Path) (out : Path → Bool) :
    (files.filter (!out ·)).length + files.countP out = files.length := by
  rw [← List.countP_eq_length_filter, Nat.add_comm]
  simpa using (List.length_eq_countP_add_countP out (l := files)).symm

theorem sorted_all_sifted (plan : Plan) (files : List Path) (sifted : Path → Bool)
    (found : Collected) (sorted : plan.sortedAll files = .ok found) :
    ∃ given, plan.sortedAll (files.filter (!sifted ·)) = .ok given ∧
      given.paths = found.paths.filter (!sifted ·) ∧
      found.paths.length + found.excluded =
        given.paths.length + given.excluded + files.countP sifted := by
  have settled := (plan.sorted_all_ok_iff files).mp ⟨found, sorted⟩
  rw [plan.sorted_all_settled files settled] at sorted
  cases sorted
  refine ⟨_, plan.sorted_all_settled _ fun file member =>
    settled file (List.mem_filter.mp member).1, ?_, ?_⟩
  · exact List.filter_comm _ _ _
  · dsimp only
    rw [length_sifted, length_sifted, length_sifted]

section Collecting

variable (plan : Plan) (folder : Path) (names : List String)
  (there : plan.store.find folder = .ok (names, .folder))

include there

theorem collect_folder :
    Gives (plan.collectAll [folder]) (plan.sortedAll (plan.modulesBelow folder)) := by
  have collected := plan.collect_all_answered [folder] (plan.folder_answered folder names there)
  have offers : [folder].flatMap plan.offered = plan.modulesBelow folder := by
    simp [offered, there]
  rwa [offers] at collected

theorem collect_walked (regular : plan.store.Regular names) :
    Gives (plan.collectAll (plan.walked folder))
      (plan.sortedAll ((plan.modulesBelow folder).filter (!isStemless ·))) := by
  have collected := plan.collect_all_answered _ (plan.walked_answered folder names there regular)
  rwa [plan.walked_offers folder names there regular, suffixed_walked] at collected

end Collecting

/-- A folder and the files below it, named one by one in the order of a walk, come to the same if
none is without a stem. Else just these are missed where the files are named. -/
theorem folder_and_files_agree (plan : Plan) (folder : Path) (names : List String)
    (there : plan.store.find folder = .ok (names, .folder)) (regular : plan.store.Regular names) :
    (∀ file, file ∈ plan.walked folder ↔ ∃ inner content,
      Store.Leads plan.store names inner content ∧ file = ⟨folder.root, folder.parts ++ inner⟩) ∧
    ∃ byFolder byName, Gives (plan.collectAll [folder]) byFolder ∧
      Gives (plan.collectAll (plan.walked folder)) byName ∧
      ((∀ file ∈ plan.walked folder, file.name ≠ ".py") → byFolder = byName) ∧
      ∀ found, byFolder = .ok found → ∃ given, byName = .ok given ∧
        given.paths = found.paths.filter (!isStemless ·) ∧
        found.paths.length + found.excluded =
          given.paths.length + given.excluded + (plan.walked folder).countP isStemless := by
  refine ⟨?_, _, _, plan.collect_folder folder names there,
    plan.collect_walked folder names there regular, fun stemmed => ?_, fun found sorted => ?_⟩
  · rw [plan.walked_eq folder names there]
    exact plan.store.mem_walked folder names there regular
  · rw [List.filter_eq_self.mpr]
    intro file member
    rw [modules_below_eq] at member
    simpa [isStemless] using stemmed file (List.mem_filter.mp member).1
  · rw [← stemless_modules]
    exact plan.sorted_all_sifted _ isStemless found sorted

def linked : Plan where
  names := Code.noNames
  store := { entries := [(["d"], .folder), (["d", ".py"], .file ⟨#[]⟩),
    (["d", "a.b.py"], .file ⟨#[]⟩), (["d", "sub"], .folder), (["d", "sub", "c.py"], .file ⟨#[]⟩),
    (["to"], .link "d")] }
  settings := {}
  examiners := .ok []

theorem find_linked : linked.store.find ⟨"", ["to"]⟩ = .ok (["d"], .folder) := by
  rw [linked.store.find_named ["to"] (by decide)]
  rfl

theorem folder_and_files_agree_linked :
    linked.store.find ⟨"", ["to"]⟩ = .ok (["d"], .folder) ∧ linked.store.Regular ["d"] ∧
      ⟨"", ["to", "sub", "c.py"]⟩ ∈ linked.walked ⟨"", ["to"]⟩ ∧
      ∃ byFolder byName, Gives (linked.collectAll [⟨"", ["to"]⟩]) byFolder ∧
        Gives (linked.collectAll (linked.walked ⟨"", ["to"]⟩)) byName ∧
        ∀ found, byFolder = .ok found → ∃ given, byName = .ok given ∧
          given.paths = found.paths.filter (!isStemless ·) := by
  have regular : linked.store.Regular ["d"] := by decide
  obtain ⟨walks, byFolder, byName, collected, named, -, sifted⟩ :=
    folder_and_files_agree linked ⟨"", ["to"]⟩ ["d"] find_linked regular
  refine ⟨find_linked, regular, (walks _).mpr ⟨["sub", "c.py"], ⟨#[]⟩, ?_, rfl⟩, byFolder, byName,
    collected, named, fun found ended => ?_⟩
  · exact .folder _ _ _ _ rfl (.file _ _ _ rfl)
  · obtain ⟨given, ended, same, -⟩ := sifted found ended
    exact ⟨given, ended, same⟩

def bare : Plan where
  names := Code.noNames
  store := { entries := [(["d"], .folder), (["d", ".py"], .file ⟨#[]⟩)] }
  settings := {}
  examiners := .ok []

theorem find_bare : bare.store.find ⟨"", ["d"]⟩ = .ok (["d"], .folder) := by
  rw [bare.store.find_named ["d"] (by decide)]
  rfl

theorem bare_walked : bare.walked ⟨"", ["d"]⟩ = [⟨"", ["d", ".py"]⟩] := by
  have listed : bare.store.namesIn ["d"] = [".py"] := List.mergeSort_singleton ".py"
  rw [bare.walked_eq _ _ find_bare, Store.filesBelow, listed]
  rfl

theorem bare_modules : bare.modulesBelow ⟨"", ["d"]⟩ = [⟨"", ["d", ".py"]⟩] := by
  rw [modules_below_eq, bare_walked, List.filter_eq_self, List.forall_mem_singleton,
    Path.ends_py_iff]
  exact ⟨[], by decide⟩

/-- A file without a stem is collected from its folder, and not where it is named. -/
theorem stemless_unnamed :
    bare.store.Regular ["d"] ∧ bare.walked ⟨"", ["d"]⟩ = [⟨"", ["d", ".py"]⟩] ∧
      Gives (bare.collectAll [⟨"", ["d"]⟩]) (.ok ⟨[⟨"", ["d", ".py"]⟩], 0⟩) ∧
      Gives (bare.collectAll [⟨"", ["d", ".py"]⟩]) (.ok ⟨[], 0⟩) := by
  have regular : bare.store.Regular ["d"] := by decide
  have byFolder := bare.collect_folder ⟨"", ["d"]⟩ ["d"] find_bare
  have byName := bare.collect_walked ⟨"", ["d"]⟩ ["d"] find_bare regular
  rw [bare_modules] at byFolder byName
  rw [bare_walked] at byName
  exact ⟨regular, bare_walked, byFolder, byName⟩

end Plan

end RefactorAdvice
