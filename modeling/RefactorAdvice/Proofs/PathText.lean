import RefactorAdvice.Files.Path

/-!
Paths and their texts. A path that was read from text has one of three roots, and names without
slashes that say something; its text spells it again. So two such paths with one text are one
path.
-/

namespace RefactorAdvice.Path

structure Proper (p : Path) : Prop where
  rooted : p.root = "" ∨ p.root = "/" ∨ p.root = "//"
  telling : ∀ name ∈ p.parts, isVoid name = false
  whole : ∀ name ∈ p.parts, '/' ∉ name.toList

section Names

theorem names_from_eq (name cs : List Char) :
    namesFrom name cs =
      ((cs.splitOn '/').modifyHead (name.reverse ++ ·)).map String.ofList := by
  induction cs generalizing name with
  | nil => simp [namesFrom]
  | cons c rest ih =>
    simp only [namesFrom, ih, List.splitOn_cons_eq_if_modifyHead]
    cases c == '/' with
    | true => cases rest.splitOn '/' <;> simp
    | false => simp [List.modifyHead_modifyHead, Function.comp_def]

theorem names_eq (cs : List Char) : namesFrom [] cs = (cs.splitOn '/').map String.ofList := by
  rw [names_from_eq]
  congr 1
  cases cs.splitOn '/' <;> rfl

-- No piece of a text that was cut at its slashes holds one.
theorem mem_split_whole (cs name : List Char) (member : name ∈ cs.splitOn '/') : '/' ∉ name := by
  induction cs generalizing name with
  | nil =>
    rw [List.splitOn_nil, List.mem_singleton] at member
    simp [member]
  | cons c rest ih =>
    rw [List.splitOn_cons_eq_if_modifyHead] at member
    split at member
    · rcases List.mem_cons.mp member with rfl | later
      · simp
      · exact ih name later
    · rename_i other
      cases pieces : rest.splitOn '/' with
      | nil =>
        rw [pieces] at member
        cases member
      | cons first others =>
        rw [pieces] at member ih
        rcases List.mem_cons.mp member with rfl | later
        · have unlike : '/' ≠ c := fun same => other (beq_iff_eq.mpr same.symm)
          simpa [unlike] using ih first List.mem_cons_self
        · exact ih name (List.mem_cons_of_mem first later)

end Names

theorem of_text_proper (text : String) : (ofText text).Proper := by
  refine ⟨?_, ?_, ?_⟩
  · simp only [ofText]
    split
    · exact Or.inl rfl
    · split
      · exact Or.inr (Or.inr rfl)
      · exact Or.inr (Or.inl rfl)
  · intro name member
    have kept := (List.mem_filter.mp member).2
    simpa using kept
  · intro name member
    have piece := (List.mem_filter.mp member).1
    rw [names_eq] at piece
    obtain ⟨cs, cut, rfl⟩ := List.mem_map.mp piece
    rw [String.toList_ofList]
    exact mem_split_whole text.toList cs cut

section Spelling

def spelled (names : List String) : List Char := ['/'].intercalate (names.map String.toList)

theorem names_spelled (names : List String) (telling : ∀ name ∈ names, isVoid name = false)
    (whole : ∀ name ∈ names, '/' ∉ name.toList) :
    ((spelled names).splitOn '/' |>.map String.ofList).filter (!isVoid ·) = names := by
  cases names with
  | nil => rfl
  | cons first others =>
    have cut := List.splitOn_intercalate '/'
      (show ∀ cs ∈ (first :: others).map String.toList, '/' ∉ cs from fun cs member => by
        obtain ⟨name, listed, rfl⟩ := List.mem_map.mp member
        exact whole name listed)
      (by simp)
    rw [spelled, cut, List.map_map]
    have back : String.ofList ∘ String.toList = id := funext fun _ => String.ofList_toList
    rw [back, List.map_id]
    refine List.filter_eq_self.mpr fun name listed => ?_
    rw [telling name listed]
    rfl

-- The first name is not empty and does not begin with a slash, so the slashes are the root's.
theorem spelled_unslashed (names : List String) (telling : ∀ name ∈ names, isVoid name = false)
    (whole : ∀ name ∈ names, '/' ∉ name.toList) :
    (spelled names).takeWhile (· == '/') = [] := by
  cases names with
  | nil => rfl
  | cons first others =>
    have told := telling first List.mem_cons_self
    have unslashed := whole first List.mem_cons_self
    cases chars : first.toList with
    | nil =>
      have blank : first = "" := String.toList_eq_nil_iff.mp chars
      rw [blank] at told
      cases told
    | cons c rest =>
      have unlike : (c == '/') = false := by
        rw [chars] at unslashed
        simp only [List.mem_cons, not_or] at unslashed
        exact beq_false_of_ne fun same => unslashed.1 same.symm
      cases others <;> simp [spelled, chars, List.intercalate_cons_cons, unlike]

theorem of_text_text (p : Path) (proper : p.Proper) : ofText p.text = p := by
  obtain ⟨root, parts⟩ := p
  obtain ⟨rooted, telling, whole⟩ := proper
  by_cases bare : root = "" ∧ parts = []
  · obtain ⟨rfl, rfl⟩ := bare
    rfl
  · have written : (text ⟨root, parts⟩).toList = root.toList ++ spelled parts := by
      have shown : (root == "" && parts.isEmpty) = false := by
        simpa [Bool.and_eq_false_imp] using bare
      simp [text, shown, spelled, String.toList_intercalate]
    have named := names_spelled parts telling whole
    have plain := spelled_unslashed parts telling whole
    have void : isVoid (String.ofList []) = true := rfl
    rcases rooted with rfl | rfl | rfl <;>
      simp [ofText, written, names_eq, List.splitOn_cons_eq_if_modifyHead, void, plain, named]

theorem text_injective (p q : Path) (proper : p.Proper) (alsoProper : q.Proper)
    (same : p.text = q.text) : p = q := by
  rw [← of_text_text p proper, same, of_text_text q alsoProper]

theorem mem_spelled (c : Char) (apart : c ≠ '/') (names : List String) :
    c ∈ spelled names ↔ ∃ name ∈ names, c ∈ name.toList := by
  rw [spelled]
  induction names with
  | nil => simp
  | cons name rest ih =>
    cases rest with
    | nil => simp
    | cons next others =>
      rw [List.map_cons, List.map_cons, List.intercalate_cons_cons]
      rw [List.map_cons] at ih
      simp [ih, apart]

theorem text_clean_iff (parts : List String) :
    '\x00' ∉ (text ⟨"", parts⟩).toList ↔ ∀ name ∈ parts, '\x00' ∉ name.toList := by
  cases parts with
  | nil => simp [text]
  | cons first others =>
    have shown : (text ⟨"", first :: others⟩).toList = spelled (first :: others) := by
      simp [text, spelled, String.toList_intercalate]
    rw [shown, mem_spelled _ (by decide)]
    simp only [not_exists, not_and]

end Spelling

end RefactorAdvice.Path
