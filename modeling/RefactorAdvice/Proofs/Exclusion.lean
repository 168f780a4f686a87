import Mathlib.Data.List.Basic
import Mathlib.Data.List.Forall2
import RefactorAdvice.Files.Glob
import RefactorAdvice.Proofs.PathText

/-!
What patterns leave out. A pattern that names nothing cannot be held against a path; any other
has a verdict on every path. Patterns are tried in order, so a run of them has no verdict exactly
where one that names nothing is reached before any has excluded the path.

A plain name excludes the paths that end in it and no others, so the name of a folder leaves out
nothing of what is below the folder. What is below it is left out, and nothing else is, by the
name with a wildcard behind it together with the name between two wildcards.
-/

namespace RefactorAdvice.Glob

section Nameless

def slashed (pattern : String) : String :=
  String.ofList (pattern.toList.map fun c => if c == '\\' then '/' else c)

/-- A pattern that names nothing: it is relative, and between its slashes there are only single
dots or nothing at all. -/
def Nameless (pattern : String) : Prop :=
  (slashed pattern).toList.head? ≠ some '/' ∧
    ∀ part ∈ (slashed pattern).toList.splitOn '/', part = [] ∨ part = ['.']

theorem void_iff (cs : List Char) :
    Path.isVoid (String.ofList cs) = true ↔ cs = [] ∨ cs = ['.'] := by
  have blank : String.ofList cs = "" ↔ cs = [] := by
    rw [← String.toList_inj, String.toList_ofList]
    rfl
  have dot : String.ofList cs = "." ↔ cs = ['.'] := by
    rw [← String.toList_inj, String.toList_ofList]
    rfl
  rw [Path.isVoid, Bool.or_eq_true, beq_iff_eq, beq_iff_eq, blank, dot]

theorem of_text_rootless_iff (text : String) :
    (Path.ofText text).root = "" ↔ text.toList.head? ≠ some '/' := by
  cases chars : text.toList with
  | nil => simp [Path.ofText, chars]
  | cons c rest =>
    by_cases slash : c = '/'
    · simp only [Path.ofText, chars, slash, List.takeWhile_cons, beq_self_eq_true, ↓reduceIte,
        List.length_cons, List.head?_cons, ne_eq, not_true_eq_false, iff_false]
      rw [if_neg (Nat.succ_ne_zero _)]
      split <;> decide
    · simp [Path.ofText, chars, slash]

theorem nameless_iff (pattern : String) :
    Nameless pattern ↔ (Path.ofText (slashed pattern)).components = [] := by
  have parts : (Path.ofText (slashed pattern)).parts = [] ↔
      ∀ part ∈ (slashed pattern).toList.splitOn '/', part = [] ∨ part = ['.'] := by
    simp [Path.ofText, Path.names_eq, void_iff]
  rw [Nameless, ← parts, ← of_text_rootless_iff, Path.components]
  by_cases relative : (Path.ofText (slashed pattern)).root = "" <;> simp [relative]

end Nameless

section Verdicts

theorem excludes_eq (pattern : String) (path : Path) :
    excludes pattern path = (do
      if ← fitsPath (slashed pattern) path then return true
      return fits (slashed pattern) path.text || fits (slashed pattern) path.name) := rfl

theorem fits_path_nameless (pattern : String) (path : Path) (nameless : Nameless pattern) :
    fitsPath (slashed pattern) path = .error .empty := by
  simp [fitsPath, (nameless_iff pattern).mp nameless]

theorem fits_path_named (pattern : String) (path : Path) (named : ¬ Nameless pattern) :
    ∃ verdict, fitsPath (slashed pattern) path = .ok verdict := by
  have kept : (Path.ofText (slashed pattern)).components.isEmpty = false := by
    rw [nameless_iff] at named
    simpa using named
  simp only [fitsPath, kept]
  split
  · cases ‹_›
  · split <;> exact ⟨_, rfl⟩

theorem excludes_nameless (pattern : String) (path : Path) (nameless : Nameless pattern) :
    excludes pattern path = .error .empty := by
  rw [excludes_eq, fits_path_nameless pattern path nameless]
  rfl

theorem excludes_named (pattern : String) (path : Path) (named : ¬ Nameless pattern) :
    ∃ verdict, excludes pattern path = .ok verdict := by
  obtain ⟨verdict, given⟩ := fits_path_named pattern path named
  rw [excludes_eq, given]
  cases verdict with
  | true => exact ⟨true, rfl⟩
  | false => exact ⟨_, rfl⟩

/-- Patterns of which one that names nothing is reached before any has excluded a path. -/
inductive Stumbles (path : Path) : List String → Prop where
  | here (pattern : String) (rest : List String) (nameless : Nameless pattern) :
      Stumbles path (pattern :: rest)
  | later (pattern : String) (rest : List String) (passed : excludes pattern path = .ok false)
      (stumbles : Stumbles path rest) : Stumbles path (pattern :: rest)

-- The induction follows the trying: a pattern breaks off, ends the trying, or passes the path on.
theorem excludes_any_error_iff (patterns : List String) (path : Path) (fault : PatternFault) :
    excludesAny patterns path = .error fault ↔ Stumbles path patterns := by
  induction patterns with
  | nil =>
    constructor
    · intro failed
      cases failed
    · intro stumbles
      cases stumbles
  | cons pattern rest ih =>
    by_cases nameless : Nameless pattern
    · have failed : excludesAny (pattern :: rest) path = .error .empty := by
        rw [excludesAny, excludes_nameless pattern path nameless]
        rfl
      rw [failed]
      cases fault
      simpa using Stumbles.here pattern rest nameless
    · obtain ⟨verdict, given⟩ := excludes_named pattern path nameless
      rw [excludesAny, given]
      cases verdict with
      | true =>
        constructor
        · intro failed
          cases failed
        · intro stumbles
          cases stumbles with
          | here _ _ vacant => exact absurd vacant nameless
          | later _ _ passed _ =>
            rw [given] at passed
            cases passed
      | false =>
        refine ih.trans ⟨.later pattern rest given, fun stumbles => ?_⟩
        cases stumbles with
        | here _ _ vacant => exact absurd vacant nameless
        | later _ _ _ stumbles => exact stumbles

theorem excludes_any_settled_iff (patterns : List String) (path : Path) :
    (∃ verdict, excludesAny patterns path = .ok verdict) ↔ ¬ Stumbles path patterns := by
  cases given : excludesAny patterns path with
  | error fault => simpa using (excludes_any_error_iff patterns path fault).mp given
  | ok verdict =>
    have through := mt (excludes_any_error_iff patterns path .empty).mpr (by simp [given])
    simpa using through

def hits (pattern : String) (path : Path) : Bool := (excludes pattern path).toOption.getD false

theorem excludes_hits (pattern : String) (path : Path) (named : ¬ Nameless pattern) :
    excludes pattern path = .ok (hits pattern path) := by
  obtain ⟨verdict, given⟩ := excludes_named pattern path named
  rw [hits, given]
  rfl

-- Where every pattern has a verdict, their order decides nothing.
theorem excludes_any_named (patterns : List String) (path : Path)
    (named : ∀ pattern ∈ patterns, ¬ Nameless pattern) :
    excludesAny patterns path = .ok (patterns.any (hits · path)) := by
  induction patterns with
  | nil => rfl
  | cons pattern rest ih =>
    have others := ih fun p member => named p (List.mem_cons_of_mem pattern member)
    rw [excludesAny, excludes_hits pattern path (named pattern List.mem_cons_self), List.any_cons]
    cases hits pattern path with
    | true => rfl
    | false => exact others

end Verdicts

section Matching

theorem mem_endings_iff (cs ending : List Char) :
    ending ∈ endings cs ↔ ∃ before, cs = before ++ ending := by
  induction cs with
  | nil => simp [endings, eq_comm]
  | cons c rest ih =>
    rw [endings, List.mem_cons, ih]
    constructor
    · rintro (rfl | ⟨before, rfl⟩)
      · exact ⟨[], rfl⟩
      · exact ⟨c :: before, rfl⟩
    · rintro ⟨before, same⟩
      cases before with
      | nil => exact Or.inl same.symm
      | cons d before => exact Or.inr ⟨before, (List.cons.inj same).2⟩

theorem match_run_iff (rest : List Token) (cs : List Char) :
    matchTokens (.run :: rest) cs = true ↔
      ∃ before after, cs = before ++ after ∧ matchTokens rest after = true := by
  simp only [matchTokens, List.any_eq_true, mem_endings_iff]
  constructor
  · rintro ⟨after, ⟨before, cut⟩, fit⟩
    exact ⟨before, after, cut, fit⟩
  · rintro ⟨before, after, cut, fit⟩
    exact ⟨after, ⟨before, cut⟩, fit⟩

theorem match_chars_iff (own : List Char) (rest : List Token) (cs : List Char) :
    matchTokens (own.map .char ++ rest) cs = true ↔
      ∃ after, cs = own ++ after ∧ matchTokens rest after = true := by
  induction own generalizing cs with
  | nil => simp
  | cons c own ih =>
    cases cs with
    | nil => simp [matchTokens]
    | cons d tail => simp [matchTokens, Token.accepts, ih, and_assoc]

def isPlainChar (c : Char) : Bool := c != '*' && c != '?' && c != '['

theorem tokens_from_plain (own rest : List Char) (plain : ∀ c ∈ own, isPlainChar c = true)
    (fuel : Nat) :
    tokensFrom (own.length + fuel) (own ++ rest) = own.map .char ++ tokensFrom fuel rest := by
  induction own with
  | nil => simp
  | cons c own ih =>
    have here := plain c List.mem_cons_self
    have later := ih fun d member => plain d (List.mem_cons_of_mem c member)
    simp only [isPlainChar, Bool.and_eq_true, bne_iff_ne, ne_eq] at here
    obtain ⟨⟨run, one⟩, bracket⟩ := here
    rw [List.length_cons, Nat.add_right_comm, List.cons_append, tokensFrom]
    simp [run, one, bracket, later]

end Matching

section PlainNames

structure Plain (name : String) : Prop where
  plain : ∀ c ∈ name.toList, isPlainChar c = true
  whole : '/' ∉ name.toList
  unturned : '\\' ∉ name.toList
  told : Path.isVoid name = false

def inFolder (name : String) : String := name ++ "/*"

def belowFolder (name : String) : String := "*/" ++ name ++ "/*"

variable (name : String) (plain : Plain name)
include plain

theorem fits_name_iff (text : String) : fits name text = true ↔ text = name := by
  have chars := tokens_from_plain name.toList [] plain.plain 0
  rw [Nat.add_zero, List.append_nil] at chars
  rw [fits, tokens, chars, match_chars_iff, ← String.toList_inj]
  simp [tokensFrom, matchTokens]

theorem fits_in_folder_iff (text : String) :
    fits (inFolder name) text = true ↔ ∃ after, text.toList = name.toList ++ '/' :: after := by
  have chars := tokens_from_plain name.toList ['/', '*'] plain.plain 2
  have spelt : (inFolder name).toList = name.toList ++ ['/', '*'] := by simp [inFolder]
  have ending : tokensFrom 2 ['/', '*'] = ['/'].map .char ++ [.run] := rfl
  have fit : fits (inFolder name) text =
      matchTokens (name.toList.map .char ++ (['/'].map .char ++ [.run])) text.toList := by
    rw [fits, tokens, spelt, List.length_append, ← ending, ← chars]
    rfl
  rw [fit]
  simp only [match_chars_iff, match_run_iff]
  simp [matchTokens]

theorem fits_below_folder_iff (text : String) :
    fits (belowFolder name) text = true ↔
      ∃ before after, text.toList = before ++ '/' :: (name.toList ++ '/' :: after) := by
  have chars := tokens_from_plain name.toList ['/', '*'] plain.plain 2
  have spelt : (belowFolder name).toList = '*' :: '/' :: (name.toList ++ ['/', '*']) := by
    simp [belowFolder]
  have ending : tokensFrom 2 ['/', '*'] = ['/'].map .char ++ [.run] := rfl
  have fit : fits (belowFolder name) text =
      matchTokens (.run :: (['/'].map .char ++ (name.toList.map .char ++
        (['/'].map .char ++ [.run])))) text.toList := by
    rw [fits, tokens, spelt]
    simp only [List.length_cons, List.length_append, List.length_nil]
    rw [← ending, ← chars]
    rfl
  rw [fit]
  simp only [match_chars_iff, match_run_iff]
  simp [matchTokens]

end PlainNames

section Ends

theorem fits_front_iff (patterns names : List String) :
    (patterns.length ≤ names.length ∧
        (patterns.zip names).all (fun (pattern, name) => fits pattern name) = true) ↔
      ∃ front back, names = front ++ back ∧
        List.Forall₂ (fun pattern name => fits pattern name = true) patterns front := by
  induction patterns generalizing names with
  | nil => simp
  | cons pattern rest ih =>
    cases names with
    | nil => simp
    | cons name others =>
      rw [List.length_cons, List.length_cons, Nat.add_le_add_iff_right, List.zip_cons_cons,
        List.all_cons, Bool.and_eq_true, and_left_comm, ih]
      constructor
      · rintro ⟨fit, front, back, rfl, fits⟩
        exact ⟨name :: front, back, rfl, .cons fit fits⟩
      · rintro ⟨front, back, cut, fits⟩
        cases fits with
        | cons fit fits =>
          obtain ⟨rfl, rfl⟩ := List.cons.inj cut
          exact ⟨fit, _, back, rfl, fits⟩

theorem fits_from_end_iff (patterns names : List String) :
    (patterns.length ≤ names.length ∧ fitsFromEnd patterns names = true) ↔
      ∃ front back, names = front ++ back ∧
        List.Forall₂ (fun pattern name => fits pattern name = true) patterns back := by
  have turned := fits_front_iff patterns.reverse names.reverse
  rw [List.length_reverse, List.length_reverse] at turned
  rw [fitsFromEnd, turned]
  constructor
  · rintro ⟨back, front, cut, fits⟩
    refine ⟨front.reverse, back.reverse, ?_, ?_⟩
    · rw [← List.reverse_append, ← cut, List.reverse_reverse]
    · rw [← List.forall₂_reverse_iff, List.reverse_reverse]
      exact fits
  · rintro ⟨front, back, rfl, fits⟩
    exact ⟨back.reverse, front.reverse, List.reverse_append, List.forall₂_reverse_iff.mpr fits⟩

theorem slashed_unturned (text : String) (unturned : '\\' ∉ text.toList) : slashed text = text := by
  have kept : ∀ c ∈ text.toList, (if c == '\\' then '/' else c) = c := by
    intro c member
    have other : c ≠ '\\' := fun same => unturned (same ▸ member)
    simp [other]
  rw [slashed, List.map_congr_left kept, List.map_id', String.ofList_toList]

/-- A relative pattern hits a path by its last names, by its text, or by its last name alone. -/
theorem hits_relative_iff (pattern : String) (parts : List String) (path : Path)
    (unturned : '\\' ∉ pattern.toList) (read : Path.ofText pattern = ⟨"", parts⟩)
    (some : parts ≠ []) :
    ¬ Nameless pattern ∧
      (hits pattern path = true ↔
        (∃ front back, path.components = front ++ back ∧
          List.Forall₂ (fun pattern name => fits pattern name = true) parts back) ∨
        fits pattern path.text = true ∨ fits pattern path.name = true) := by
  have own := slashed_unturned pattern unturned
  have named : ¬ Nameless pattern := by
    rw [nameless_iff, own, read]
    simpa [Path.components] using some
  have fit : fitsPath pattern path =
      .ok (decide (parts.length ≤ path.components.length) &&
        fitsFromEnd parts path.components) := by
    simp [fitsPath, read, Path.components, some]
  have verdict : hits pattern path =
      ((decide (parts.length ≤ path.components.length) && fitsFromEnd parts path.components) ||
        (fits pattern path.text || fits pattern path.name)) := by
    rw [hits, excludes_eq, own, fit]
    generalize (decide (parts.length ≤ path.components.length) &&
      fitsFromEnd parts path.components) = ends
    cases ends with
    | true => rfl
    | false => rfl
  refine ⟨named, ?_⟩
  rw [verdict, ← fits_from_end_iff, Bool.or_eq_true, Bool.and_eq_true, decide_eq_true_iff,
    Bool.or_eq_true]

end Ends

section Folders

-- A name without slashes is no root, so it stands among the parts of the path.
theorem parts_of_components (path : Path) (proper : path.Proper) (name : String)
    (whole : '/' ∉ name.toList) (front back : List String)
    (cut : path.components = front ++ name :: back) :
    ∃ before, path.parts = before ++ name :: back := by
  by_cases relative : path.root = ""
  · rw [Path.components, if_pos (by simp [relative])] at cut
    exact ⟨front, cut⟩
  · rw [Path.components, if_neg (by simpa using relative)] at cut
    cases front with
    | nil =>
      obtain ⟨rooted, _⟩ := List.cons.inj cut
      rcases proper.rooted with bare | single | double
      · exact absurd bare relative
      · exact absurd (by rw [← rooted, single]; decide) whole
      · exact absurd (by rw [← rooted, double]; decide) whole
    | cons first before => exact ⟨before, (List.cons.inj cut).2⟩

def Leads {α : Type} (name : α) (names : List α) : Prop :=
  ∃ front back, names = front ++ name :: back ∧ back ≠ []

theorem leads_iff {α : Type} (name : α) (names : List α) :
    Leads name names ↔ name ∈ names.dropLast := by
  constructor
  · rintro ⟨front, back, rfl, some⟩
    rw [List.dropLast_append_cons, List.dropLast_cons_of_ne_nil some]
    simp
  · intro member
    have some : names ≠ [] := by
      rintro rfl
      cases member
    obtain ⟨front, back, cut⟩ := List.append_of_mem member
    refine ⟨front, back ++ [names.getLast some], ?_, by simp⟩
    rw [← List.cons_append, ← List.append_assoc, ← cut, List.dropLast_append_getLast]

theorem intercalate_append (front back : List (List Char)) (first : front ≠ [])
    (second : back ≠ []) :
    ['/'].intercalate (front ++ back) =
      ['/'].intercalate front ++ '/' :: ['/'].intercalate back := by
  induction front with
  | nil => exact absurd rfl first
  | cons piece rest ih =>
    cases rest with
    | nil => simp [List.intercalate_cons_of_ne_nil second]
    | cons next others =>
      have joined := ih (by simp)
      simp only [List.cons_append, List.intercalate_cons_cons, List.append_assoc] at joined ⊢
      rw [joined]

theorem leads_split_iff (cs name : List Char) (whole : '/' ∉ name) :
    Leads name (cs.splitOn '/') ↔
      (∃ after, cs = name ++ '/' :: after) ∨
        ∃ before after, cs = before ++ '/' :: (name ++ '/' :: after) := by
  constructor
  · rintro ⟨front, back, cut, some⟩
    have spelt : ['/'].intercalate (cs.splitOn '/') = cs := List.intercalate_splitOn '/'
    rw [cut] at spelt
    cases front with
    | nil =>
      rw [List.nil_append, List.intercalate_cons_of_ne_nil some] at spelt
      exact Or.inl ⟨['/'].intercalate back, by rw [← spelt]; simp⟩
    | cons first others =>
      rw [intercalate_append _ _ (by simp) (by simp), List.intercalate_cons_of_ne_nil some] at spelt
      refine Or.inr ⟨['/'].intercalate (first :: others), ['/'].intercalate back, ?_⟩
      rw [← spelt]
      simp
  · have own := List.splitOn_eq_singleton whole
    rintro (⟨after, rfl⟩ | ⟨before, after, rfl⟩)
    · refine ⟨[], after.splitOn '/', ?_, List.splitOn_ne_nil '/' after⟩
      rw [List.splitOn_append_cons_self, own]
      rfl
    · refine ⟨before.splitOn '/', after.splitOn '/', ?_, List.splitOn_ne_nil '/' after⟩
      rw [List.splitOn_append_cons_self, List.splitOn_append_cons_self, own]
      rfl

-- What is before the first slash of an absolute path is empty, so its pieces are no names.
theorem split_text (path : Path) (proper : path.Proper) (some : path.parts ≠ []) :
    path.text.toList.splitOn '/' =
      path.root.toList.map (fun _ => []) ++ path.parts.map String.toList := by
  have pieces : (Path.spelled path.parts).splitOn '/' = path.parts.map String.toList := by
    refine List.splitOn_intercalate '/' (fun cs member => ?_) (by simpa using some)
    obtain ⟨name, listed, rfl⟩ := List.mem_map.mp member
    exact proper.whole name listed
  have written : path.text.toList = path.root.toList ++ Path.spelled path.parts := by
    have shown : (path.root == "" && path.parts.isEmpty) = false := by simp [some]
    simp [Path.text, shown, Path.spelled, String.toList_intercalate]
  rw [written]
  rcases proper.rooted with bare | single | double
  · simp [bare, pieces]
  · simp [single, List.splitOn_cons_eq_if_modifyHead, pieces]
  · simp [double, List.splitOn_cons_eq_if_modifyHead, pieces]

variable (name : String) (plain : Plain name) (path : Path) (proper : path.Proper)
include plain proper

theorem leads_text_iff :
    Leads name.toList (path.text.toList.splitOn '/') ↔ Leads name path.parts := by
  have solid : name.toList ≠ [] := by
    intro blank
    have void : Path.isVoid (String.ofList name.toList) = true := (void_iff _).mpr (Or.inl blank)
    rw [String.ofList_toList, plain.told] at void
    cases void
  by_cases bare : path.parts = []
  · have pieces : ∀ piece ∈ path.text.toList.splitOn '/', piece = [] ∨ piece = ['.'] := by
      rcases proper.rooted with root | root | root <;> rw [Path.text, root, bare] <;> decide
    constructor
    · rintro ⟨front, back, cut, _⟩
      have void := (void_iff _).mpr (pieces name.toList (by simp [cut]))
      rw [String.ofList_toList, plain.told] at void
      cases void
    · rintro ⟨front, back, cut, _⟩
      rw [bare] at cut
      cases front <;> cases cut
  · rw [split_text path proper bare]
    constructor
    · rintro ⟨front, back, cut, some⟩
      rcases List.append_eq_append_iff.mp cut with ⟨more, rfl, later⟩ | ⟨more, early, later⟩
      · obtain ⟨before, after, halves, _, ending⟩ := List.map_eq_append_iff.mp later
        obtain ⟨own, behind, rfl, same, rfl⟩ := List.map_eq_cons_iff.mp ending
        rw [String.toList_inj] at same
        subst same
        exact ⟨before, behind, halves, by simpa using some⟩
      · cases more with
        | nil =>
          obtain ⟨own, behind, halves, same, rfl⟩ := List.map_eq_cons_iff.mp later.symm
          rw [String.toList_inj] at same
          subst same
          exact ⟨[], behind, halves, by simpa using some⟩
        | cons piece more =>
          -- A piece before the first part of the path is empty.
          obtain ⟨rfl, _⟩ := List.cons.inj later
          have early : name.toList ∈ path.root.toList.map fun _ => [] := by simp [early]
          obtain ⟨_, _, blank⟩ := List.mem_map.mp early
          exact absurd blank.symm solid
    · rintro ⟨front, back, cut, some⟩
      refine ⟨path.root.toList.map (fun _ => []) ++ front.map String.toList,
        back.map String.toList, ?_, by simpa using some⟩
      simp [cut]

omit proper in
theorem name_proper : Path.Proper ⟨"", [name]⟩ :=
  ⟨Or.inl rfl, by simpa using plain.told, by simpa using plain.whole⟩

omit proper in
theorem of_text_name : Path.ofText name = ⟨"", [name]⟩ := by
  have back := Path.of_text_text ⟨"", [name]⟩ (name_proper name plain)
  simpa [Path.text] using back

omit proper in
theorem plain_named : ¬ Nameless name :=
  (hits_relative_iff name [name] ⟨"", []⟩ plain.unturned (of_text_name name plain) (by simp)).1

theorem hits_name_iff : hits name path = true ↔ path.name = name := by
  have read := of_text_name name plain
  rw [(hits_relative_iff name [name] path plain.unturned read (by simp)).2]
  simp only [fits_name_iff name plain]
  constructor
  · rintro (⟨front, back, cut, fit⟩ | whole | last)
    · cases fit with
      | cons same fit =>
        cases fit
        rw [fits_name_iff name plain] at same
        subst same
        obtain ⟨before, parts⟩ := parts_of_components path proper _ plain.whole front [] cut
        simp [Path.name, parts]
    · have same : path = ⟨"", [name]⟩ := by rw [← read, ← whole, Path.of_text_text path proper]
      rw [same]
      rfl
    · exact last
  · exact fun last => Or.inr (Or.inr last)

-- A name that is passed over leaves the patterns around it to decide, also where they fail.
theorem excludes_any_inert (other : path.name ≠ name) (front back : List String) :
    excludesAny (front ++ name :: back) path = excludesAny (front ++ back) path := by
  have passed : hits name path = false := by
    rw [← Bool.not_eq_true, hits_name_iff name plain path proper]
    exact other
  induction front with
  | nil =>
    rw [List.nil_append, List.nil_append, excludesAny,
      excludes_hits name path (plain_named name plain), passed]
    rfl
  | cons pattern rest ih =>
    rw [List.cons_append, List.cons_append, excludesAny, excludesAny, ih]

omit plain proper in
theorem name_whole (proper : path.Proper) : '/' ∉ path.name.toList := by
  unfold Path.name
  cases last : path.parts.getLast? with
  | none => simp
  | some own => exact proper.whole own (List.mem_of_getLast? last)

omit proper in
theorem in_folder_read :
    '\\' ∉ (inFolder name).toList ∧ Path.ofText (inFolder name) = ⟨"", [name, "*"]⟩ := by
  have proper : Path.Proper ⟨"", [name, "*"]⟩ :=
    ⟨Or.inl rfl, by simpa using ⟨plain.told, by decide⟩, by simpa using plain.whole⟩
  have spelt : Path.text ⟨"", [name, "*"]⟩ = inFolder name := by
    rw [← String.toList_inj]
    simp [Path.text, inFolder]
  refine ⟨by simpa [inFolder] using plain.unturned, ?_⟩
  rw [← spelt, Path.of_text_text _ proper]

omit proper in
theorem below_folder_read :
    '\\' ∉ (belowFolder name).toList ∧ Path.ofText (belowFolder name) = ⟨"", ["*", name, "*"]⟩ := by
  have proper : Path.Proper ⟨"", ["*", name, "*"]⟩ :=
    ⟨Or.inl rfl, by simpa using ⟨by decide, plain.told, by decide⟩, by simpa using plain.whole⟩
  have spelt : Path.text ⟨"", ["*", name, "*"]⟩ = belowFolder name := by
    rw [← String.toList_inj]
    simp [Path.text, belowFolder]
  refine ⟨by simpa [belowFolder] using plain.unturned, ?_⟩
  rw [← spelt, Path.of_text_text _ proper]

omit proper in
theorem in_folder_named : ¬ Nameless (inFolder name) := by
  obtain ⟨unturned, read⟩ := in_folder_read name plain
  exact (hits_relative_iff _ _ ⟨"", []⟩ unturned read (by simp)).1

omit proper in
theorem below_folder_named : ¬ Nameless (belowFolder name) := by
  obtain ⟨unturned, read⟩ := below_folder_read name plain
  exact (hits_relative_iff _ _ ⟨"", []⟩ unturned read (by simp)).1

/-- The two patterns for a folder's name hit exactly the paths that lead through such a folder. -/
theorem hits_folder_iff :
    (hits (inFolder name) path = true ∨ hits (belowFolder name) path = true) ↔
      name ∈ path.parts.dropLast := by
  obtain ⟨unturnedIn, readIn⟩ := in_folder_read name plain
  obtain ⟨unturnedBelow, readBelow⟩ := below_folder_read name plain
  have text := leads_text_iff name plain path proper
  rw [leads_split_iff _ _ plain.whole] at text
  rw [(hits_relative_iff _ _ path unturnedIn readIn (by simp)).2,
    (hits_relative_iff _ _ path unturnedBelow readBelow (by simp)).2]
  simp only [fits_in_folder_iff name plain, fits_below_folder_iff name plain]
  rw [← leads_iff]
  constructor
  · rintro ((⟨front, back, cut, fit⟩ | whole | ⟨after, last⟩) |
      (⟨front, back, cut, fit⟩ | whole | ⟨before, after, last⟩))
    · cases fit with
      | @cons _ own _ others same fit =>
        obtain rfl := (fits_name_iff name plain own).mp same
        obtain ⟨before, parts⟩ := parts_of_components path proper own plain.whole front others cut
        refine ⟨before, others, parts, ?_⟩
        rintro rfl
        cases fit
    · exact text.mp (Or.inl whole)
    · exact absurd (by simp [last]) (name_whole path proper)
    · cases fit with
      | @cons _ outer _ rest _ fit =>
        cases fit with
        | @cons _ own _ others same fit =>
          obtain rfl := (fits_name_iff name plain own).mp same
          have split : path.components = (front ++ [outer]) ++ own :: others := by simp [cut]
          obtain ⟨before, parts⟩ := parts_of_components path proper own plain.whole _ others split
          refine ⟨before, others, parts, ?_⟩
          rintro rfl
          cases fit
    · exact text.mp (Or.inr whole)
    · exact absurd (by simp [last]) (name_whole path proper)
  · intro leads
    rcases text.mpr leads with first | later
    · exact Or.inl (Or.inr (Or.inl first))
    · exact Or.inr (Or.inr (Or.inl later))

end Folders

end RefactorAdvice.Glob
