import RefactorAdvice.Files.Store
import RefactorAdvice.Proofs.PathText
import RefactorAdvice.Proofs.Publishing

/-!
Following a path. A step takes the next name from the folder at hand: it stays, goes up, goes down
into an entry, or puts the names of a link in place of its own. What a path comes to is then said
of its steps: a longer path goes on where its beginning has led, and the limit on the steps, which
counts the names ahead and those that links can still bring, is never what ends the following. An
entry that is not passed on the way can be taken out of the store.
-/

namespace RefactorAdvice.Store

def isOrdinary (name : String) : Bool :=
  !(name == "." || name == "") && name != ".." && decide (name.utf8ByteSize ≤ longestName)

theorem is_ordinary_iff (name : String) :
    isOrdinary name = true ↔ (name == "." || name == "") = false ∧ (name == "..") = false ∧
      name.utf8ByteSize ≤ longestName := by
  simp only [isOrdinary, bne, Bool.and_eq_true, Bool.not_eq_true', decide_eq_true_eq, and_assoc]

section Steps

/-- A step down by a name: the links left, the folder or entry come to, and the names that come
before those ahead. -/
def enter (s : Store) (links : Nat) (here : List String) (name : String) :
    Except FileFault (Nat × List String × List String) :=
  match s.entryAt (here ++ [name]) with
  | none => .error .missing
  | some (.link target) =>
    match links with
    | 0 => .error .manyLinks
    | links + 1 =>
      if (Path.ofText target).root != "" then .error .missing
      else .ok (links, here, (Path.ofText target).parts)
  | some _ => .ok (links, here ++ [name], [])

def step (s : Store) (links : Nat) (here : List String) (name : String) :
    Except FileFault (Nat × List String × List String) :=
  match s.entryAt here with
  | some .folder =>
    if name == "." || name == "" then .ok (links, here, [])
    else if name == ".." then .ok (links, here.dropLast, [])
    else if longestName < name.utf8ByteSize then .error .longName
    else s.enter links here name
  | some _ => .error .notFolder
  | none => .error .missing

theorem step_ordinary (s : Store) (links : Nat) (here : List String) (name : String)
    (folder : s.entryAt here = some .folder) (ordinary : isOrdinary name = true) :
    s.step links here name = s.enter links here name := by
  obtain ⟨telling, notUp, short⟩ := (is_ordinary_iff name).mp ordinary
  simp only [step, folder, telling, notUp, Nat.not_lt.mpr short, Bool.false_eq_true, ↓reduceIte]

theorem locate_nil_iff (s : Store) (fuel links : Nat) (here there : List String) (entry : Entry) :
    s.locate true (fuel + 1) links here [] = .ok (there, entry) ↔
      there = here ∧ s.entryAt here = some entry := by
  simp only [locate]
  cases s.entryAt here with
  | none => simp only [reduceCtorEq, and_false]
  | some held =>
    simp only [Except.ok.injEq, Prod.mk.injEq, Option.some.injEq]
    exact and_congr_left fun _ => eq_comm

theorem locate_cons (s : Store) (fuel links : Nat) (here : List String) (name : String)
    (rest : List String) :
    s.locate true (fuel + 1) links here (name :: rest) =
      s.step links here name >>= fun onward =>
        s.locate true fuel onward.1 onward.2.1 (onward.2.2 ++ rest) := by
  rw [locate, step]
  cases s.entryAt here with
  | none => rfl
  | some entry =>
    cases entry with
    | file content => rfl
    | link target => rfl
    | folder =>
      dsimp only
      split
      · rfl
      · split
        · rfl
        · split
          · rfl
          · rw [enter]
            cases s.entryAt (here ++ [name]) with
            | none => rfl
            | some entry =>
              cases entry with
              | file content => rfl
              | folder => rfl
              | link target =>
                simp only [Bool.not_true, Bool.and_false, Bool.false_eq_true, ↓reduceIte]
                cases links with
                | zero => rfl
                | succ links =>
                  dsimp only
                  split <;> rfl

inductive Steps (s : Store) (links : Nat) (here : List String) (name : String) :
    Nat → List String → List String → Prop
  | stay : name = "." ∨ name = "" → Steps s links here name links here []
  | up : name = ".." → Steps s links here name links here.dropLast []
  | down (entry : Entry) : isOrdinary name = true → s.entryAt (here ++ [name]) = some entry →
      (∀ target, entry ≠ .link target) → Steps s links here name links (here ++ [name]) []
  | follow (target : String) (left : Nat) : isOrdinary name = true →
      s.entryAt (here ++ [name]) = some (.link target) → links = left + 1 →
      Steps s links here name left here (Path.ofText target).parts

theorem enter_cases {s : Store} {links left : Nat} {here there names : List String} {name : String}
    (ordinary : isOrdinary name = true)
    (entered : s.enter links here name = .ok (left, there, names)) :
    Steps s links here name left there names := by
  unfold enter at entered
  cases held : s.entryAt (here ++ [name]) with
  | none =>
    rw [held] at entered
    cases entered
  | some entry =>
    rw [held] at entered
    cases entry with
    | file content =>
      cases entered
      exact .down _ ordinary held fun target => Entry.noConfusion
    | folder =>
      cases entered
      exact .down _ ordinary held fun target => Entry.noConfusion
    | link target =>
      cases links with
      | zero => cases entered
      | succ links =>
        dsimp only at entered
        split at entered
        · cases entered
        · cases entered
          exact .follow target _ ordinary held rfl

theorem step_cases {s : Store} {links left : Nat} {here there names : List String} {name : String}
    (stepped : s.step links here name = .ok (left, there, names)) :
    s.entryAt here = some .folder ∧ Steps s links here name left there names := by
  unfold step at stepped
  split at stepped
  · rename_i folder
    refine ⟨folder, ?_⟩
    split at stepped
    · rename_i void
      cases stepped
      exact .stay (by simpa using void)
    · rename_i telling
      split at stepped
      · rename_i up
        cases stepped
        exact .up (by simpa using up)
      · rename_i notUp
        split at stepped
        · cases stepped
        · rename_i short
          refine enter_cases ((is_ordinary_iff name).mpr ?_) stepped
          exact ⟨Bool.eq_false_iff.mpr telling, Bool.eq_false_iff.mpr notUp, Nat.not_lt.mp short⟩
  · cases stepped
  · cases stepped

-- Where a step leads does not depend on what is ahead, so a path is followed on from the end of
-- its beginning.
theorem locate_append (s : Store) (fuel links : Nat) (here path there : List String) (entry : Entry)
    (found : s.locate true fuel links here path = .ok (there, entry)) :
    ∃ spare left, ∀ extra more, s.locate true (fuel + extra) links here (path ++ more) =
      s.locate true (spare + 1 + extra) left there more := by
  induction fuel generalizing links here path with
  | zero => cases found
  | succ fuel ih =>
    cases path with
    | nil =>
      obtain ⟨rfl, -⟩ := (s.locate_nil_iff fuel links here there entry).mp found
      exact ⟨fuel, links, fun extra more => rfl⟩
    | cons name rest =>
      rw [locate_cons] at found
      obtain ⟨⟨left, next, names⟩, stepped, found⟩ := (bind_ok_iff _ _ _).mp found
      obtain ⟨spare, last, later⟩ := ih left next (names ++ rest) found
      refine ⟨spare, last, fun extra more => ?_⟩
      rw [Nat.add_right_comm, List.cons_append, locate_cons, stepped, ← later extra more,
        List.append_assoc]
      rfl

end Steps

section Finding

theorem find_relative (s : Store) (p : Path) (clean : '\x00' ∉ p.text.toList)
    (relative : p.root = "") : s.find p = s.locate true (s.stepLimit p) linkLimit [] p.parts := by
  rw [find, if_neg (by simpa using clean), if_neg (by simp [relative])]

theorem find_named (s : Store) (names : List String)
    (clean : ∀ name ∈ names, '\x00' ∉ name.toList) :
    s.find ⟨"", names⟩ = s.locate true (s.stepLimit ⟨"", names⟩) linkLimit [] names :=
  s.find_relative _ ((Path.text_clean_iff names).mpr clean) rfl

theorem find_ok {s : Store} {p : Path} {place : List String × Entry}
    (found : s.find p = .ok place) : '\x00' ∉ p.text.toList ∧ p.root = "" := by
  unfold find at found
  split at found
  · cases found
  · rename_i clean
    split at found
    · cases found
    · rename_i relative
      exact ⟨by simpa using clean, by simpa using relative⟩

end Finding

section Direct

inductive Direct (s : Store) : List String → Prop
  | top : Direct s []
  | down (names : List String) (name : String) (entry : Entry) : Direct s names →
      s.entryAt names = some .folder → isOrdinary name = true →
      s.entryAt (names ++ [name]) = some entry → (∀ target, entry ≠ .link target) →
      Direct s (names ++ [name])

theorem direct_above {s : Store} {names : List String} (direct : Direct s names) :
    Direct s names.dropLast := by
  cases direct with
  | top => exact .top
  | down names name entry above _ _ _ _ => rwa [List.dropLast_concat]

theorem locate_direct (s : Store) (fuel links : Nat) (here path there : List String) (entry : Entry)
    (direct : Direct s here) (found : s.locate true fuel links here path = .ok (there, entry)) :
    Direct s there ∧ s.entryAt there = some entry := by
  induction fuel generalizing links here path with
  | zero => cases found
  | succ fuel ih =>
    cases path with
    | nil =>
      obtain ⟨rfl, held⟩ := (s.locate_nil_iff fuel links here there entry).mp found
      exact ⟨direct, held⟩
    | cons name rest =>
      rw [locate_cons] at found
      obtain ⟨⟨left, next, names⟩, stepped, found⟩ := (bind_ok_iff _ _ _).mp found
      refine ih left next (names ++ rest) ?_ found
      obtain ⟨folder, steps⟩ := step_cases stepped
      cases steps with
      | stay => exact direct
      | up => exact direct_above direct
      | down held ordinary there notLink =>
        exact .down here name held direct folder ordinary there notLink
      | follow => exact direct

theorem step_down (s : Store) (links : Nat) (here : List String) (name : String) (entry : Entry)
    (folder : s.entryAt here = some .folder) (ordinary : isOrdinary name = true)
    (held : s.entryAt (here ++ [name]) = some entry) (notLink : ∀ target, entry ≠ .link target) :
    s.step links here name = .ok (links, here ++ [name], []) := by
  rw [s.step_ordinary links here name folder ordinary, enter, held]
  cases entry with
  | link target => exact absurd rfl (notLink target)
  | _ => rfl

theorem locate_down (s : Store) (fuel links : Nat) (here : List String) (name : String)
    (rest : List String) (entry : Entry) (folder : s.entryAt here = some .folder)
    (ordinary : isOrdinary name = true) (held : s.entryAt (here ++ [name]) = some entry)
    (notLink : ∀ target, entry ≠ .link target) :
    s.locate true (fuel + 1) links here (name :: rest) =
      s.locate true fuel links (here ++ [name]) rest := by
  rw [locate_cons, s.step_down links here name entry folder ordinary held notLink]
  rfl

-- No link is followed on the way, so the number of steps is the number of names.
theorem locate_of_direct (s : Store) (names : List String) (direct : Direct s names)
    (fuel links : Nat) (rest : List String) :
    s.locate true (names.length + fuel) links [] (names ++ rest) =
      s.locate true fuel links names rest := by
  induction direct generalizing fuel rest with
  | top => rw [List.length_nil, Nat.zero_add, List.nil_append]
  | down names name entry _ folder ordinary held notLink ih =>
    rw [List.length_append, List.length_singleton, Nat.add_assoc, Nat.add_comm 1 fuel,
      List.append_assoc, List.singleton_append, ih,
      s.locate_down fuel links names name rest entry folder ordinary held notLink]

end Direct

section Limits

def linkLength : Entry → Nat
  | .link target => target.length
  | _ => 0

def longestLink (s : Store) : Nat := s.entries.foldl (fun n entry => max n (linkLength entry.2)) 0

theorem step_limit_eq (s : Store) (p : Path) :
    s.stepLimit p = p.parts.length + (linkLimit + 1) * (s.longestLink + 1) + 2 := by
  rw [stepLimit, longestLink]
  congr 5
  funext n entry
  obtain ⟨names, entry⟩ := entry
  cases entry with
  | link target => rfl
  | _ => exact (Nat.max_zero n).symm

theorem fold_longest_le_iff (entries : List (List String × Entry)) (n bound : Nat) :
    entries.foldl (fun n entry => max n (linkLength entry.2)) n ≤ bound ↔
      n ≤ bound ∧ ∀ entry ∈ entries, linkLength entry.2 ≤ bound := by
  induction entries generalizing n with
  | nil => simp
  | cons first rest ih =>
    rw [List.foldl_cons, ih, Nat.max_le, List.forall_mem_cons, and_assoc]

theorem longest_link_le_iff (s : Store) (bound : Nat) :
    s.longestLink ≤ bound ↔ ∀ entry ∈ s.entries, linkLength entry.2 ≤ bound := by
  rw [longestLink, fold_longest_le_iff, and_iff_right (Nat.zero_le bound)]

theorem entry_listed {s : Store} {names : List String} {entry : Entry} (named : names ≠ [])
    (held : s.entryAt names = some entry) : (names, entry) ∈ s.entries := by
  rw [entryAt, if_neg (by simpa using named)] at held
  obtain ⟨⟨found, other⟩, first, rfl⟩ := Option.map_eq_some_iff.mp held
  have same : found = names := by simpa using List.find?_some first
  exact same ▸ List.mem_of_find?_eq_some first

theorem length_le_longest_link (s : Store) (names : List String) (target : String)
    (held : s.entryAt names = some (.link target)) : target.length ≤ s.longestLink := by
  have named : names ≠ [] := by
    rintro rfl
    cases held
  exact (s.longest_link_le_iff s.longestLink).mp (Nat.le_refl _) _ (entry_listed named held)

theorem names_from_length (name cs : List Char) :
    (Path.namesFrom name cs).length ≤ cs.length + 1 := by
  induction cs generalizing name with
  | nil => exact Nat.le_refl 1
  | cons c rest ih =>
    rw [Path.namesFrom]
    split
    · exact Nat.succ_le_succ (ih [])
    · exact Nat.le_succ_of_le (ih (c :: name))

theorem parts_length (text : String) : (Path.ofText text).parts.length ≤ text.length + 1 :=
  Nat.le_trans (List.length_filter_le _ _) (names_from_length [] text.toList)

-- Each step takes a name from those ahead, and only a link, which takes one from the links left,
-- puts new ones there.
theorem locate_enough (s : Store) (fuel more links : Nat) (here path : List String)
    (enough : path.length + links * (s.longestLink + 1) < fuel) (grown : fuel ≤ more) :
    s.locate true more links here path = s.locate true fuel links here path := by
  induction fuel generalizing more links here path with
  | zero => exact absurd enough (Nat.not_lt_zero _)
  | succ fuel ih =>
    obtain ⟨more, rfl⟩ := Nat.exists_eq_add_of_le' (Nat.le_trans (Nat.succ_pos fuel) grown)
    cases path with
    | nil => rfl
    | cons name rest =>
      rw [locate_cons, locate_cons]
      cases stepped : s.step links here name with
      | error fault => rfl
      | ok onward =>
        obtain ⟨left, there, names⟩ := onward
        refine ih more left there (names ++ rest) ?_ (Nat.le_of_succ_le_succ grown)
        have ahead : rest.length + links * (s.longestLink + 1) < fuel := by
          rw [List.length_cons, Nat.succ_add] at enough
          exact Nat.lt_of_succ_lt_succ enough
        cases (step_cases stepped).2 with
        | stay => exact ahead
        | up => exact ahead
        | down => exact ahead
        | follow target left ordinary link spent =>
          have brought := Nat.le_trans (parts_length target)
            (Nat.succ_le_succ (s.length_le_longest_link _ target link))
          rw [spent, Nat.succ_mul] at ahead
          rw [List.length_append]
          omega

theorem locate_step_limit (s : Store) (p : Path) (fuel : Nat) (grown : s.stepLimit p ≤ fuel) :
    s.locate true fuel linkLimit [] p.parts =
      s.locate true (s.stepLimit p) linkLimit [] p.parts := by
  refine s.locate_enough (s.stepLimit p) fuel linkLimit [] p.parts ?_ grown
  rw [step_limit_eq, Nat.succ_mul]
  omega

end Limits

section Removal

def without (s : Store) (spot : List String) : Store :=
  { s with entries := s.entries.filter fun entry => !spot.isPrefixOf entry.1 }

def trailFrom (s : Store) : Nat → Nat → List String → List String → List (List String)
  | 0, _, _, _ => []
  | _, _, _, [] => []
  | fuel + 1, links, here, name :: rest =>
    (here ++ [name]) ::
      match s.step links here name with
      | .ok (left, there, names) => s.trailFrom fuel left there (names ++ rest)
      | .error _ => []

def trail (s : Store) (p : Path) : List (List String) :=
  s.trailFrom (s.stepLimit p) linkLimit [] p.parts

theorem entry_at_without (s : Store) (spot names : List String) (apart : ¬ spot <+: names) :
    (s.without spot).entryAt names = s.entryAt names := by
  rw [entryAt, entryAt, without]
  congr 2
  rw [List.find?_filter]
  congr 1
  funext entry
  by_cases same : entry.1 = names
  · have kept : spot.isPrefixOf names = false := by
      rw [Bool.eq_false_iff, ne_eq, List.isPrefixOf_iff_prefix]
      exact apart
    simp [same, kept]
  · simp [same]

theorem entry_at_removed (s : Store) (spot : List String) (named : spot ≠ []) :
    (s.without spot).entryAt spot = none := by
  rw [entryAt, if_neg (by simpa using named), without, List.find?_filter,
    Option.map_eq_none_iff, List.find?_eq_none]
  intro entry _
  by_cases same : entry.1 = spot
  · simp [same]
  · simp [same]

theorem step_without (s : Store) (spot : List String) (links : Nat) (here : List String)
    (name : String) (apart : ¬ spot <+: here) (beyond : ¬ spot <+: here ++ [name]) :
    (s.without spot).step links here name = s.step links here name := by
  rw [step, step, enter, enter, s.entry_at_without spot here apart,
    s.entry_at_without spot _ beyond]

theorem locate_without (s : Store) (spot : List String) (fuel links : Nat)
    (here path : List String) (apart : ¬ spot <+: here)
    (unseen : spot ∉ s.trailFrom fuel links here path) :
    (s.without spot).locate true fuel links here path = s.locate true fuel links here path := by
  induction fuel generalizing links here path with
  | zero => rfl
  | succ fuel ih =>
    cases path with
    | nil => simp only [locate, s.entry_at_without spot here apart]
    | cons name rest =>
      rw [trailFrom, List.mem_cons, not_or] at unseen
      have beyond : ¬ spot <+: here ++ [name] := by
        rw [List.prefix_concat_iff, not_or]
        exact ⟨unseen.1, apart⟩
      rw [locate_cons, locate_cons, s.step_without spot links here name apart beyond]
      cases stepped : s.step links here name with
      | error fault => rfl
      | ok onward =>
        obtain ⟨left, there, names⟩ := onward
        rw [stepped] at unseen
        refine ih left there (names ++ rest) ?_ unseen.2
        cases (step_cases stepped).2 with
        | stay => exact apart
        | up => exact fun leads => apart (leads.trans (List.dropLast_prefix here))
        | down => exact beyond
        | follow => exact apart

theorem step_limit_without (s : Store) (spot : List String) (p : Path) :
    (s.without spot).stepLimit p ≤ s.stepLimit p := by
  have shorter : (s.without spot).longestLink ≤ s.longestLink := by
    rw [longest_link_le_iff]
    intro entry kept
    exact (s.longest_link_le_iff _).mp (Nat.le_refl _) entry (List.mem_filter.mp kept).1
  rw [step_limit_eq, step_limit_eq]
  have fewer := Nat.mul_le_mul_left (linkLimit + 1) (Nat.succ_le_succ shorter)
  exact Nat.add_le_add_right (Nat.add_le_add_left fewer _) 2

theorem find_without (s : Store) (spot : List String) (p : Path) (named : spot ≠ [])
    (unseen : spot ∉ s.trail p) : (s.without spot).find p = s.find p := by
  have apart : ¬ spot <+: [] := fun leads => named (List.prefix_nil.mp leads)
  -- The store without the entry may set a lower limit, but neither limit is ever reached.
  rw [find, find, ← (s.without spot).locate_step_limit p _ (s.step_limit_without spot p),
    s.locate_without spot _ linkLimit [] p.parts apart unseen]

theorem find_removed (s : Store) (name : String) (clean : '\x00' ∉ name.toList)
    (ordinary : isOrdinary name = true) :
    (s.without [name]).find ⟨"", [name]⟩ = .error .missing := by
  have absent : (s.without [name]).enter linkLimit [] name = .error .missing := by
    rw [enter, List.nil_append, s.entry_at_removed [name] (List.cons_ne_nil name [])]
  rw [find_named _ [name] (List.forall_mem_singleton.mpr clean), step_limit_eq, locate_cons,
    step_ordinary _ _ _ _ rfl ordinary, absent]
  rfl

end Removal

end RefactorAdvice.Store
