import RefactorAdvice.Log

/-!
Computations that log. What one comes to is said apart from its log: none of those considered
here looks back at what was logged before it, so a sequence comes to what its last part comes to,
or to the first failure. For a long sequence it is enough to know of each part when it fails.
-/

namespace RefactorAdvice.LoggingExcept

variable {ε α β : Type}

section Endings

def Gives (x : LoggingExcept ε α) (ending : Except ε α) : Prop :=
  ∀ log, (x.run.run log).1 = ending

theorem gives_outcome (x : LoggingExcept ε α) (ending : Except ε α) (given : Gives x ending) :
    x.outcome.1 = ending := given []

theorem gives_bind (x : LoggingExcept ε α) (next : α → LoggingExcept ε β) (value : α)
    (ending : Except ε β) (first : Gives x (.ok value)) (later : Gives (next value) ending) :
    Gives (x >>= next) ending := by
  intro log
  have whole : x.run.run log = (.ok value, (x.run.run log).2) := Prod.ext (first log) rfl
  rw [ExceptT.run_bind, StateT.run_bind, whole]
  exact later _

theorem gives_bind_error (x : LoggingExcept ε α) (next : α → LoggingExcept ε β) (failure : ε)
    (first : Gives x (.error failure)) : Gives (x >>= next) (.error failure) := by
  intro log
  have whole : x.run.run log = (.error failure, (x.run.run log).2) := Prod.ext (first log) rfl
  rw [ExceptT.run_bind, StateT.run_bind, whole]
  rfl

end Endings

section Stops

/-- A computation that fails, and in a given way, exactly where something is the case; elsewhere
what it comes to is known. -/
def EndsIn (x : LoggingExcept ε α) (stop : Prop) (how : ε → Prop) (known : Except ε α → Prop) :
    Prop :=
  (stop ∧ ∃ failure, how failure ∧ Gives x (.error failure)) ∨
    (¬ stop ∧ ∃ ending, known ending ∧ Gives x ending)

def StopsIff (x : LoggingExcept ε α) (stop : Prop) (how : ε → Prop) : Prop :=
  EndsIn x stop how fun ending => ∃ value, ending = .ok value

theorem stops_pure (value : α) (how : ε → Prop) :
    StopsIff (pure value : LoggingExcept ε α) False how :=
  Or.inr ⟨id, .ok value, ⟨value, rfl⟩, fun _ => rfl⟩

theorem ends_bind {x : LoggingExcept ε α} {next : α → LoggingExcept ε β} {first later : Prop}
    {how : ε → Prop} {known : Except ε β → Prop} (here : StopsIff x first how)
    (there : ∀ value, EndsIn (next value) later how known) :
    EndsIn (x >>= next) (first ∨ later) how known := by
  rcases here with ⟨stop, failure, blamed, given⟩ | ⟨goes, _, ⟨value, rfl⟩, given⟩
  · exact Or.inl ⟨Or.inl stop, failure, blamed, gives_bind_error x next failure given⟩
  · rcases there value with ⟨stop, failure, blamed, after⟩ | ⟨goesOn, ending, fits, after⟩
    · exact Or.inl ⟨Or.inr stop, failure, blamed, gives_bind x next value _ given after⟩
    · exact Or.inr ⟨not_or.mpr ⟨goes, goesOn⟩, ending, fits, gives_bind x next value _ given after⟩

theorem ends_congr {x : LoggingExcept ε α} {stop other : Prop} {how : ε → Prop}
    {known : Except ε α → Prop} (same : stop ↔ other) (here : EndsIn x stop how known) :
    EndsIn x other how known := by
  rwa [EndsIn, ← same]

end Stops

section Results

def Yields (x : LoggingExcept ε α) (fits : α → Prop) : Prop :=
  ∀ log value, (x.run.run log).1 = .ok value → fits value

theorem yields_pure (value : α) (fits : α → Prop) (fit : fits value) :
    Yields (pure value : LoggingExcept ε α) fits := by
  intro log other given
  cases given
  exact fit

theorem yields_throw (failure : ε) (fits : α → Prop) :
    Yields (throw failure : LoggingExcept ε α) fits := by
  intro log value given
  cases given

theorem yields_bind {x : LoggingExcept ε α} {next : α → LoggingExcept ε β} {known : α → Prop}
    {fits : β → Prop} (here : Yields x known)
    (there : ∀ value, known value → Yields (next value) fits) : Yields (x >>= next) fits := by
  intro log result given
  rw [ExceptT.run_bind, StateT.run_bind] at given
  cases ending : x.run.run log with
  | mk outcome after =>
    rw [ending] at given
    cases outcome with
    | error failure => cases given
    | ok value =>
      have made : (x.run.run log).1 = .ok value := congrArg Prod.fst ending
      exact there value (here log value made) after result given

theorem yields_anything (x : LoggingExcept ε α) : Yields x fun _ => True := fun _ _ _ => trivial

theorem yields_each (f : α → LoggingExcept ε β) (fits : β → Prop)
    (each : ∀ value, Yields (f value) fits) (values : List α) :
    Yields (values.mapM f) fun results => ∀ result ∈ results, fits result := by
  induction values with
  | nil => exact yields_pure [] _ (fun _ member => by cases member)
  | cons value rest ih =>
    rw [List.mapM_cons]
    refine yields_bind (each value) fun result fit => yields_bind ih fun results others => ?_
    refine yields_pure _ _ fun other member => ?_
    rcases List.mem_cons.mp member with rfl | later
    · exact fit
    · exact others other later

end Results

section Silence

def Silent (x : LoggingExcept ε α) (ending : Except ε α) : Prop :=
  ∀ log, x.run.run log = (ending, log)

theorem silent_throw (failure : ε) :
    Silent (throw failure : LoggingExcept ε α) (.error failure) := fun _ => rfl

theorem silent_bind {x : LoggingExcept ε α} {next : α → LoggingExcept ε β} {first : Except ε α}
    {later : α → Except ε β} (here : Silent x first)
    (there : ∀ value, Silent (next value) (later value)) :
    Silent (x >>= next) (first >>= later) := by
  intro log
  rw [ExceptT.run_bind, StateT.run_bind, here log]
  cases first with
  | error failure => rfl
  | ok value => exact there value log

theorem silent_outcome {x : LoggingExcept ε α} {ending : Except ε α} (here : Silent x ending) :
    x.outcome = (ending, []) := here []

theorem silent_warned {x : LoggingExcept ε α} {ending : Except ε α} (message : String)
    (here : Silent x ending) :
    LoggingExcept.outcome (do warn message; x) = (ending, [{ level := .warning, message }]) :=
  here _

end Silence

end RefactorAdvice.LoggingExcept
