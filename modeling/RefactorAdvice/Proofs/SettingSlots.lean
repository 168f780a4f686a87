import RefactorAdvice.Proofs.LoggedRuns
import RefactorAdvice.Proofs.Publishing
import RefactorAdvice.Settings.OfSections
import RefactorAdvice.Settings.OfTable

/-!
The settings one by one. A setting has a section and a name in it, and a table or a file of
sections says something of each by itself: it leaves the setting alone, or sets it to a value
that can be read. Where everything that a table says can be read, the settings are those that it
tells, and nothing is logged.
-/

namespace RefactorAdvice.Settings

section Slots

structure Slot (α : Type) where
  header : String
  name : String
  value : Settings → α

namespace Slot

def switches : List (Slot Bool) :=
  [⟨"complexity", "enabled", fun s => s.complexity.enabled⟩,
   ⟨"performance", "enabled", fun s => s.performance.enabled⟩,
   ⟨"duplication", "enabled", fun s => s.duplication.enabled⟩,
   ⟨"boolean_logic", "enabled", fun s => s.booleanLogic.enabled⟩,
   ⟨"loops", "enabled", fun s => s.loops.enabled⟩,
   ⟨"context_manager", "enabled", fun s => s.contextManager.enabled⟩,
   ⟨"control_flow", "enabled", fun s => s.controlFlow.enabled⟩,
   ⟨"dict_operations", "enabled", fun s => s.dictOperations.enabled⟩,
   ⟨"comparisons", "enabled", fun s => s.comparisons.enabled⟩]

def limits : List (Slot Int) :=
  [⟨"complexity", "max_branches", fun s => s.complexity.maxBranches⟩,
   ⟨"complexity", "max_nesting_depth", fun s => s.complexity.maxNestingDepth⟩,
   ⟨"complexity", "max_function_lines", fun s => s.complexity.maxFunctionLines⟩,
   ⟨"complexity", "max_arguments", fun s => s.complexity.maxArguments⟩,
   ⟨"complexity", "max_local_variables", fun s => s.complexity.maxLocalVariables⟩,
   ⟨"complexity", "max_cyclomatic_complexity", fun s => s.complexity.maxCyclomaticComplexity⟩,
   ⟨"performance", "min_concatenations", fun s => s.performance.minConcatenations⟩,
   ⟨"performance", "min_duplicate_calls", fun s => s.performance.minDuplicateCalls⟩,
   ⟨"duplication", "min_duplicate_lines", fun s => s.duplication.minDuplicateLines⟩,
   ⟨"boolean_logic", "max_boolean_operators", fun s => s.booleanLogic.maxBooleanOperators⟩]

def threshold : Slot Binary64 :=
  ⟨"duplication", "similarity_threshold", fun s => s.duplication.similarityThreshold⟩

def raw? {α : Type} (slot : Slot α) (own : List (String × Data)) : Option Data :=
  Data.lookup slot.name (sectionTable slot.header own)

/-- A table that leaves a setting alone where its value is the usual one, or else sets it to
what is read as its value. -/
def Told {α : Type} (slot : Slot α) (read : Data → Except Refusal (Option α))
    (own : List (String × Data)) (s : Settings) : Prop :=
  match slot.raw? own with
  | none => slot.value s = slot.value {}
  | some raw => read raw = .ok (some (slot.value s))

end Slot

theorem field_told {α : Type} (slot : Slot α) (kind : String)
    (read : Data → Except Refusal (Option α)) (own : List (String × Data)) (s : Settings)
    (told : slot.Told read own s) :
    field slot.header slot.name kind read (slot.value {}) (sectionTable slot.header own) =
      pure (slot.value s) := by
  unfold Slot.Told Slot.raw? at told
  unfold field
  cases set : Data.lookup slot.name (sectionTable slot.header own) with
  | none =>
    simp only [set] at told
    rw [told]
  | some raw =>
    simp only [set] at told
    simp only [told, liftRefusal, pure_bind]

end Slots

section Tables

structure Tells (own : List (String × Data)) (s : Settings) : Prop where
  switches : ∀ slot ∈ Slot.switches, slot.Told (fun raw => .ok (asBool? raw)) own s
  limits : ∀ slot ∈ Slot.limits, slot.Told asInt own s
  threshold : Slot.threshold.Told asFloat own s
  patterns : patternsOf own = .ok s.excludePatterns

theorem of_own_table_told (own : List (String × Data)) (s : Settings) (tells : Tells own s) :
    ofOwnTable own = liftRefusal s.checked := by
  have switches := fun slot member => field_told slot "bool" _ own s (tells.switches slot member)
  have limits := fun slot member => field_told slot "int" _ own s (tells.limits slot member)
  have threshold := field_told Slot.threshold "float" _ own s tells.threshold
  simp only [Slot.switches, Slot.limits, Slot.threshold, List.forall_mem_cons]
    at switches limits threshold
  simp only [ofOwnTable, complexityOf, performanceOf, duplicationOf, booleanLogicOf, switchOf,
    boolField, intField, floatField, switches, limits, threshold, tells.patterns, liftRefusal,
    pure_bind]

def underTool (own : List (String × Data)) : List (String × Data) :=
  [("tool", .table [("pyrefactor", .table own)])]

theorem of_table_told (own : List (String × Data)) (s : Settings) (tells : Tells own s) :
    (ofTable (underTool own)).outcome = (s.checked, []) := by
  have found : ownTable (underTool own) = .ok own := by
    simp [ownTable, underTool, Data.lookup]
  have loaded : ofTable (underTool own) = liftRefusal s.checked := by
    rw [ofTable, found, ← of_own_table_told own s tells]
    rfl
  rw [loaded]
  cases s.checked with
  | error refusal => rfl
  | ok settings => rfl

end Tables

section Options

theorem checked_ok_iff (s result : Settings) :
    s.checked = .ok result ↔ s = result ∧ s.fault? = none := by
  unfold checked
  cases s.fault? with
  | none => simp
  | some fault => simp

structure Spells (look : Lookup) (s : Settings) : Prop where
  switches : ∀ slot ∈ Slot.switches,
    option look slot.header slot.name readSwitch (slot.value {}) = .ok (slot.value s)
  limits : ∀ slot ∈ Slot.limits,
    option look slot.header slot.name readInt (slot.value {}) = .ok (slot.value s)
  threshold :
    option look Slot.threshold.header Slot.threshold.name readFloat (Slot.threshold.value {}) =
      .ok (Slot.threshold.value s)
  patterns :
    option look "general" "exclude_patterns" (fun text => .ok (commaParts text)) [] =
      .ok s.excludePatterns
  valid : s.fault? = none

theorem of_lookup_spells (look : Lookup) (s : Settings) (read : ofLookup look = .ok s) :
    Spells look s := by
  simp only [ofLookup, bind_ok_iff, checked_ok_iff, switchOption, intOption] at read
  obtain ⟨_, complexity, _, branches, _, nesting, _, lines, _, arguments, _, locals, _,
    cyclomatic, _, performance, _, concatenations, _, calls, _, duplication, _, duplicates, _,
    threshold, _, logic, _, operators, _, loops, _, managers, _, flow, _, dictionaries, _,
    comparisons, _, patterns, rfl, valid⟩ := read
  exact {
    switches := by
      simp only [Slot.switches, List.forall_mem_cons]
      exact ⟨complexity, performance, duplication, logic, loops, managers, flow, dictionaries,
        comparisons, nofun⟩
    limits := by
      simp only [Slot.limits, List.forall_mem_cons]
      exact ⟨branches, nesting, lines, arguments, locals, cyclomatic, concatenations, calls,
        duplicates, operators, nofun⟩
    threshold, patterns, valid }

end Options

end RefactorAdvice.Settings
