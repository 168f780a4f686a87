import Mathlib.Data.List.Basic
import RefactorAdvice.Report.Sink

/-!
What a place makes of a message. Where it can show all of it, it shows the message as it is. With
colours, what cannot be shown harms no other part of the message; without them, nothing but the
colours is taken away.
-/

namespace RefactorAdvice.Report

section Laws

def controls : List Char := ['\x1b', '\x01', '\x02']

def Sink.CanShow : Sink → Char → Prop
  | .rich, _ => True
  | .narrow last, c => c.toNat ≤ last
  | .colourless, c | .plain, c => c ∉ controls

def Sink.Shows (sink : Sink) (message : String) : Prop := ∀ c ∈ message.toList, sink.CanShow c

def Sink.Coloured : Sink → Prop
  | .rich | .narrow _ => True
  | .colourless | .plain => False

/--
What can be shown is shown as it is. With colours a message is shown part by part, so that what
cannot be shown in it harms no other part; without them only the colours are gone.
-/
structure Sink.Faithful (sink : Sink) : Prop where
  same : ∀ message, sink.Shows message → sink.shown message = message
  parted : sink.Coloured → ∀ first second,
    sink.shown (first ++ second) = sink.shown first ++ sink.shown second
  bared : ¬ sink.Coloured → ∀ before colour text, sink.Shows before → sink.Shows text →
    sink.shown (before ++ painted colour text) = before ++ text

end Laws

section Plain

theorem without_nil (length? : List Char → Option Nat) (fuel : Nat) :
    without length? fuel [] = [] := by cases fuel <;> rfl

theorem without_before (length? : List Char → Option Nat) (before after : List Char)
    (quiet : ∀ c ∈ before, ∀ rest, length? (c :: rest) = none) (fuel : Nat) :
    without length? (before.length + fuel) (before ++ after) =
      before ++ without length? fuel after := by
  induction before with
  | nil => rw [List.length_nil, Nat.zero_add, List.nil_append, List.nil_append]
  | cons c rest ih =>
    have later := ih fun d member => quiet d (List.mem_cons_of_mem c member)
    rw [List.length_cons, Nat.add_right_comm, List.cons_append, without,
      quiet c List.mem_cons_self]
    exact congrArg (c :: ·) later

theorem title_quiet (c : Char) (rest : List Char) (plain : c ∉ controls) :
    titleLength? (c :: rest) = none := by
  simp only [controls, List.mem_cons, List.not_mem_nil, or_false, not_or] at plain
  simp [titleLength?, markLength, plain]

theorem control_quiet (c : Char) (rest : List Char) (plain : c ∉ controls) :
    controlLength? (c :: rest) = none := by
  simp only [controls, List.mem_cons, List.not_mem_nil, or_false, not_or] at plain
  simp [controlLength?, markLength, plain]

theorem colourless_plain (text : String) (plain : ∀ c ∈ text.toList, c ∉ controls) :
    colourless text = text := by
  have untitled := without_before titleLength? text.toList []
    (fun c member rest => title_quiet c rest (plain c member)) 1
  have uncontrolled := without_before controlLength? text.toList []
    (fun c member rest => control_quiet c rest (plain c member)) 1
  simp only [List.append_nil, without_nil] at untitled uncontrolled
  rw [colourless, untitled, uncontrolled, String.ofList_toList]

end Plain

section Colours

def ink (parameters : List Char) : List Char := '\x1b' :: '[' :: (parameters ++ ['m'])

theorem without_title_ink (parameters after : List Char)
    (plain : ∀ c ∈ parameters, c ∉ controls) (fuel : Nat) :
    without titleLength? ((ink parameters).length + fuel) (ink parameters ++ after) =
      ink parameters ++ without titleLength? fuel after := by
  have opened : ∀ rest, titleLength? ('\x1b' :: '[' :: rest) = none := fun _ => by
    simp [titleLength?, markLength]
  have quiet : ∀ c ∈ '[' :: (parameters ++ ['m']), c ∉ controls := by
    intro c member
    simp only [List.mem_cons, List.mem_append, List.not_mem_nil, or_false] at member
    rcases member with rfl | member | rfl
    · decide
    · exact plain c member
    · decide
  have later := without_before titleLength? _ after
    (fun c member rest => title_quiet c rest (quiet c member)) fuel
  rw [ink, List.length_cons, Nat.add_right_comm, List.cons_append, without, List.cons_append,
    opened]
  exact congrArg ('\x1b' :: ·) later

theorem without_control_ink (parameters after : List Char)
    (numbers : ∀ c ∈ parameters, isParameter c) (unmarked : after.head? ≠ some '\x02')
    (fuel : Nat) :
    without controlLength? (fuel + 1) (ink parameters ++ after) =
      without controlLength? fuel after := by
  have taken : (parameters ++ 'm' :: after).takeWhile isParameter = parameters := by
    rw [List.takeWhile_append_of_pos numbers, List.takeWhile_cons_of_neg (by decide),
      List.append_nil]
  have sized : controlLength? (ink parameters ++ after) = some (ink parameters).length := by
    simp only [controlLength?, ink, markLength, List.cons_append, List.append_assoc,
      List.head?_cons]
    simp [taken, unmarked]
    omega
  rw [ink, List.cons_append, without, ← List.cons_append, ← ink, sized]
  exact congrArg (without controlLength? fuel) (List.drop_left)

theorem code_numbers (colour : Colour) :
    ∀ c ∈ colour.code.toList, isParameter c ∧ c ∉ controls := by
  intro c member
  have numbers : colour.code.toList.all (fun c => isParameter c ∧ c ∉ controls) = true := by
    cases colour <;> decide
  exact of_decide_eq_true (List.all_eq_true.mp numbers c member)

theorem head_unmarked (text : List Char) (plain : ∀ c ∈ text, c ∉ controls) :
    (text ++ ink ['0']).head? ≠ some '\x02' := by
  cases text with
  | nil => decide
  | cons c rest =>
    have unmarked := plain c List.mem_cons_self
    rintro ⟨⟩
    exact unmarked (by decide)

def inked (colour : Colour) (before text : List Char) : List Char :=
  before ++ (ink colour.code.toList ++ (text ++ ink ['0']))

theorem painted_inked (before text : String) (colour : Colour) :
    (before ++ painted colour text).toList = inked colour before.toList text.toList := by
  simp [painted, inked, ink]

theorem inked_length (colour : Colour) (before text : List Char) :
    (inked colour before text).length =
      before.length + (ink colour.code.toList).length + text.length + 4 := by
  simp only [inked, ink, List.length_append, List.length_cons, List.length_nil]
  omega

theorem inked_untitled (colour : Colour) (before text : List Char)
    (plainBefore : ∀ c ∈ before, c ∉ controls) (plainText : ∀ c ∈ text, c ∉ controls) :
    without titleLength? ((inked colour before text).length + 1) (inked colour before text) =
      inked colour before text := by
  have fuel : (inked colour before text).length + 1 = before.length +
      ((ink colour.code.toList).length + (text.length + ((ink ['0']).length + 1))) := by
    rw [inked_length]
    simp only [ink, List.length_append, List.length_cons, List.length_nil]
    omega
  have reset := without_title_ink ['0'] [] (by simp [controls]) 1
  rw [List.append_nil, without_nil, List.append_nil] at reset
  rw [fuel, inked,
    without_before _ _ _ fun c member rest => title_quiet c rest (plainBefore c member),
    without_title_ink _ _ fun c member => (code_numbers colour c member).2,
    without_before _ _ _ fun c member rest => title_quiet c rest (plainText c member), reset]

theorem inked_bared (colour : Colour) (before text : List Char)
    (plainBefore : ∀ c ∈ before, c ∉ controls) (plainText : ∀ c ∈ text, c ∉ controls) :
    without controlLength? ((inked colour before text).length + 1) (inked colour before text) =
      before ++ text := by
  -- Each of the two sequences costs one step only, so that fuel is left at the end.
  have fuel : (inked colour before text).length + 1 = before.length +
      (text.length + ((ink colour.code.toList).length + 3 + 1) + 1) := by
    rw [inked_length]
    omega
  have nought : isParameter '0' = true := by decide
  have reset := without_control_ink ['0'] [] (by simp [nought]) (by decide)
    ((ink colour.code.toList).length + 3)
  rw [List.append_nil, without_nil] at reset
  rw [fuel, inked,
    without_before _ _ _ fun c member rest => control_quiet c rest (plainBefore c member),
    without_control_ink _ _ (fun c member => (code_numbers colour c member).1)
      (head_unmarked text plainText),
    without_before _ _ _ fun c member rest => control_quiet c rest (plainText c member), reset,
    List.append_nil]

theorem colourless_painted (before text : String) (colour : Colour)
    (plainBefore : ∀ c ∈ before.toList, c ∉ controls)
    (plainText : ∀ c ∈ text.toList, c ∉ controls) :
    colourless (before ++ painted colour text) = before ++ text := by
  rw [colourless, painted_inked, inked_untitled colour _ _ plainBefore plainText,
    inked_bared colour _ _ plainBefore plainText, ← String.toList_append, String.ofList_toList]

end Colours

theorem narrow_same (last : Nat) (message : String) (fits : (Sink.narrow last).Shows message) :
    (Sink.narrow last).shown message = message := by
  apply String.toList_injective
  rw [Sink.shown, String.toList_map]
  exact (List.map_congr_left fun c member => if_pos (fits c member)).trans (List.map_id _)

theorem Sink.faithful (sink : Sink) : sink.Faithful := by
  cases sink with
  | rich => exact ⟨fun _ _ => rfl, fun _ _ _ => rfl, fun bare => absurd trivial bare⟩
  | narrow last =>
    refine ⟨narrow_same last, fun _ first second => ?_, fun bare => absurd trivial bare⟩
    apply String.toList_injective
    simp only [Sink.shown, String.toList_map, String.toList_append, List.map_append]
  | colourless | plain =>
    exact ⟨colourless_plain, fun coloured => absurd coloured id,
      fun _ before colour text => colourless_painted before text colour⟩

end RefactorAdvice.Report
