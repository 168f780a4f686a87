import RefactorAdvice.Report.Text
import RefactorAdvice.Text.WordChar

/-!
Where a report goes. A place may not show every character, or no colours; each message is
brought into a form that it can show.
-/

namespace RefactorAdvice.Report

section Colourless

def isParameter (c : Char) : Bool := c == ';' || (Text.digitValue? c).isSome

def markLength (mark : Char) (cs : List Char) : Nat := if cs.head? == some mark then 1 else 0

def controlLength? (cs : List Char) : Option Nat :=
  let before := markLength '\x01' cs
  match cs.drop before with
  | '\x1b' :: '[' :: rest =>
    let parameters := rest.takeWhile isParameter
    match rest.drop parameters.length with
    | c :: after =>
      if c.isAlpha then
        some (before + 2 + parameters.length + 1 + markLength '\x02' after)
      else none
    | [] => none
  | _ => none

def titleLength? (cs : List Char) : Option Nat :=
  let before := markLength '\x01' cs
  match cs.drop before with
  | '\x1b' :: ']' :: rest =>
    let title := rest.takeWhile (· != '\x07')
    match rest.drop title.length with
    | _ :: after => some (before + 2 + title.length + 1 + markLength '\x02' after)
    | [] => none
  | _ => none

def without (length? : List Char → Option Nat) : Nat → List Char → List Char
  | 0, cs => cs
  | _, [] => []
  | fuel + 1, c :: rest =>
    match length? (c :: rest) with
    | some length => without length? fuel ((c :: rest).drop length)
    | none => c :: without length? fuel rest

/-- A text without its title sequences and then without its control sequences. -/
def colourless (text : String) : String :=
  let cs := text.toList
  let untitled := without titleLength? (cs.length + 1) cs
  String.ofList (without controlLength? (untitled.length + 1) untitled)

end Colourless

inductive Sink where
  /-- Shows every character and colours. -/
  | rich
  /-- Shows colours and the characters up to a code. -/
  | narrow (last : Nat)
  /-- Shows every character and no colours. -/
  | colourless
  /-- Shows no colours, and may not be able to show every character. -/
  | plain
deriving DecidableEq, Inhabited

namespace Sink

def ascii : Sink := .narrow 0x7f

def latin : Sink := .narrow 0xff

def showsAll : Sink → Bool
  | .plain => false
  | _ => true

def icon (s : Sink) : Severity → String := if s.showsAll then richIcon else plainIcon

/-- A message as the place shows it; what it cannot show becomes a question mark. -/
def shown (s : Sink) (message : String) : String :=
  match s with
  | .rich => message
  | .narrow last => message.map fun c => if c.toNat ≤ last then c else '?'
  | .colourless | .plain => Report.colourless message

end Sink

def text (sink : Sink) (grouping : Grouping) (s : Survey) : String :=
  String.join ((messages sink.icon grouping s).map fun message => sink.shown message ++ "\n")

end RefactorAdvice.Report
