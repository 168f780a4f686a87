import RefactorAdvice.Text.Quoted

/-!
Reading UTF-8. Bytes that are not UTF-8 are described by the place and the reason of the first
fault.
-/

namespace RefactorAdvice.Text

inductive Utf8Reason where
  | badStart | badContinuation | cutShort
deriving DecidableEq, Inhabited

/-- A fault from byte `first` up to byte `stop`, the latter left out. -/
structure Utf8Fault where
  reason : Utf8Reason
  first : Nat
  stop : Nat
  /-- The byte at the fault's place. -/
  byte : Nat
deriving DecidableEq, Inhabited

def Utf8Reason.words : Utf8Reason → String
  | .badStart => "invalid start byte"
  | .badContinuation => "invalid continuation byte"
  | .cutShort => "unexpected end of data"

def Utf8Fault.message (f : Utf8Fault) : String :=
  let place :=
    if f.stop = f.first + 1 then
      "byte 0x" ++ String.ofList (hexDigits 2 f.byte) ++ " in position " ++ toString f.first
    else "bytes in position " ++ toString f.first ++ "-" ++ toString (f.stop - 1)
  "'utf-8' codec can't decode " ++ place ++ ": " ++ f.reason.words

section Decoding

def following? (byte : Nat) : Option (Nat × Nat × Nat) :=
  if byte < 0x80 then some (0, 0, 0)
  else if byte < 0xc2 then none
  else if byte < 0xe0 then some (1, 0x80, 0xbf)
  else if byte < 0xf0 then
    some (2, if byte == 0xe0 then 0xa0 else 0x80, if byte == 0xed then 0x9f else 0xbf)
  else if byte < 0xf5 then
    some (3, if byte == 0xf0 then 0x90 else 0x80, if byte == 0xf4 then 0x8f else 0xbf)
  else none

def continued (low high : Nat) : Nat → List Nat → Nat × Bool
  | 0, _ => (0, false)
  | _, [] => (0, true)
  | need + 1, b :: rest =>
    if low ≤ b && b ≤ high then
      let (more, out) := continued 0x80 0xbf need rest
      (more + 1, out)
    else (0, false)

def faultFrom (size : Nat) (position pass : Nat) : List Nat → Option Utf8Fault
  | [] => none
  | b :: rest =>
    match pass with
    | pass + 1 => faultFrom size (position + 1) pass rest
    | 0 =>
      match following? b with
      | none => some ⟨.badStart, position, position + 1, b⟩
      | some (need, low, high) =>
        let (found, out) := continued low high need rest
        if found = need then faultFrom size (position + 1) need rest
        else if out then some ⟨.cutShort, position, size, b⟩
        else some ⟨.badContinuation, position, position + 1 + found, b⟩

end Decoding

def decodeUtf8 (bytes : ByteArray) : Except Utf8Fault String :=
  match String.fromUTF8? bytes with
  | some text => .ok text
  | none =>
    match faultFrom bytes.size 0 0 (bytes.toList.map (·.toNat)) with
    | some fault => .error fault
    | none => .error ⟨.badStart, 0, 1, 0⟩

end RefactorAdvice.Text
