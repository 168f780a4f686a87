import RefactorAdvice.Text.Lines
import RefactorAdvice.Text.Utf8

/-!
Lines of a file that is read piece by piece. Lines that end before a fault in the bytes are
read; the fault is met when the piece that shows it is read, and its place is counted from the
first byte that was still open then.
-/

namespace RefactorAdvice.Text

def pieceSize : Nat := 8192

def isContinuation (byte : UInt8) : Bool := 0x80 ≤ byte.toNat && byte.toNat ≤ 0xbf

/-- The first byte of the character that reaches over a boundary, or the boundary. -/
def characterStart (bytes : ByteArray) : Nat → Nat → Nat
  | 0, position => position
  | fuel + 1, position =>
    match bytes[position]? with
    | some byte =>
      if isContinuation byte && 0 < position then characterStart bytes fuel (position - 1)
      else position
    | none => position

def openFrom (bytes : ByteArray) (fault : Utf8Fault) : Nat :=
  match fault.reason with
  | .cutShort => fault.first
  | .badStart =>
    let boundary := fault.first / pieceSize * pieceSize
    if boundary = fault.first then boundary else characterStart bytes 3 boundary
  | .badContinuation =>
    let boundary := fault.stop / pieceSize * pieceSize
    if fault.first < boundary then fault.first else characterStart bytes 3 boundary

def linesWithBreaks (line : List Char) : List Char → List (List Char)
  | [] => if line.isEmpty then [] else [line.reverse]
  | c :: rest =>
    if c == '\n' then (c :: line).reverse :: linesWithBreaks [] rest
    else linesWithBreaks (c :: line) rest

def streamLines (bytes : ByteArray) : List (List Char) × Option Utf8Fault :=
  match decodeUtf8 bytes with
  | .ok text => (linesWithBreaks [] (unifyBreaks text.toList), none)
  | .error fault =>
    let first := openFrom bytes fault
    let text := match decodeUtf8 (bytes.extract 0 first) with
      | .ok text => unifyBreaks text.toList
      | .error _ => []
    let whole := (linesWithBreaks [] text).filter fun line => line.getLast? == some '\n'
    (whole, some { fault with first := fault.first - first, stop := fault.stop - first })

end RefactorAdvice.Text
