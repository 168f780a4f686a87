/-!
Dates and times of day, as a settings file can hold them, in their two written forms: the plain
one and the one that spells out the parts.
-/

namespace RefactorAdvice

structure Date where
  year : Nat
  month : Nat
  day : Nat
deriving DecidableEq, Inhabited

structure Clock where
  hour : Nat
  minute : Nat
  second : Nat
  microsecond : Nat
deriving DecidableEq, Inhabited

inductive Moment where
  | date (value : Date)
  | time (value : Clock)
  | both (date : Date) (time : Clock) (offset : Option Int)
deriving DecidableEq, Inhabited

section Plain

def padded (width n : Nat) : String :=
  let digits := toString n
  String.ofList (List.replicate (width - digits.length) '0') ++ digits

def Date.plain (d : Date) : String :=
  padded 4 d.year ++ "-" ++ padded 2 d.month ++ "-" ++ padded 2 d.day

def Clock.plain (t : Clock) : String :=
  padded 2 t.hour ++ ":" ++ padded 2 t.minute ++ ":" ++ padded 2 t.second ++
    (if t.microsecond = 0 then "" else "." ++ padded 6 t.microsecond)

def offsetPlain (minutes : Int) : String :=
  (if minutes < 0 then "-" else "+") ++ padded 2 (minutes.natAbs / 60) ++ ":" ++
    padded 2 (minutes.natAbs % 60)

def Moment.plain : Moment → String
  | .date d => d.plain
  | .time t => t.plain
  | .both d t offset => d.plain ++ " " ++ t.plain ++ (offset.map offsetPlain).getD ""

end Plain

section Spelled

/-- Hour and minute always, second and microsecond up to the last that is not zero. -/
def Clock.parts (t : Clock) : List Nat :=
  if t.microsecond ≠ 0 then [t.hour, t.minute, t.second, t.microsecond]
  else if t.second ≠ 0 then [t.hour, t.minute, t.second]
  else [t.hour, t.minute]

def Date.parts (d : Date) : List Nat := [d.year, d.month, d.day]

def spelledParts (parts : List Nat) : String := ", ".intercalate (parts.map toString)

def offsetSpelled (minutes : Int) : String :=
  if minutes = 0 then "datetime.timezone.utc"
  else
    let seconds := minutes * 60
    if seconds < 0 then
      s!"datetime.timezone(datetime.timedelta(days=-1, seconds={seconds + 86400}))"
    else s!"datetime.timezone(datetime.timedelta(seconds={seconds}))"

def Moment.spelled : Moment → String
  | .date d => "datetime.date(" ++ spelledParts d.parts ++ ")"
  | .time t => "datetime.time(" ++ spelledParts t.parts ++ ")"
  | .both d t offset =>
    "datetime.datetime(" ++ spelledParts (d.parts ++ t.parts) ++
      (match offset with
        | some minutes => ", tzinfo=" ++ offsetSpelled minutes
        | none => "") ++ ")"

end Spelled

end RefactorAdvice
