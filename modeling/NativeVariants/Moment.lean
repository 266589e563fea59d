/-!
# Dates and times

Calendar dates, times of day and moments, as settings files hold them and as log lines and the
names of log files show them.
-/

namespace NativeVariants

/-- A number in decimal digits, padded with zeros to a width. -/
def padded (width n : Nat) : String :=
  let ds := Nat.toDigits 10 n
  String.ofList (List.replicate (width - ds.length) '0' ++ ds)

structure Date where
  year : Nat
  month : Nat
  day : Nat
  deriving DecidableEq, Repr, Inhabited

structure TimeOfDay where
  hour : Nat
  minute : Nat
  second : Nat
  micro : Nat
  deriving DecidableEq, Repr, Inhabited

/-- A date, a time, or both with or without an offset from universal time in minutes. -/
inductive Moment where
  | date (d : Date)
  | time (t : TimeOfDay)
  | local (d : Date) (t : TimeOfDay)
  | offset (d : Date) (t : TimeOfDay) (minutes : Int)
  deriving DecidableEq, Repr, Inhabited

namespace Date

/-- Year, month and day with dashes. -/
def text (d : Date) : String :=
  padded 4 d.year ++ "-" ++ padded 2 d.month ++ "-" ++ padded 2 d.day

/-- Year, month and day without separators. The year has as many digits as it needs. -/
def compact (d : Date) : String :=
  padded 1 d.year ++ padded 2 d.month ++ padded 2 d.day

def isLeap (year : Nat) : Bool :=
  year % 4 = 0 && (year % 100 ≠ 0 || year % 400 = 0)

def daysOf (year month : Nat) : Nat :=
  if month = 2 then (if isLeap year then 29 else 28)
  else if month = 4 || month = 6 || month = 9 || month = 11 then 30 else 31

/-- Whether the calendar has the date. -/
def isValid (d : Date) : Bool :=
  1 ≤ d.year && d.year ≤ 9999 && 1 ≤ d.month && d.month ≤ 12 && 1 ≤ d.day &&
    d.day ≤ daysOf d.year d.month

/-- What dates are ordered by, first to last. -/
def parts (d : Date) : List Nat :=
  [d.year, d.month, d.day]

/-- The days from the beginning of the calendar to the end of the date. -/
def number (d : Date) : Nat :=
  let years := d.year - 1
  let months := (List.range (d.month - 1)).foldl (fun days m => days + daysOf d.year (m + 1)) 0
  365 * years + years / 4 - years / 100 + years / 400 + months + d.day

end Date

namespace TimeOfDay

/-- Hours, minutes and seconds with colons. -/
def clock (t : TimeOfDay) : String :=
  padded 2 t.hour ++ ":" ++ padded 2 t.minute ++ ":" ++ padded 2 t.second

/-- The clock, with six more places when there is a fraction of a second. -/
def text (t : TimeOfDay) : String :=
  if t.micro = 0 then t.clock else t.clock ++ "." ++ padded 6 t.micro

/-- Hours, minutes and seconds without separators. -/
def compact (t : TimeOfDay) : String :=
  padded 2 t.hour ++ padded 2 t.minute ++ padded 2 t.second

def isValid (t : TimeOfDay) : Bool :=
  t.hour ≤ 23 && t.minute ≤ 59 && t.second ≤ 59 && t.micro ≤ 999999

/-- What times of day are ordered by, first to last. -/
def parts (t : TimeOfDay) : List Nat :=
  [t.hour, t.minute, t.second, t.micro]

/-- The seconds since midnight. -/
def seconds (t : TimeOfDay) : Nat :=
  (t.hour * 60 + t.minute) * 60 + t.second

end TimeOfDay

namespace Moment

/-- An offset as sign, hours and minutes. -/
def offsetText (minutes : Int) : String :=
  (if minutes < 0 then "-" else "+") ++ padded 2 (minutes.natAbs / 60) ++ ":" ++
    padded 2 (minutes.natAbs % 60)

/-- The moment with `mark` between its date and its time. -/
def textWith (mark : String) : Moment → String
  | .date d => d.text
  | .time t => t.text
  | .local d t => d.text ++ mark ++ t.text
  | .offset d t minutes => d.text ++ mark ++ t.text ++ offsetText minutes

/-- The moment in words of the program's messages. -/
def text : Moment → String :=
  textWith " "

/-- The moment as settings files spell it: no offset is written as the letter of universal time. -/
def settingsText : Moment → String
  | .offset d t 0 => d.text ++ "T" ++ t.text ++ "Z"
  | m => m.textWith "T"

/-- The microseconds up to a moment in universal time; only an offset tells when a moment is. -/
def instant? : Moment → Option Int
  | .offset d t minutes => some ((d.number * 86400 + t.seconds - minutes * 60) * 1000000 + t.micro)
  | _ => none

/-- Whether both are the same moment, whatever their offsets. -/
def same (m n : Moment) : Bool :=
  match m.instant?, n.instant? with
  | some a, some b => a == b
  | _, _ => m == n

/-- Whether `m` is earlier than `n`. Moments of different kinds have no order. -/
def before? : Moment → Moment → Option Bool
  | .date d, .date e => some (decide (d.parts < e.parts))
  | .time t, .time u => some (decide (t.parts < u.parts))
  | .local d t, .local e u => some (decide (d.parts ++ t.parts < e.parts ++ u.parts))
  | m, n =>
    match m.instant?, n.instant? with
    | some a, some b => some (decide (a < b))
    | _, _ => none

example : before? (.offset ⟨2024, 3, 1⟩ ⟨0, 30, 0, 0⟩ 60) (.offset ⟨2024, 2, 29⟩ ⟨23, 0, 0, 0⟩ 0) =
    some false := by decide +kernel
example : same (.offset ⟨2024, 3, 1⟩ ⟨0, 30, 0, 0⟩ 60) (.offset ⟨2024, 2, 29⟩ ⟨23, 30, 0, 0⟩ 0) := by
  decide +kernel

end Moment

/-- A date and a time of day, as a clock on the wall shows them. -/
structure Clock where
  date : Date
  time : TimeOfDay
  deriving DecidableEq, Repr, Inhabited

end NativeVariants
