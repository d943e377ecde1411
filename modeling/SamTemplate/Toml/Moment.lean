import SamTemplate.Number.Layout
import SamTemplate.Number.Literal

/-!
# Moments

Dates and times of day, alone or together, and then with or without the distance
from universal time. `Moment.text` writes one so that `moment?` reads it.
-/

namespace SamTemplate

namespace Toml

/-- A day. -/
structure Date where
  /-- The year. -/
  year : Nat
  /-- The month, from one. -/
  month : Nat
  /-- The day of the month, from one. -/
  day : Nat
  deriving DecidableEq, Repr

/-- A time of day. -/
structure Time where
  /-- The hour. -/
  hour : Nat
  /-- The minute. -/
  minute : Nat
  /-- The second, which may be a leap second. -/
  second : Nat
  /-- The billionths of a second. -/
  nanosecond : Nat
  deriving DecidableEq, Repr

/-- The distance from universal time. -/
inductive Offset where
  /-- Universal time itself. -/
  | universal
  /-- So many minutes ahead of it. -/
  | ahead (minutes : Int)
  deriving DecidableEq, Repr

/-- A moment, as far as it is given. -/
inductive Moment where
  /-- A day. -/
  | day (date : Date)
  /-- A time of day. -/
  | clock (time : Time)
  /-- A time of a day, in local time unless there is an offset. -/
  | both (date : Date) (time : Time) (offset : Option Offset)
  deriving DecidableEq, Repr

/-! ### Writing -/

/-- A number with zeros in front of it, up to a number of digits. -/
def paddedNat (width n : Nat) : String :=
  let digits := natText n
  String.ofList (List.replicate (width - digits.length) '0') ++ digits

/-- A day, from year to day. -/
def Date.text (date : Date) : String :=
  paddedNat 4 date.year ++ "-" ++ paddedNat 2 date.month ++ "-" ++ paddedNat 2 date.day

/-- The billionths of a second as a decimal fraction without zeros at its end. -/
def fractionText (nanosecond : Nat) : String :=
  if nanosecond = 0 then ""
  else
    let digits := (paddedNat 9 nanosecond).toList
    "." ++ String.ofList (digits.reverse.dropWhile (· = '0')).reverse

/-- A time, from hour to second. -/
def Time.text (time : Time) : String :=
  paddedNat 2 time.hour ++ ":" ++ paddedNat 2 time.minute ++ ":" ++ paddedNat 2 time.second
    ++ fractionText time.nanosecond

/-- A distance from universal time, in hours and minutes. -/
def Offset.text : Offset → String
  | .universal => "Z"
  | .ahead minutes =>
    (if minutes < 0 then "-" else "+") ++ paddedNat 2 (minutes.natAbs / 60) ++ ":"
      ++ paddedNat 2 (minutes.natAbs % 60)

/-- A moment, with a `T` between day and time. -/
def Moment.text : Moment → String
  | .day date => date.text
  | .clock time => time.text
  | .both date time offset =>
    date.text ++ "T" ++ time.text ++ ((offset.map Offset.text).getD "")

/-! ### Reading -/

/-- Reads a number of so many digits. -/
def fixedDigits? (count : Nat) (text : List Char) : Option (Nat × List Char) :=
  let digits := text.take count
  if digits.length = count then (unsigned? 10 digits).map fun n => (n, text.drop count) else none

/-- Reads a number of two digits that is not greater than a bound. -/
def twoDigits? (most : Nat) (text : List Char) : Option (Nat × List Char) :=
  (fixedDigits? 2 text).filter fun (n, _) => n ≤ most

/-- Reads one character. -/
def char? (c : Char) : List Char → Option (List Char)
  | d :: rest => if d = c then some rest else none
  | [] => none

/-- Whether a year has a day more in February. -/
def isLeapYear (year : Nat) : Bool := year % 4 = 0 && (year % 100 ≠ 0 || year % 400 = 0)

/-- How many days a month has. -/
def daysInMonth (year month : Nat) : Nat :=
  if month = 2 then if isLeapYear year then 29 else 28
  else if month = 4 ∨ month = 6 ∨ month = 9 ∨ month = 11 then 30
  else 31

/-- Reads a day. -/
def date? (text : List Char) : Option (Date × List Char) := do
  let (year, rest) ← fixedDigits? 4 text
  let (month, rest) ← twoDigits? 12 (← char? '-' rest)
  let (day, rest) ← twoDigits? (daysInMonth year month) (← char? '-' rest)
  guard (1 ≤ month ∧ 1 ≤ day)
  return (⟨year, month, day⟩, rest)

/-- Reads a fraction of a second, of which at most nine digits count. -/
def nanosecond? (text : List Char) : Option (Nat × List Char) :=
  match text with
  | '.' :: rest =>
    let (digits, rest) := spanDigits rest
    let digits' := digits.take 9
    (unsigned? 10 digits').map fun n => (n * Nat.pow 10 (9 - digits'.length), rest)
  | _ => none

/-- Reads a time of day. -/
def time? (text : List Char) : Option (Time × List Char) := do
  let (hour, rest) ← twoDigits? 23 text
  let (minute, rest) ← twoDigits? 59 (← char? ':' rest)
  let (second, rest) ← twoDigits? 60 (← char? ':' rest)
  let (nanosecond, rest) := (nanosecond? rest).getD (0, rest)
  return (⟨hour, minute, second, nanosecond⟩, rest)

/-- Reads a distance from universal time. -/
def offset? (text : List Char) : Option (Offset × List Char) :=
  match text with
  | sign :: rest =>
    if sign = 'Z' ∨ sign = 'z' then some (.universal, rest)
    else if sign = '+' ∨ sign = '-' then do
      let (hours, rest) ← twoDigits? 23 rest
      let (minutes, rest) ← twoDigits? 59 (← char? ':' rest)
      let distance : Int := hours * 60 + minutes
      return (.ahead (if sign = '-' then -distance else distance), rest)
    else none
  | [] => none

/-- Reads the time of a day, after a `T` or a blank. -/
def timeOfDay? (text : List Char) : Option ((Time × Option Offset) × List Char) :=
  match text with
  | c :: rest =>
    if c = 'T' ∨ c = 't' ∨ c = ' ' then do
      let (time, rest) ← time? rest
      match offset? rest with
      | some (offset, rest) => some ((time, some offset), rest)
      | none => some ((time, none), rest)
    else none
  | [] => none

/-- Reads a moment. -/
def moment? (text : List Char) : Option (Moment × List Char) :=
  match date? text with
  | some (date, rest) =>
    match timeOfDay? rest with
    | some ((time, offset), rest) => some (.both date time offset, rest)
    | none => some (.day date, rest)
  | none => (time? text).map fun (time, rest) => (.clock time, rest)

end Toml

end SamTemplate
