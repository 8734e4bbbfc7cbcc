import ClassAtlas.Toml.Double

/-!
# Days and times

A value of a document may be a day, a time of day or both, and both together may be given for a
zone. Days exist in the Gregorian calendar and times on a clock of twenty-four hours, so no value
holds one that does not.
-/
namespace ClassAtlas.Toml

/-- Whether a year has a leap day. -/
def isLeap (year : Nat) : Bool := year % 4 == 0 && (year % 100 != 0 || year % 400 == 0)

/-- The days of a month, counted from one. -/
def monthLength (year month : Nat) : Nat :=
  if month = 2 then (if isLeap year then 29 else 28)
  else if month = 4 ∨ month = 6 ∨ month = 9 ∨ month = 11 then 30
  else 31

/-- A day of the calendar. -/
structure Day where
  /-- The year. -/
  year : Nat
  /-- The month, counted from one. -/
  month : Nat
  /-- The day of the month, counted from one. -/
  day : Nat
  /-- The year has four digits, and the month has the day. -/
  exists_day : 0 < year ∧ year < 10000 ∧ 0 < month ∧ month ≤ 12 ∧ 0 < day ∧
    day ≤ monthLength year month
deriving DecidableEq, Repr

/-- A time of day. -/
structure Clock where
  /-- The hour. -/
  hour : Nat
  /-- The minute. -/
  minute : Nat
  /-- The second. -/
  second : Nat
  /-- The millionth parts of a second. -/
  microsecond : Nat
  /-- The clock shows the time. -/
  exists_time : hour < 24 ∧ minute < 60 ∧ second < 60 ∧ microsecond < 1000000
deriving DecidableEq, Repr

/-- A day, a time of day, or both, with the minutes that their zone is ahead. -/
inductive Moment where
  | day (date : Day)
  | time (clock : Clock)
  | both (date : Day) (clock : Clock) (zone : Option Int)
deriving DecidableEq, Repr

/-- The day of a year, a month and a day of the month, if it exists. -/
def Day.of? (year month day : Nat) : Option Day :=
  if h : 0 < year ∧ year < 10000 ∧ 0 < month ∧ month ≤ 12 ∧ 0 < day ∧
      day ≤ monthLength year month then
    some ⟨year, month, day, h⟩
  else none

/-- The time of day of an hour, a minute, a second and its millionth parts, if there is one. -/
def Clock.of? (hour minute second microsecond : Nat) : Option Clock :=
  if h : hour < 24 ∧ minute < 60 ∧ second < 60 ∧ microsecond < 1000000 then
    some ⟨hour, minute, second, microsecond, h⟩
  else none

/-! ## Spelling -/

/-- A number with zeros before it up to a width. -/
def padded (width number : Nat) : String :=
  let digits := Double.digitsOf number
  String.ofList (List.replicate (width - digits.length) '0' ++ digits)

/-- A day as a document writes it. -/
def Day.render (day : Day) : String :=
  padded 4 day.year ++ "-" ++ padded 2 day.month ++ "-" ++ padded 2 day.day

/-- A time of day as a document writes it. -/
def Clock.render (clock : Clock) : String :=
  padded 2 clock.hour ++ ":" ++ padded 2 clock.minute ++ ":" ++ padded 2 clock.second
    ++ (if clock.microsecond = 0 then "" else "." ++ padded 6 clock.microsecond)

/-- A zone as a document writes it: a letter if it is not ahead. -/
def renderZone (ahead : Int) : String :=
  if ahead = 0 then "Z"
  else
    (if ahead < 0 then "-" else "+") ++ padded 2 (ahead.natAbs / 60) ++ ":"
      ++ padded 2 (ahead.natAbs % 60)

/-- The parts of a call in running text. -/
def spelledCall (name : String) (parts : List String) : String :=
  "datetime." ++ name ++ "(" ++ ", ".intercalate parts ++ ")"

/-- The parts of a day in running text. -/
def Day.parts (day : Day) : List String :=
  [toString day.year, toString day.month, toString day.day]

/-- The parts of a time in running text: the smallest ones are left out where they are zero. -/
def Clock.parts (clock : Clock) : List String :=
  let fine := if clock.microsecond = 0 then [] else [toString clock.microsecond]
  let seconds := if clock.second = 0 ∧ fine = [] then [] else [toString clock.second]
  toString clock.hour :: toString clock.minute :: (seconds ++ fine)

namespace Moment

/-- A moment as a document writes it. -/
def render : Moment → String
  | .day date => date.render
  | .time clock => clock.render
  | .both date clock zone => date.render ++ "T" ++ clock.render ++ (zone.map renderZone).getD ""

/-- The spelling of a moment in running text. What identifies the zone in memory is left out. -/
def spelled : Moment → String
  | .day date => spelledCall "date" date.parts
  | .time clock => spelledCall "time" clock.parts
  | .both date clock zone =>
    spelledCall "datetime" (date.parts ++ clock.parts
      ++ zone.toList.map fun _ => "tzinfo=<toml.tz.TomlTz object>")

end Moment

end ClassAtlas.Toml
