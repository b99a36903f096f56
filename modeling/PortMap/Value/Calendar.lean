import PortMap.Text.Quoted

/-!
# Days and times of day

A day of the calendar, from the year 1 to the year 9999, and a time of day with microseconds. Only days
and times that there are have a value: `Day.of?` and `Clock.of?` say which those are. `Day.text` and
`Clock.text` are their usual forms, `1979-05-27` and `07:32:00`.
-/

namespace PortMap

/-- A number with zeros before it, so that it has at least `width` digits. -/
def zeroPadded (width n : Nat) : String :=
  let digits := Nat.toDigits 10 n
  String.ofList (List.replicate (width - digits.length) '0' ++ digits)

/-! ### Days -/

/-- A day of the calendar. -/
structure Day where
  /-- The year. -/
  year : Nat
  /-- The month, counted from one. -/
  month : Nat
  /-- The day of the month, counted from one. -/
  day : Nat
  deriving DecidableEq, Repr

namespace Day

/-- Whether a year has a day more. -/
def isLeap (year : Nat) : Bool := year % 4 = 0 && (year % 100 ≠ 0 || year % 400 = 0)

/-- The number of days of a month. -/
def daysIn (year month : Nat) : Nat :=
  if month = 2 then if isLeap year then 29 else 28
  else if month = 4 ∨ month = 6 ∨ month = 9 ∨ month = 11 then 30
  else 31

/-- The day with the numbers given, if there is one. -/
def of? (year month day : Int) : Option Day :=
  if 1 ≤ year ∧ year ≤ 9999 ∧ 1 ≤ month ∧ month ≤ 12 ∧ 1 ≤ day
      ∧ day ≤ daysIn year.toNat month.toNat then
    some ⟨year.toNat, month.toNat, day.toNat⟩
  else none

/-- The usual form of a day. -/
def text (d : Day) : String :=
  zeroPadded 4 d.year ++ "-" ++ zeroPadded 2 d.month ++ "-" ++ zeroPadded 2 d.day

end Day

/-! ### Times of day -/

/-- A time of day. -/
structure Clock where
  /-- The hour. -/
  hour : Nat
  /-- The minute. -/
  minute : Nat
  /-- The second. -/
  second : Nat
  /-- The microsecond. -/
  microsecond : Nat
  deriving DecidableEq, Repr

namespace Clock

/-- The time with the numbers given, if there is one. -/
def of? (hour minute second microsecond : Int) : Option Clock :=
  if 0 ≤ hour ∧ hour < 24 ∧ 0 ≤ minute ∧ minute < 60 ∧ 0 ≤ second ∧ second < 60
      ∧ 0 ≤ microsecond ∧ microsecond < 10 ^ 6 then
    some ⟨hour.toNat, minute.toNat, second.toNat, microsecond.toNat⟩
  else none

/-- The numbers of a time; seconds and microseconds are left out at the end if they are zero. -/
def numbers (c : Clock) : List Nat :=
  [c.hour, c.minute]
    ++ (if c.microsecond = 0 then if c.second = 0 then [] else [c.second]
      else [c.second, c.microsecond])

/-- The usual form of a time; without microseconds it ends with the seconds. -/
def text (c : Clock) : String :=
  zeroPadded 2 c.hour ++ ":" ++ zeroPadded 2 c.minute ++ ":" ++ zeroPadded 2 c.second
    ++ (if c.microsecond = 0 then "" else "." ++ zeroPadded 6 c.microsecond)

end Clock

example : Day.of? 2000 2 29 = some ⟨2000, 2, 29⟩ ∧ Day.of? 1900 2 29 = none := by decide

example : Day.text ⟨979, 5, 27⟩ = "0979-05-27" ∧ Clock.text ⟨7, 32, 0, 50⟩ = "07:32:00.000050" := by
  decide +kernel

end PortMap
