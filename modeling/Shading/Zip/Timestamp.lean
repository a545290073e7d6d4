import Shading.Text

set_option autoImplicit false

namespace Shading.Zip

structure Timestamp where
  year : Nat := 1980
  month : Nat := 1
  day : Nat := 1
  hour : Nat := 0
  minute : Nat := 0
  second : Nat := 0
deriving DecidableEq, Repr

namespace Timestamp

def isLeap (year : Nat) : Bool := year % 4 == 0 && (year % 100 != 0 || year % 400 == 0)

def daysInMonth (year month : Nat) : Nat :=
  match month with
  | 2 => if isLeap year then 29 else 28
  | 4 | 6 | 9 | 11 => 30
  | _ => 31

def daysInYear (year : Nat) : Nat := if isLeap year then 366 else 365

-- A date and a time, if there is such a date and it can be recorded. An odd second loses its lowest
-- bit, and a leap second counts as the 58th.
def ofParts? (year month day hour minute second : Nat) : Option Timestamp :=
  if 1980 ≤ year ∧ year ≤ 2107 ∧ 1 ≤ month ∧ month ≤ 12 ∧ 1 ≤ day ∧ day ≤ daysInMonth year month ∧
      hour ≤ 23 ∧ minute ≤ 59 ∧ second ≤ 60 then
    some ⟨year, month, day, hour, minute, min second 58 / 2 * 2⟩
  else none

def dateWord (t : Timestamp) : Nat := (t.year - 1980) * 512 + t.month * 32 + t.day

def timeWord (t : Timestamp) : Nat := t.hour * 2048 + t.minute * 32 + t.second / 2

def ofWords? (date time : Nat) : Option Timestamp :=
  ofParts? (1980 + date / 512) (date / 32 % 16) (date % 32) (time / 2048) (time / 32 % 64)
    (time % 32 * 2)

-- The year, at most `fuel` years after a given one, and the day in it, counted from the start of
-- the given year.
def yearOf (fuel year days : Nat) : Nat × Nat :=
  match fuel with
  | 0 => (year, days)
  | fuel + 1 =>
      if days < daysInYear year then (year, days) else yearOf fuel (year + 1) (days - daysInYear year)

-- The month, at most `fuel` months after a given one, and the day in it, both counted from zero.
def monthOf (year fuel month days : Nat) : Nat × Nat :=
  match fuel with
  | 0 => (month, days)
  | fuel + 1 =>
      if days < daysInMonth year (month + 1) then (month, days)
      else monthOf year fuel (month + 1) (days - daysInMonth year (month + 1))

def epoch : Int := 315532800

def ofUnix? (seconds : Int) : Option Timestamp :=
  if seconds < epoch then none
  else
    let n := (seconds - epoch).toNat
    let (year, dayOfYear) := yearOf 128 1980 (n / 86400)
    let (month, day) := monthOf year 11 0 dayOfYear
    ofParts? year (month + 1) (day + 1) (n / 3600 % 24) (n / 60 % 60) (n % 60)

end Timestamp

end Shading.Zip
