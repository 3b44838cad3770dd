set_option autoImplicit false

namespace Dialogue

structure Date where
  year : Int
  month : Nat
  day : Nat
deriving DecidableEq

namespace Date

def isLeap (year : Int) : Bool := year % 4 = 0 && (year % 100 ≠ 0 || year % 400 = 0)

def monthLength (year : Int) (month : Nat) : Nat :=
  if month = 2 then (if isLeap year then 29 else 28)
  else if month ∈ [4, 6, 9, 11] then 30 else 31

def firstYear : Int := -262143
def lastYear : Int := 262142

def isReal (date : Date) : Bool :=
  firstYear ≤ date.year && date.year ≤ lastYear && 1 ≤ date.month && date.month ≤ 12 &&
    1 ≤ date.day && date.day ≤ monthLength date.year date.month

def next (date : Date) : Date :=
  if date.day < monthLength date.year date.month then ⟨date.year, date.month, date.day + 1⟩
  else if date.month < 12 then ⟨date.year, date.month + 1, 1⟩
  else ⟨date.year + 1, 1, 1⟩

def previous (date : Date) : Date :=
  if 1 < date.day then ⟨date.year, date.month, date.day - 1⟩
  else if 1 < date.month then
    ⟨date.year, date.month - 1, monthLength date.year (date.month - 1)⟩
  else ⟨date.year - 1, 12, 31⟩

end Date

structure TimeOfDay where
  hour : Nat
  minute : Nat
  second : Nat
  nanosecond : Nat
deriving DecidableEq

def TimeOfDay.isReal (time : TimeOfDay) : Bool :=
  time.hour < 24 && time.minute < 60 && time.second ≤ 60 && time.nanosecond < Nat.pow 10 9

structure Timestamp where
  date : Date
  time : TimeOfDay
  date_real : date.isReal = true
  time_real : time.isReal = true
deriving DecidableEq

namespace Timestamp

def of? (date : Date) (time : TimeOfDay) : Option Timestamp :=
  if h : date.isReal = true ∧ time.isReal = true then some ⟨date, time, h.1, h.2⟩ else none

def atOffset? (date : Date) (time : TimeOfDay) (offset : Int) : Option Timestamp :=
  if date.isReal ∧ time.isReal then
    let minutes : Int := time.hour * 60 + time.minute - offset
    let date := if minutes < 0 then date.previous else if 1440 ≤ minutes then date.next else date
    let ofDay := (minutes % 1440).toNat
    of? date { time with hour := ofDay / 60, minute := ofDay % 60 }
  else none

def epoch : Timestamp := ⟨⟨1970, 1, 1⟩, ⟨0, 0, 0, 0⟩, by decide, by decide⟩

end Timestamp

end Dialogue
