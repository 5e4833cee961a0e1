import VirtualShell.Text.Padded

namespace VirtualShell

open Text (padded)

structure LocalTime where
  year : Nat
  month : Nat
  day : Nat
  hour : Nat
  minute : Nat
  second : Nat
  deriving DecidableEq, Repr

namespace LocalTime

def epoch : LocalTime := ⟨1970, 1, 1, 0, 0, 0⟩

-- Days since Sunday. January and February count as months of the year before, so that a leap day
-- ends its year.
def weekday (t : LocalTime) : Nat :=
  let (y, m) := if t.month < 3 then (t.year - 1, t.month + 9) else (t.year, t.month - 3)
  (y + y / 4 + y / 400 - y / 100 + (13 * m + 2) / 5 + t.day + 2) % 7

def weekdayName (t : LocalTime) : String :=
  ["Sun", "Mon", "Tue", "Wed", "Thu", "Fri", "Sat"].getD t.weekday ""

def monthName (t : LocalTime) : String :=
  ["Jan", "Feb", "Mar", "Apr", "May", "Jun", "Jul", "Aug", "Sep", "Oct", "Nov", "Dec"].getD
    (t.month - 1) ""

def render (t : LocalTime) : String :=
  t.weekdayName ++ " " ++ t.monthName ++ " " ++ padded ' ' 2 t.day ++ " " ++ padded '0' 2 t.hour
    ++ ":" ++ padded '0' 2 t.minute ++ ":" ++ padded '0' 2 t.second ++ " " ++ padded '0' 4 t.year

end LocalTime

end VirtualShell
