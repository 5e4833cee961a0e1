import VirtualShell.Text.Hex
import VirtualShell.Text.Padded

namespace VirtualShell.Toml

structure Date where
  year : Nat
  month : Nat
  day : Nat
  deriving DecidableEq, Repr

structure Time where
  hour : Nat
  minute : Nat
  second : Nat
  nanosecond : Nat
  deriving DecidableEq, Repr

inductive Offset
  | universal
  -- how far local time is ahead of universal time
  | minutes (n : Int)
  deriving DecidableEq, Repr

inductive Moment
  | date (d : Date)
  | time (t : Time)
  | dateTime (d : Date) (t : Time) (offset : Option Offset)
  deriving DecidableEq, Repr

def isLeapYear (year : Nat) : Bool := year % 4 = 0 && (year % 100 != 0 || year % 400 = 0)

def daysIn (year month : Nat) : Nat :=
  if month = 2 then if isLeapYear year then 29 else 28
  else if month = 4 ∨ month = 6 ∨ month = 9 ∨ month = 11 then 30
  else 31

def digits? (size least most : Nat) (s : List Char) : Option (Nat × List Char) :=
  let ds := s.take size
  let n := Text.number 10 ds
  if ds.length = size ∧ ds.all Char.isDigit ∧ least ≤ n ∧ n ≤ most then some (n, s.drop size)
  else none

def behind? (c : Char) : List Char → Option (List Char)
  | [] => none
  | d :: s => if d = c then some s else none

def date? (s : List Char) : Option (Date × List Char) := do
  let (year, s) ← digits? 4 0 9999 s
  let (month, s) ← digits? 2 1 12 (← behind? '-' s)
  let (day, s) ← digits? 2 1 (daysIn year month) (← behind? '-' s)
  return (⟨year, month, day⟩, s)

-- Places of a second in nanoseconds. Those behind the ninth are dropped.
def places? : List Char → Option (Nat × List Char)
  | '.' :: s =>
    let ds := s.takeWhile Char.isDigit
    if ds.isEmpty then none
    else some (Text.number 10 ((ds ++ List.replicate 9 '0').take 9), s.dropWhile Char.isDigit)
  | _ => none

def time? (s : List Char) : Option (Time × List Char) := do
  let (hour, s) ← digits? 2 0 23 s
  let (minute, s) ← digits? 2 0 59 (← behind? ':' s)
  let (second, s) ← digits? 2 0 60 (← behind? ':' s)
  let (nanosecond, s) := (places? s).getD (0, s)
  return (⟨hour, minute, second, nanosecond⟩, s)

def span? (s : List Char) : Option (Nat × List Char) := do
  let (hours, s) ← digits? 2 0 23 s
  let (minutes, s) ← digits? 2 0 59 (← behind? ':' s)
  return (hours * 60 + minutes, s)

def offset? : List Char → Option (Offset × List Char)
  | 'Z' :: s => some (.universal, s)
  | 'z' :: s => some (.universal, s)
  | '+' :: s => (span? s).map fun (n, rest) => (.minutes n, rest)
  | '-' :: s => (span? s).map fun (n, rest) => (.minutes (-n), rest)
  | _ => none

def timeOfDate? : List Char → Option (Time × List Char)
  | c :: s => if c = 'T' ∨ c = 't' ∨ c = ' ' then time? s else none
  | [] => none

def moment? (s : List Char) : Option (Moment × List Char) :=
  match date? s with
  | none => (time? s).map fun (t, rest) => (.time t, rest)
  | some (d, rest) =>
    match timeOfDate? rest with
    | none => some (.date d, rest)
    | some (t, rest) =>
      match offset? rest with
      | none => some (.dateTime d t none, rest)
      | some (o, rest) => some (.dateTime d t (some o), rest)

open Text (padded)

def Date.render (d : Date) : String :=
  padded '0' 4 d.year ++ "-" ++ padded '0' 2 d.month ++ "-" ++ padded '0' 2 d.day

def Time.places (t : Time) : String :=
  if t.nanosecond = 0 then ""
  else
    let ds := (padded '0' 9 t.nanosecond).toList
    "." ++ String.ofList (ds.reverse.dropWhile (· = '0')).reverse

def Time.render (t : Time) : String :=
  padded '0' 2 t.hour ++ ":" ++ padded '0' 2 t.minute ++ ":" ++ padded '0' 2 t.second ++ t.places

def Offset.render : Offset → String
  | .universal => "Z"
  | .minutes n =>
    (if n < 0 then "-" else "+") ++ padded '0' 2 (n.natAbs / 60) ++ ":" ++ padded '0' 2 (n.natAbs % 60)

def Moment.render : Moment → String
  | .date d => d.render
  | .time t => t.render
  | .dateTime d t none => d.render ++ "T" ++ t.render
  | .dateTime d t (some o) => d.render ++ "T" ++ t.render ++ o.render

end VirtualShell.Toml
