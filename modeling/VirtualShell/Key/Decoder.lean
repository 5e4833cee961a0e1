import VirtualShell.Key.Basic
import VirtualShell.Text.Quoted
import VirtualShell.Text.Utf8

namespace VirtualShell

inductive InputError
  | malformedSequence (text : String)
  deriving DecidableEq, Repr

def InputError.message : InputError → String
  | .malformedSequence text => "malformed escape sequence: " ++ Text.quote text

inductive Sequence
  | idle
  | escape
  | control (params : List Char)
  | single
  deriving DecidableEq, Repr

def Sequence.maxParams : Nat := 8

-- A partial escape sequence waits for its next character, but not longer than the timeout: after that
-- it is forgotten before the next character is read. Instants and the timeout are milliseconds on one
-- clock, which need not ascend from one read to the next.
structure Decoder where
  sequence : Sequence := .idle
  -- when the last escape character came
  started : Option Nat := none
  timeout : Nat
  -- a line feed now belongs to the carriage return before it
  afterReturn : Bool := false
  -- octets of an unfinished character
  tail : List UInt8 := []
  deriving DecidableEq, Repr

namespace Decoder

def defaultTimeout : Nat := 50

def isPending (d : Decoder) : Bool := d.sequence != .idle

def reset (d : Decoder) : Decoder := { d with sequence := .idle, started := none }

def expire (d : Decoder) (now : Nat) : Decoder :=
  match d.started with
  | some start => if d.timeout < now - start then d.reset else d
  | none => d

theorem expire_keeps {P : Decoder → Prop} {d : Decoder} (h : P d) (reset : P d.reset) (now : Nat) :
    P (d.expire now) := by
  unfold expire
  split
  case h_1 =>
    split
    case isTrue => exact reset
    case isFalse => exact h
  case h_2 => exact h

def beginSequence (d : Decoder) (now : Nat) : Decoder :=
  { d with sequence := .escape, started := some now }

def finish (d : Decoder) (text : List Char) : Option Key → Decoder × Except InputError (Option Key)
  | some key => (d.reset, .ok (some key))
  | none => (d.reset, .error (.malformedSequence (String.ofList text)))

theorem fst_finish (d : Decoder) (text : List Char) (key : Option Key) : (d.finish text key).1 = d.reset := by
  cases key <;> rfl

theorem join_finish (d : Decoder) (text : List Char) (key : Option Key) :
    (d.finish text key).2.toOption.join = key := by
  cases key <;> rfl

def stepIdle (d : Decoder) (c : Char) (now : Nat) : Decoder × Option Key :=
  if c = '\x1b' then ({ d with afterReturn := false }.beginSequence now, none)
  else if c = '\n' ∧ d.afterReturn then ({ d with afterReturn := false }, none)
  else ({ d with afterReturn := c = '\r' }, Key.ofChar? c)

def step (d : Decoder) (c : Char) (now : Nat) : Decoder × Except InputError (Option Key) :=
  match d.sequence with
  | .idle =>
    let (d, key) := d.stepIdle c now
    (d, .ok key)
  | .escape =>
    let d := { d with afterReturn := false }
    if c = '[' then ({ d with sequence := .control [] }, .ok none)
    else if c = 'O' then ({ d with sequence := .single }, .ok none)
    else if c = '\x1b' then (d.beginSequence now, .ok none)
    else d.finish ['\x1b', c] none
  | .control params =>
    let d := { d with afterReturn := false }
    if (c.isDigit ∨ c = ';') ∧ params.length < Sequence.maxParams then
      ({ d with sequence := .control (params ++ [c]) }, .ok none)
    else
      d.finish ('\x1b' :: '[' :: params ++ [c])
        (if c = '~' then Key.ofParams? params else Key.ofFinal? c)
  | .single =>
    { d with afterReturn := false }.finish ['\x1b', 'O', c] (Key.ofFinal? c)

def read (d : Decoder) (c : Char) (now : Nat) : Decoder × Option Key :=
  let (d, result) := (d.expire now).step c now
  (d, result.toOption.join)

def readAll (d : Decoder) (now : Nat) : List Char → Decoder × List Key
  | [] => (d, [])
  | c :: cs =>
    let (d, key) := d.read c now
    let (d, keys) := readAll d now cs
    (d, key.toList ++ keys)

def feedChar (d : Decoder) (c : Char) (now : Nat) : Decoder × Option Key :=
  { d with afterReturn := false }.read c now

-- Reads octets that arrived together. Only within them is a carriage return joined with the line
-- feed after it.
def feed (d : Decoder) (octets : List UInt8) (now : Nat) : Decoder × List Key :=
  let (cs, tail) := Utf8.repair (d.tail ++ octets)
  { d with afterReturn := false, tail }.readAll now cs

end Decoder

end VirtualShell
