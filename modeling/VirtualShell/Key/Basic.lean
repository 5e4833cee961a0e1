import VirtualShell.Text.Control

namespace VirtualShell

inductive Key
  | char (c : Char)
  | backspace
  | delete
  | enter
  | tab
  | up
  | down
  | left
  | right
  | home
  | endOfLine
  | interrupt
  | clearScreen
  | killLine
  | endOfInput
  deriving DecidableEq, Repr

namespace Key

def ofChar? (c : Char) : Option Key :=
  match c with
  | '\r' | '\n' => some .enter
  | '\t' => some .tab
  | '\x7f' | '\x08' => some .backspace
  | '\x01' => some .home
  | '\x03' => some .interrupt
  | '\x04' => some .endOfInput
  | '\x05' => some .endOfLine
  | '\x0c' => some .clearScreen
  | '\x15' => some .killLine
  | c => if c.toNat < 0x20 ∨ 0x7F ≤ c.toNat ∧ c.toNat < 0xA0 then none else some (.char c)

theorem ofChar?_eq_char_iff {c d : Char} :
    ofChar? c = some (.char d) ↔ c = d ∧ Text.isControl c = false := by
  unfold ofChar?
  split
  case h_12 => grind [Text.isControl_iff]
  all_goals
    constructor
    · nofun
    · exact fun h => absurd h.right (by decide)

def ofFinal? : Char → Option Key
  | 'A' => some .up
  | 'B' => some .down
  | 'C' => some .right
  | 'D' => some .left
  | 'H' => some .home
  | 'F' => some .endOfLine
  | _ => none

def ofParams? : List Char → Option Key
  | ['1'] | ['7'] => some .home
  | ['4'] | ['8'] => some .endOfLine
  | ['3'] => some .delete
  | _ => none

end Key

end VirtualShell
