import VirtualShell.Text.Cut
import VirtualShell.Text.Width

namespace VirtualShell

-- The cursor counts characters, while the text is changed at the octet offset that it stands for.
structure Line where
  text : String
  cursor : Nat
  deriving DecidableEq, Repr

namespace Line

def empty : Line := ⟨"", 0⟩

def take (l : Line) : String × Line := (l.text, empty)

def ofText (text : String) : Line := ⟨text, text.length⟩

def size (l : Line) : Nat := l.text.length

def isEmpty (l : Line) : Bool := l.text.isEmpty

def offset (l : Line) (chars : Nat) : Nat := Text.octets (l.text.toList.take chars)

def cut? (l : Line) : Option (List Char × List Char) :=
  Text.cut? (l.offset l.cursor) l.text.toList

theorem cut?_eq (l : Line) :
    l.cut? = some (l.text.toList.take l.cursor, l.text.toList.drop l.cursor) := by
  have := Text.cut?_octets (l.text.toList.take l.cursor) (l.text.toList.drop l.cursor)
  rwa [List.take_append_drop] at this

def columnsAfter (l : Line) : Nat :=
  match l.cut? with
  | some (_, after) => Text.width after
  | none => 0

def insert (l : Line) (c : Char) : Line :=
  match l.cut? with
  | some (before, after) => ⟨String.ofList (before ++ c :: after), l.cursor + 1⟩
  | none => l

def removeHere (l : Line) : Line :=
  match l.cut? with
  | some (before, _ :: after) => { l with text := String.ofList (before ++ after) }
  | _ => l

theorem toList_insert (l : Line) (c : Char) :
    (l.insert c).text.toList = l.text.toList.take l.cursor ++ c :: l.text.toList.drop l.cursor := by
  simp [insert, cut?_eq]

theorem toList_removeHere (l : Line) : l.removeHere.text.toList = l.text.toList.eraseIdx l.cursor := by
  rw [removeHere, cut?_eq]
  cases h : l.text.toList.drop l.cursor
  case nil =>
    have : l.text.toList.length ≤ l.cursor := by simpa using h
    rw [List.eraseIdx_of_length_le this]
  case cons c after =>
    have : l.text.toList.drop (l.cursor + 1) = after := by rw [← List.tail_drop, h, List.tail_cons]
    simp [List.eraseIdx_eq_take_drop_succ, this]

def backspace (l : Line) : Bool × Line :=
  if l.cursor = 0 then (false, l) else (true, removeHere { l with cursor := l.cursor - 1 })

def delete (l : Line) : Bool × Line :=
  if l.size ≤ l.cursor then (false, l) else (true, l.removeHere)

def left (l : Line) : Bool × Line :=
  if l.cursor = 0 then (false, l) else (true, { l with cursor := l.cursor - 1 })

def right (l : Line) : Bool × Line :=
  if l.size ≤ l.cursor then (false, l) else (true, { l with cursor := l.cursor + 1 })

def home (l : Line) : Bool × Line := (l.cursor != 0, { l with cursor := 0 })

def toEnd (l : Line) : Bool × Line := (l.cursor != l.size, { l with cursor := l.size })

end Line

end VirtualShell
