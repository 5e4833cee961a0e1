import VirtualShell.RingBuffer
import VirtualShell.Text.Blank

namespace VirtualShell

-- The cursor's last position, below the newest line, stands for a line that is not there yet.
structure History where
  entries : RingBuffer String
  cursor : Nat
  deriving DecidableEq

namespace History

def defaultCapacity : Nat := 1000

def ofCapacity (capacity : Nat) : History := ⟨.ofCapacity (max capacity 1), 0⟩

def size (h : History) : Nat := h.entries.size

def capacity (h : History) : Nat := h.entries.capacity

def all (h : History) : List String := h.entries.toList

def get? (h : History) (index : Nat) : Option String := h.entries.get? index

def add (h : History) (line : String) : History :=
  let entries :=
    if Text.allBlank line ∨ h.entries.last? = some line then h.entries else (h.entries.push line).1
  ⟨entries, entries.size⟩

def previous (h : History) : Option String × History :=
  if h.cursor = 0 then (none, h)
  else (h.entries.get? (h.cursor - 1), { h with cursor := h.cursor - 1 })

theorem previous_eq (h : History) : ∃ cursor, h.previous.2 = { h with cursor } := by
  unfold previous
  split
  · exact ⟨h.cursor, rfl⟩
  · exact ⟨_, rfl⟩

-- Stepping below the newest line gives the empty text once, and nothing after that.
def next (h : History) : Option String × History :=
  if h.size ≤ h.cursor then (none, h)
  else
    let cursor := h.cursor + 1
    (if cursor = h.size then some "" else h.entries.get? cursor, { h with cursor })

theorem next_eq (h : History) : ∃ cursor, h.next.2 = { h with cursor } := by
  unfold next
  split
  · exact ⟨h.cursor, rfl⟩
  · exact ⟨_, rfl⟩

end History

end VirtualShell
