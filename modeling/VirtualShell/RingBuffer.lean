namespace VirtualShell

-- A queue of bounded size in a fixed array of slots, of which those in use follow on each other and
-- may run on from the last slot to the first.
structure RingBuffer (α : Type) where
  slots : Array (Option α)
  -- the slot of the oldest element
  head : Nat
  size : Nat
  deriving DecidableEq

inductive RingError
  | noCapacity
  deriving DecidableEq, Repr

def RingError.message : RingError → String
  | .noCapacity => "RingBuffer capacity must be greater than 0"

namespace RingBuffer

variable {α : Type}

def ofCapacity (capacity : Nat) : RingBuffer α := ⟨Array.replicate capacity none, 0, 0⟩

def new (capacity : Nat) : Except RingError (RingBuffer α) :=
  if capacity = 0 then .error .noCapacity else .ok (ofCapacity capacity)

def capacity (b : RingBuffer α) : Nat := b.slots.size

def isEmpty (b : RingBuffer α) : Bool := b.size = 0

def slot (b : RingBuffer α) (index : Nat) : Nat := (b.head + index) % b.capacity

def get? (b : RingBuffer α) (index : Nat) : Option α :=
  if index < b.size then (b.slots[b.slot index]?).join else none

theorem mem_slots_of_get? {b : RingBuffer α} {index : Nat} {item : α} (h : b.get? index = some item) :
    some item ∈ b.slots := by
  simp only [get?, Option.ite_none_right_eq_some, Option.join_eq_some_iff] at h
  exact Array.mem_of_getElem? h.right

def last? (b : RingBuffer α) : Option α :=
  if b.size = 0 then none else b.get? (b.size - 1)

-- Adds an element and hands back the one that had to go for it.
def push (b : RingBuffer α) (item : α) : RingBuffer α × Option α :=
  let slot := b.slot b.size
  let slots := b.slots.setIfInBounds slot (some item)
  if b.size = b.capacity then
    (⟨slots, (b.head + 1) % b.capacity, b.size⟩, (b.slots[slot]?).join)
  else (⟨slots, b.head, b.size + 1⟩, none)

theorem mem_slots_push {b : RingBuffer α} {item x : α} (h : some x ∈ (b.push item).1.slots) :
    x = item ∨ some x ∈ b.slots := by
  have h : some x ∈ b.slots.setIfInBounds (b.slot b.size) (some item) := by
    unfold push at h
    split at h <;> exact h
  cases Array.mem_or_eq_of_mem_setIfInBounds h
  case inl h => exact .inr h
  case inr h => exact .inl (Option.some.inj h)

def pushAll (b : RingBuffer α) (items : List α) : RingBuffer α :=
  items.foldl (fun b item => (b.push item).1) b

def toList (b : RingBuffer α) : List α := (List.range b.size).filterMap b.get?

theorem mem_slots_of_mem_toList {b : RingBuffer α} {item : α} (h : item ∈ b.toList) :
    some item ∈ b.slots := by
  have ⟨_, _, h⟩ := List.mem_filterMap.mp h
  exact mem_slots_of_get? h

structure Scan (α : Type) where
  buffer : RingBuffer α
  front : Nat
  back : Nat

def scan (b : RingBuffer α) : Scan α := ⟨b, 0, b.size⟩

namespace Scan

def remaining (s : Scan α) : Nat := s.back - s.front

def next? (s : Scan α) : Option (α × Scan α) :=
  if s.front < s.back then
    (s.buffer.get? s.front).map fun item => (item, { s with front := s.front + 1 })
  else none

end Scan

def describe (b : RingBuffer α) (element : α → String) : String :=
  "RingBuffer \x7b len: " ++ toString b.size ++ ", capacity: " ++ toString b.capacity
    ++ ", elements: [" ++ ", ".intercalate (b.toList.map element) ++ "] \x7d"

end RingBuffer

end VirtualShell
