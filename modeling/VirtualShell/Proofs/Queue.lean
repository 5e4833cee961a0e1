import VirtualShell.RingBuffer

namespace VirtualShell.RingBuffer

variable {α : Type} {b : RingBuffer α}

structure Sound (b : RingBuffer α) : Prop where
  head_lt : b.head < b.capacity
  size_le : b.size ≤ b.capacity
  held    : ∀ i < b.size, (b.get? i).isSome

theorem sound_ofCapacity {capacity : Nat} (h : 0 < capacity) : (ofCapacity capacity : RingBuffer α).Sound where
  head_lt := by simpa [ofCapacity, RingBuffer.capacity] using h
  size_le := Nat.zero_le _
  held    := nofun

-- Positions less than a whole turn apart have slots of their own.
theorem slot_ne {i j : Nat} (lt : i < j) (turn : j < i + b.capacity) : b.slot i ≠ b.slot j := by
  intro eq
  have zero : (b.head + j - (b.head + i)) % b.capacity = 0 := Nat.sub_mod_eq_zero_of_mod_eq eq.symm
  rw [Nat.add_sub_add_left, Nat.mod_eq_of_lt (by omega)] at zero
  omega

theorem get?_of_size_le {i : Nat} (h : b.size ≤ i) : b.get? i = none :=
  if_neg (Nat.not_lt.mpr h)

namespace Sound

theorem map_some_toList (h : b.Sound) : b.toList.map some = (List.range b.size).map b.get? := by
  rw [toList, List.map_filterMap_some_eq_filter_map_isSome, List.filter_eq_self]
  exact List.forall_mem_map.mpr fun i hi => h.held i (List.mem_range.mp hi)

theorem length_toList (h : b.Sound) : b.toList.length = b.size := by
  simpa using congrArg List.length h.map_some_toList

theorem getElem?_toList (h : b.Sound) (i : Nat) : b.toList[i]? = b.get? i := by
  by_cases hi : i < b.size
  case pos =>
    have : (b.toList.map some)[i]? = some (b.get? i) := by simp [h.map_some_toList, hi]
    have hl : i < b.toList.length := h.length_toList.symm ▸ hi
    simpa [hl] using this
  case neg =>
    rw [get?_of_size_le (Nat.le_of_not_lt hi), List.getElem?_eq_none]
    rw [h.length_toList]
    exact Nat.le_of_not_lt hi

theorem last?_eq (h : b.Sound) : b.last? = b.toList.getLast? := by
  rw [List.getLast?_eq_getElem?, h.getElem?_toList, h.length_toList, last?]
  split
  case isTrue hz => rw [get?_of_size_le (by omega)]
  case isFalse => rfl

end Sound

def displaced (b : RingBuffer α) : Nat := if b.size = b.capacity then 1 else 0

theorem capacity_push (b : RingBuffer α) (item : α) : (b.push item).1.capacity = b.capacity := by
  unfold push
  split <;> simp [capacity]

theorem size_push (b : RingBuffer α) (item : α) :
    (b.push item).1.size = b.size + 1 - b.displaced := by
  unfold push displaced
  split <;> simp

theorem slot_push (b : RingBuffer α) (item : α) (i : Nat) :
    (b.push item).1.slot i = b.slot (i + b.displaced) := by
  rw [slot, capacity_push]
  unfold push displaced
  split
  case isTrue => rw [Nat.mod_add_mod, slot, Nat.add_assoc, Nat.add_comm 1]
  case isFalse => rfl

theorem slots_push (b : RingBuffer α) (item : α) :
    (b.push item).1.slots = b.slots.setIfInBounds (b.slot b.size) (some item) := by
  unfold push
  split <;> rfl

namespace Sound

theorem slot_lt (h : b.Sound) (index : Nat) : b.slot index < b.slots.size :=
  Nat.mod_lt _ (Nat.zero_lt_of_lt h.head_lt)

theorem get?_push (h : b.Sound) (item : α) (i : Nat) :
    (b.push item).1.get? i =
      if i + b.displaced = b.size then some item else b.get? (i + b.displaced) := by
  have := h.size_le
  simp only [get?, slot_push, slots_push, size_push, Array.getElem?_setIfInBounds]
  by_cases hi : i + b.displaced = b.size
  case pos =>
    have : i < b.size + 1 - b.displaced := by omega
    simp [hi, this, h.slot_lt]
  case neg =>
    by_cases lt : i + b.displaced < b.size
    case pos =>
      have turn : b.size < i + b.displaced + b.capacity := by unfold displaced; split <;> omega
      have : i < b.size + 1 - b.displaced := by omega
      simp [hi, lt, this, (slot_ne lt turn).symm]
    case neg =>
      have : ¬i < b.size + 1 - b.displaced := by omega
      simp [hi, lt, this]

theorem push (h : b.Sound) (item : α) : (b.push item).1.Sound where
  head_lt := by
    have := h.head_lt
    rw [capacity_push]
    unfold RingBuffer.push
    split
    · exact Nat.mod_lt _ (Nat.zero_lt_of_lt this)
    · exact this
  size_le := by
    have := h.size_le
    rw [capacity_push, size_push, displaced]
    split <;> omega
  held i hi := by
    rw [h.get?_push]
    split
    case isTrue => rfl
    case isFalse ne =>
      rw [size_push] at hi
      exact h.held _ (by omega)

theorem toList_push (h : b.Sound) (item : α) :
    (b.push item).1.toList = (b.toList ++ [item]).drop b.displaced := by
  apply List.ext_getElem?
  intro i
  rw [(h.push item).getElem?_toList, h.get?_push, List.getElem?_drop, Nat.add_comm b.displaced,
    List.getElem?_append, h.length_toList]
  by_cases hi : i + b.displaced = b.size
  case pos => simp [hi]
  case neg =>
    by_cases lt : i + b.displaced < b.size
    case pos => simp [hi, lt, h.getElem?_toList]
    case neg =>
      have : i + b.displaced - b.size ≠ 0 := by omega
      simp [hi, lt, get?_of_size_le (Nat.le_of_not_lt lt), this]

theorem push_snd (h : b.Sound) (item : α) :
    (b.push item).2 = if b.size = b.capacity then b.toList.head? else none := by
  unfold RingBuffer.push
  split
  case isFalse => rfl
  case isTrue full =>
    have pos : 0 < b.size := full ▸ Nat.zero_lt_of_lt h.head_lt
    -- the slot behind the newest element is a whole turn away from the oldest
    have oldest : b.slot b.size = b.slot 0 := by rw [full, slot, Nat.add_mod_right, slot, Nat.add_zero]
    have first : b.get? 0 = (b.slots[b.slot 0]?).join := if_pos pos
    rw [List.head?_eq_getElem?, h.getElem?_toList, first, oldest]

theorem push_of_full (h : b.Sound) (full : b.size = b.capacity) :
    ∃ oldest later, b.toList = oldest :: later ∧ ∀ item, (b.push item).2 = some oldest := by
  have pos : 0 < b.toList.length := by
    rw [h.length_toList, full]
    exact Nat.zero_lt_of_lt h.head_lt
  have ⟨oldest, later, eq⟩ := List.exists_cons_of_length_pos pos
  exact ⟨oldest, later, eq, fun item => by rw [h.push_snd, if_pos full, eq, List.head?_cons]⟩

theorem push_of_room (h : b.Sound) (room : b.size ≠ b.capacity) (item : α) : (b.push item).2 = none := by
  rw [h.push_snd, if_neg room]

theorem push_conserves (h : b.Sound) (item : α) :
    (b.push item).2.toList ++ (b.push item).1.toList = b.toList ++ [item] := by
  by_cases full : b.size = b.capacity
  case pos =>
    have ⟨oldest, later, eq, goes⟩ := h.push_of_full full
    simp [goes, h.toList_push, displaced, full, eq]
  case neg => simp [h.push_of_room full, h.toList_push, displaced, full]

end Sound

def evictions (b : RingBuffer α) : List α → List α
  | [] => []
  | item :: items => (b.push item).2.toList ++ (b.push item).1.evictions items

theorem capacity_pushAll (b : RingBuffer α) (items : List α) : (b.pushAll items).capacity = b.capacity := by
  induction items generalizing b
  case nil => rfl
  case cons item items hi => exact (hi _).trans (b.capacity_push item)

namespace Sound

theorem pushAll (h : b.Sound) (items : List α) : (b.pushAll items).Sound := by
  induction items generalizing b
  case nil => exact h
  case cons item items hi => exact hi (h.push item)

theorem size_pushAll (h : b.Sound) (items : List α) :
    (b.pushAll items).size = min (b.size + items.length) b.capacity := by
  induction items generalizing b
  case nil => exact (Nat.min_eq_left h.size_le).symm
  case cons item items hi =>
    have le := h.size_le
    have first := b.size_push item
    have all : ((b.push item).1.pushAll items).size = min ((b.push item).1.size + items.length) b.capacity :=
      b.capacity_push item ▸ hi (h.push item)
    unfold displaced at first
    rw [RingBuffer.pushAll, List.foldl_cons, ← RingBuffer.pushAll, all, first, List.length_cons]
    split <;> omega

theorem pushAll_conserves (h : b.Sound) (items : List α) :
    b.evictions items ++ (b.pushAll items).toList = b.toList ++ items := by
  induction items generalizing b
  case nil => simp [evictions, RingBuffer.pushAll]
  case cons item items hi =>
    calc b.evictions (item :: items) ++ (b.pushAll (item :: items)).toList
      _ = (b.push item).2.toList ++ ((b.push item).1.evictions items ++ ((b.push item).1.pushAll items).toList) :=
        List.append_assoc ..
      _ = (b.push item).2.toList ++ (b.push item).1.toList ++ items := by
        rw [hi (h.push item), List.append_assoc]
      _ = b.toList ++ item :: items := by
        rw [h.push_conserves, List.append_assoc, List.singleton_append]

theorem toList_pushAll (h : b.Sound) (items : List α) : (b.pushAll items).toList =
    (b.toList ++ items).drop (b.size + items.length - b.capacity) := by
  have le := h.size_le
  have conserved := h.pushAll_conserves items
  have held : (b.pushAll items).toList.length = min (b.size + items.length) b.capacity := by
    rw [(h.pushAll items).length_toList, h.size_pushAll]
  have gone : (b.evictions items).length = b.size + items.length - b.capacity := by
    have total := congrArg List.length conserved
    simp only [List.length_append, held, h.length_toList] at total
    omega
  rw [← conserved, ← gone, List.drop_left]

end Sound

-- A pass that gives these elements and is over then. Before each of its steps it tells how many
-- are left.
inductive Scan.Gives : Scan α → List α → Prop
  | done {s : Scan α} (size : s.remaining = 0) (ended : s.next? = none) : Gives s []
  | item {s rest : Scan α} {item : α} {items : List α} (size : s.remaining = items.length + 1)
    (next : s.next? = some (item, rest)) (later : Gives rest items) : Gives s (item :: items)

namespace Sound

theorem gives_drop (h : b.Sound) (front : Nat) : Scan.Gives ⟨b, front, b.size⟩ (b.toList.drop front) := by
  by_cases inside : front < b.toList.length
  case pos =>
    have lt : front < b.size := h.length_toList ▸ inside
    have found : b.get? front = some b.toList[front] := by
      rw [← h.getElem?_toList, List.getElem?_eq_getElem inside]
    rw [List.drop_eq_getElem_cons inside]
    refine .item ?size ?next (h.gives_drop (front + 1))
    case size =>
      simp only [Scan.remaining, List.length_drop, h.length_toList]
      omega
    case next => simp [Scan.next?, lt, found]
  case neg =>
    have le : b.size ≤ front := h.length_toList ▸ Nat.le_of_not_lt inside
    rw [List.drop_eq_nil_of_le (Nat.le_of_not_lt inside)]
    exact .done (Nat.sub_eq_zero_of_le le) (if_neg (Nat.not_lt.mpr le))
termination_by b.toList.length - front

theorem gives_toList (h : b.Sound) : b.scan.Gives b.toList := h.gives_drop 0

end Sound

theorem holds_last_pushed {capacity : Nat} (pos : 1 ≤ capacity) (items : List α) :
    ∃ fresh, new capacity = .ok fresh ∧
      let b := fresh.pushAll items
      let held := items.drop (items.length - capacity)
      b.head < capacity ∧ b.size ≤ capacity ∧ b.slots.size = capacity ∧
      (∀ index, b.slot index < b.slots.size) ∧
      b.size = min items.length capacity ∧ b.toList = held ∧ b.scan.Gives held ∧
      (∀ index, b.get? index = held[index]?) ∧ (∀ index, b.size ≤ index → b.get? index = none) ∧
      b.last? = items.getLast? ∧
      (b.size = capacity → ∃ oldest later, held = oldest :: later ∧ ∀ item, (b.push item).2 = some oldest) ∧
      (b.size ≠ capacity → ∀ item, (b.push item).2 = none) ∧
      fresh.evictions items ++ held = items := by
  refine ⟨ofCapacity capacity, if_neg (Nat.ne_of_gt pos), ?_⟩
  intro b held
  have fresh : (ofCapacity capacity : RingBuffer α).Sound := sound_ofCapacity pos
  have room : (ofCapacity capacity : RingBuffer α).capacity = capacity := by simp [ofCapacity, RingBuffer.capacity]
  have sound : b.Sound := fresh.pushAll items
  have slots : b.capacity = capacity := (capacity_pushAll ..).trans room
  have none : (ofCapacity capacity : RingBuffer α).toList = [] := rfl
  have size : b.size = min items.length capacity := by
    rw [fresh.size_pushAll, room]
    simp [ofCapacity]
  have list : b.toList = held := by
    rw [fresh.toList_pushAll, none, room]
    simp [ofCapacity, held]
  have conserved : (ofCapacity capacity).evictions items ++ b.toList = items := by
    rw [fresh.pushAll_conserves, none, List.nil_append]
  have last : held.getLast? = items.getLast? := by
    rw [List.getLast?_drop]
    split
    case isTrue gone => exact (List.getLast?_eq_none_iff.mpr (List.length_eq_zero_iff.mp (by omega))).symm
    case isFalse => rfl
  rw [← list, ← slots]
  exact ⟨sound.head_lt, sound.size_le, rfl, sound.slot_lt, slots ▸ size, rfl, sound.gives_toList,
    fun index => (sound.getElem?_toList index).symm, fun _ => get?_of_size_le,
    sound.last?_eq.trans (list ▸ last), sound.push_of_full, sound.push_of_room, slots ▸ conserved⟩

theorem holds_last_pushed_wrapped :
    let fresh : RingBuffer Nat := ofCapacity 3
    let b := fresh.pushAll [0, 1, 2, 3, 4, 5, 6, 7]
    1 ≤ 3 ∧ b.head = 2 ∧ b.toList = [5, 6, 7] ∧ b.scan.Gives [5, 6, 7] ∧ b.get? 1 = some 6 ∧ b.last? = some 7 ∧
      (b.push 8).2 = some 5 ∧ fresh.evictions [0, 1, 2, 3, 4, 5, 6, 7] = [0, 1, 2, 3, 4] := by
  intro fresh b
  have pos : 1 ≤ 3 := by decide
  have ⟨made, eq, bounds⟩ := holds_last_pushed pos [0, 1, 2, 3, 4, 5, 6, 7]
  cases Except.ok.inj eq
  have ⟨_, _, _, _, _, list, gives, get, _, last, full, _, conserved⟩ := bounds
  have ⟨oldest, later, held, goes⟩ := full (by decide)
  cases held
  exact ⟨pos, by decide, list, gives, get 1, last, goes 8, List.append_cancel_right conserved⟩

end VirtualShell.RingBuffer
