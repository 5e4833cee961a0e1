import VirtualShell.Proofs.Alphabet
import VirtualShell.Screen

namespace VirtualShell

namespace Terminal

def IsIdeograph (c : Char) : Prop := 0x4E00 ≤ c.toNat ∧ c.toNat ≤ 0x9FFF

instance (c : Char) : Decidable (IsIdeograph c) := inferInstanceAs (Decidable (_ ∧ _))

def glyphs : Alphabet where
  Has   := fun c => 0x20 ≤ c.toNat ∧ c.toNat ≤ 0x7E ∨ IsIdeograph c
  ascii := fun _ h => .inl h

instance (c : Char) : Decidable (glyphs.Has c) := inferInstanceAs (Decidable (_ ∨ _))

inductive Cell
  | blank
  | glyph (c : Char)
  -- the right half of a wide glyph
  | half
  deriving DecidableEq, Repr

def breadth (c : Char) : Nat := if IsIdeograph c then 2 else 1

def columns : List Char → Nat
  | [] => 0
  | c :: s => breadth c + columns s

def cell (c : Char) : List Cell := .glyph c :: List.replicate (breadth c - 1) .half

def cells (s : List Char) : List Cell := s.flatMap cell

theorem length_cells (s : List Char) : (cells s).length = columns s := by
  induction s
  case nil => rfl
  case cons c s hi =>
    have : (cell c).length = breadth c := by
      unfold cell breadth
      split <;> rfl
    simp only [cells, columns, List.flatMap_cons, List.length_append, this]
    exact congrArg _ hi

theorem columns_append (a b : List Char) : columns (a ++ b) = columns a + columns b := by
  induction a
  case nil => simp [columns]
  case cons c a hi => simp [columns, hi, Nat.add_assoc]

theorem columns_pos {s : List Char} (h : s ≠ []) : 0 < columns s := by
  have ⟨c, rest, eq⟩ := List.exists_cons_of_ne_nil h
  have : 0 < breadth c := by
    unfold breadth
    split <;> decide
  rw [eq, columns]
  omega

theorem cells_append (a b : List Char) : cells (a ++ b) = cells a ++ cells b := List.flatMap_append

inductive Mode
  | ground
  | escape
  | control (params : List Char)
  deriving DecidableEq, Repr

end Terminal

-- A terminal of unbounded width, as rows of cells and a cursor. It obeys the control sequences that a
-- session sends, and takes in and passes over all others, which is why a sequence that breaks off is
-- part of its state.
structure Terminal where
  -- the rows above the cursor's, the nearest one first
  above  : List (List Terminal.Cell)
  row    : List Terminal.Cell
  below  : List (List Terminal.Cell)
  column : Nat
  mode   : Terminal.Mode
  deriving DecidableEq, Repr

namespace Terminal

def empty : Terminal := ⟨[], [], [], 0, .ground⟩

def put (t : Terminal) (c : Char) : Terminal :=
  let blanks := List.replicate (t.column - t.row.length) .blank
  { t with
    row := t.row.take t.column ++ blanks ++ cell c ++ t.row.drop (t.column + breadth c)
    column := t.column + breadth c }

def down (t : Terminal) : Terminal :=
  { t with above := t.row :: t.above, row := t.below.headD [], below := t.below.tail }

def clear (t : Terminal) : Terminal :=
  { t with above := t.above.map fun _ => [], row := [], below := t.below.map fun _ => [] }

def home (t : Terminal) : Terminal :=
  match t.above.reverse with
  | [] => { t with column := 0 }
  | top :: rows => { t with above := [], row := top, below := rows ++ t.row :: t.below, column := 0 }

-- A whole control sequence, given its parameters and its last character. Colors change no cell.
def control (t : Terminal) (params : List Char) : Char → Terminal
  | 'D' => { t with column := t.column - max 1 (Nat.ofDigitChars 10 params 0) }
  | 'H' => if params = [] then t.home else t
  | 'J' => if params = ['2'] then t.clear else t
  | 'K' => if params = ['2'] then { t with row := [] } else t
  | _ => t

def isParameter (c : Char) : Bool := 0x30 ≤ c.toNat && c.toNat ≤ 0x3F

def step (t : Terminal) (c : Char) : Terminal :=
  match t.mode with
  | .ground =>
    if c = '\r' then { t with column := 0 }
    else if c = '\n' then t.down
    else if c = '\x1b' then { t with mode := .escape }
    else if c.toNat < 0x20 ∨ c.toNat = 0x7F then t
    else t.put c
  | .escape => { t with mode := if c = '[' then .control [] else .ground }
  | .control params =>
    if isParameter c then { t with mode := .control (params ++ [c]) }
    else { t with mode := .ground }.control params c

def write (t : Terminal) (s : List Char) : Terminal := s.foldl step t

theorem write_append (t : Terminal) (a b : List Char) : t.write (a ++ b) = (t.write a).write b :=
  List.foldl_append

@[simp] theorem write_nil (t : Terminal) : t.write [] = t := rfl

@[simp] theorem write_cons (t : Terminal) (c : Char) (s : List Char) :
    t.write (c :: s) = (t.step c).write s := rfl

variable {t : Terminal}

structure Settled (t : Terminal) : Prop where
  ground : t.mode = .ground
  below  : ∀ row ∈ t.below, row = []

-- The cursor's row holds a text and nothing else, and the cursor stands within it.
structure Shows (t : Terminal) (front back : List Char) : Prop extends Settled t where
  row    : t.row = cells (front ++ back)
  column : t.column = columns front

theorem shows_empty : empty.Shows [] [] := ⟨⟨rfl, nofun⟩, rfl, rfl⟩

theorem step_glyph {c : Char} (h : t.mode = .ground) (hc : glyphs.Has c) : t.step c = t.put c := by
  have : 0x20 ≤ c.toNat ∧ c.toNat ≠ 0x7F := by
    simp only [glyphs, IsIdeograph] at hc
    omega
  have ne {d : Char} (hd : d.toNat < 0x20) : c ≠ d := by
    intro eq
    subst eq
    omega
  have control : ¬(c.toNat < 0x20 ∨ c.toNat = 0x7F) := by omega
  simp only [step, h, ne (d := '\r') (by decide), ne (d := '\n') (by decide),
    ne (d := '\x1b') (by decide), control, if_false]

theorem Settled.put (h : t.Settled) (c : Char) : (t.put c).Settled := ⟨h.ground, h.below⟩

theorem Settled.return (h : t.Settled) : (t.step '\r').Settled ∧ (t.step '\r').column = 0 := by
  have : t.step '\r' = { t with column := 0 } := by simp [step, h.ground]
  rw [this]
  exact ⟨⟨h.ground, h.below⟩, rfl⟩

theorem Settled.down (h : t.Settled) :
    (t.step '\n').Settled ∧ (t.step '\n').row = [] ∧ (t.step '\n').column = t.column := by
  have : t.step '\n' = t.down := by simp [step, h.ground]
  rw [this]
  refine ⟨⟨h.ground, fun row hr => h.below row (List.mem_of_mem_tail hr)⟩, ?_, rfl⟩
  cases hb : t.below
  case nil => simp [Terminal.down, hb]
  case cons row rows => simpa [Terminal.down, hb] using h.below row (hb ▸ .head _)

theorem Settled.write (h : t.Settled) {s : List Char} (hs : ∀ c ∈ s, glyphs.Has c ∨ c = '\r' ∨ c = '\n') :
    (t.write s).Settled := by
  induction s generalizing t
  case nil => exact h
  case cons c s hi =>
    have ⟨hc, hs⟩ := List.forall_mem_cons.mp hs
    refine hi ?_ hs
    cases hc
    case inl hc => exact step_glyph h.ground hc ▸ h.put c
    case inr hc =>
      cases hc
      case inl hc => exact hc ▸ h.return.left
      case inr hc => exact hc ▸ h.down.left

theorem Settled.newLine (h : t.Settled) : (t.write ['\r', '\n']).Shows [] [] := by
  have ⟨first, left⟩ := h.return
  have ⟨second, row, column⟩ := first.down
  exact ⟨second, row, column.trans left⟩

theorem Shows.put {front : List Char} (h : t.Shows front []) (c : Char) :
    (t.put c).Shows (front ++ [c]) [] := by
  have row : t.row = cells front := by simpa using h.row
  have column : t.column = t.row.length := by rw [h.column, row, length_cells]
  refine ⟨h.toSettled.put c, ?_, ?_⟩
  · rw [List.append_nil, cells_append, ← row]
    simp [Terminal.put, column, List.drop_eq_nil_of_le, cells]
  · simp [Terminal.put, h.column, columns_append, columns]

theorem Shows.write {front : List Char} (h : t.Shows front []) {s : List Char}
    (hs : ∀ c ∈ s, glyphs.Has c) : (t.write s).Shows (front ++ s) [] := by
  induction s generalizing t front
  case nil => simpa using h
  case cons c s hi =>
    have ⟨hc, hs⟩ := List.forall_mem_cons.mp hs
    have shown : (t.put c).Shows (front ++ [c]) [] := h.put c
    have step : t.step c = t.put c := step_glyph h.ground hc
    simpa [step] using hi shown hs

theorem write_bell (h : t.mode = .ground) : t.write ['\x07'] = t := by
  simp [step, h]

theorem write_escape (h : t.mode = .ground) :
    t.write ['\x1b', '['] = { t with mode := .control [] } := by
  simp [step, h]

theorem write_params {params more : List Char} (h : t.mode = .control params)
    (hp : more.all isParameter) :
    t.write more = { t with mode := .control (params ++ more) } := by
  induction more generalizing t params
  case nil => simp [← h]
  case cons c more hi =>
    have ⟨hc, hp⟩ : isParameter c ∧ more.all isParameter := by simpa using hp
    have : t.step c = { t with mode := .control (params ++ [c]) } := by simp [step, h, hc]
    rw [write_cons, this, hi rfl hp]
    simp

theorem write_sequence (h : t.mode = .ground) (params : List Char) (final : Char)
    (hp : params.all isParameter) (hf : isParameter final = false) :
    t.write (['\x1b', '['] ++ params ++ [final]) = t.control params final := by
  have ground : { t with mode := .ground } = t := by simp [← h]
  rw [write_append, write_append, write_escape h, write_params rfl hp]
  simp [step, hf, ground]

theorem write_color (h : t.mode = .ground) (color : Color) :
    t.write ("\x1b[" ++ Screen.colorCode color ++ "m").toList = t := by
  have code : (Screen.colorCode color).toList.all isParameter := by
    cases color <;> decide
  simpa [control] using write_sequence h (Screen.colorCode color).toList 'm' code rfl

theorem write_resetColor (h : t.mode = .ground) : t.write Screen.resetColor.toList = t :=
  write_sequence h ['0'] 'm' rfl rfl

theorem Settled.eraseLine (h : t.Settled) : (t.write ['\r', '\x1b', '[', '2', 'K']).Shows [] [] := by
  have ⟨first, left⟩ := h.return
  have erased := write_sequence first.ground ['2'] 'K' rfl rfl
  rw [write_cons]
  exact erased ▸ ⟨⟨first.ground, first.below⟩, rfl, left⟩

theorem shows_home (ground : t.mode = .ground) (row : t.row = []) (above : ∀ row ∈ t.above, row = [])
    (below : ∀ row ∈ t.below, row = []) : t.home.Shows [] [] := by
  unfold home
  split
  case h_1 => exact ⟨⟨ground, below⟩, row, rfl⟩
  case h_2 top rows hr =>
    have mem : ∀ r ∈ top :: rows, r = [] := by
      intro r hm
      exact above r (List.mem_reverse.mp (hr ▸ hm))
    have ⟨top, rows⟩ := List.forall_mem_cons.mp mem
    have others := List.forall_mem_append.mpr ⟨rows, List.forall_mem_cons.mpr ⟨row, below⟩⟩
    exact ⟨⟨ground, others⟩, top, rfl⟩

theorem Settled.clearScreen (h : t.Settled) :
    (t.write (['\x1b', '[', '2', 'J'] ++ ['\x1b', '[', 'H'])).Shows [] [] := by
  have cleared : t.write ['\x1b', '[', '2', 'J'] = t.clear :=
    write_sequence h.ground ['2'] 'J' rfl rfl
  have ground : t.clear.mode = .ground := h.ground
  have home : t.clear.write ['\x1b', '[', 'H'] = t.clear.home :=
    write_sequence ground [] 'H' rfl rfl
  rw [write_append, cleared, home]
  apply shows_home ground rfl
  all_goals simp [clear]

theorem Shows.cursorLeft {front back : List Char} (h : t.Shows (front ++ back) []) (hb : back ≠ []) :
    (t.write (['\x1b', '['] ++ (toString (columns back)).toList ++ ['D'])).Shows front back := by
  have number : (toString (columns back)).toList = Nat.toDigits 10 (columns back) := by
    rw [Nat.toString_eq_ofList_toDigits, String.toList_ofList]
  have digits : (Nat.toDigits 10 (columns back)).all isParameter := by
    refine List.all_eq_true.mpr fun c hc => ?_
    have : 48 ≤ c.toNat ∧ c.toNat ≤ 57 :=
      Char.isDigit_iff_toNat.mp (Nat.isDigit_of_mem_toDigits (by decide) (by decide) hc)
    simp only [isParameter, Bool.and_eq_true, decide_eq_true_eq]
    omega
  have positive := columns_pos hb
  rw [number, write_sequence h.ground _ 'D' digits rfl]
  have row : t.row = cells (front ++ back) := by simpa using h.row
  refine ⟨⟨h.ground, h.below⟩, row, ?_⟩
  simp only [control, Nat.ofDigitChars_ten_toDigits, h.column, columns_append]
  omega

end Terminal

end VirtualShell
