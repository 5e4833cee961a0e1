import VirtualShell.Line

namespace VirtualShell

theorem Text.octets_eq (s : List Char) : octets s = (String.ofList s).utf8ByteSize := by
  induction s
  case nil => rfl
  case cons c s hi =>
    have spelled : String.ofList (c :: s) = String.singleton c ++ String.ofList s := by
      apply String.toList_injective
      simp
    rw [octets, hi, spelled, String.utf8ByteSize_append, String.utf8ByteSize_singleton]

namespace Line

inductive Edit
  | insert (c : Char)
  | backspace
  | delete
  | left
  | right
  | home
  | toEnd
  | set (text : String)
  | take
  | clear
  | columns
  deriving DecidableEq, Repr

inductive Reply
  | done
  | changed (b : Bool)
  | text (s : String)
  | columns (n : Nat)
  deriving DecidableEq, Repr

def reply {σ : Type} (r : Bool × σ) : σ × Reply := (r.2, .changed r.1)

def answer (l : Line) : Edit → Line × Reply
  | .insert c => (l.insert c, .done)
  | .backspace => reply l.backspace
  | .delete => reply l.delete
  | .left => reply l.left
  | .right => reply l.right
  | .home => reply l.home
  | .toEnd => reply l.toEnd
  | .set text => (ofText text, .done)
  | .take => (l.take.2, .text l.take.1)
  | .clear => (empty, .done)
  | .columns => (l, .columns l.columnsAfter)

def answerAll {σ : Type} (answer : σ → Edit → σ × Reply) (state : σ) : List Edit → σ × List Reply
  | [] => (state, [])
  | edit :: edits =>
    let (state, reply) := answer state edit
    let (state, replies) := answerAll answer state edits
    (state, reply :: replies)

def insert? (l : Line) (c : Char) : Option Line :=
  l.cut?.map fun (before, after) => ⟨String.ofList (before ++ c :: after), l.cursor + 1⟩

def removeHere? (l : Line) : Option Line :=
  match l.cut? with
  | some (before, _ :: after) => some { l with text := String.ofList (before ++ after) }
  | _ => none

-- An answer that is none as soon as an octet offset does not lie between characters.
def answer? (l : Line) : Edit → Option (Line × Reply)
  | .insert c => (l.insert? c).map (·, .done)
  | .backspace =>
    if l.cursor = 0 then some (reply (false, l))
    else (removeHere? { l with cursor := l.cursor - 1 }).map fun l => reply (true, l)
  | .delete =>
    if l.size ≤ l.cursor then some (reply (false, l)) else l.removeHere?.map fun l => reply (true, l)
  | .columns => l.cut?.map fun (_, after) => (l, .columns (Text.width after))
  | edit => some (l.answer edit)

structure Zipper where
  -- from the cursor to the beginning
  before : List Char
  -- from the cursor to the end
  after : List Char
  deriving DecidableEq, Repr

namespace Zipper

def empty : Zipper := ⟨[], []⟩

def ofText (text : String) : Zipper := ⟨text.toList.reverse, []⟩

def chars (z : Zipper) : List Char := z.before.reverse ++ z.after

def insert (z : Zipper) (c : Char) : Zipper := ⟨c :: z.before, z.after⟩

def backspace : Zipper → Zipper
  | ⟨[], after⟩ => ⟨[], after⟩
  | ⟨_ :: before, after⟩ => ⟨before, after⟩

def delete : Zipper → Zipper
  | ⟨before, []⟩ => ⟨before, []⟩
  | ⟨before, _ :: after⟩ => ⟨before, after⟩

def left : Zipper → Zipper
  | ⟨[], after⟩ => ⟨[], after⟩
  | ⟨c :: before, after⟩ => ⟨before, c :: after⟩

def right : Zipper → Zipper
  | ⟨before, []⟩ => ⟨before, []⟩
  | ⟨before, c :: after⟩ => ⟨c :: before, after⟩

def home (z : Zipper) : Zipper := ⟨[], z.chars⟩

def toEnd (z : Zipper) : Zipper := ⟨z.chars.reverse, []⟩

def change (z : Zipper) (op : Zipper → Zipper) : Bool × Zipper := (op z ≠ z, op z)

def answer (z : Zipper) : Edit → Zipper × Reply
  | .insert c => (z.insert c, .done)
  | .backspace => reply (z.change backspace)
  | .delete => reply (z.change delete)
  | .left => reply (z.change left)
  | .right => reply (z.change right)
  | .home => reply (z.change home)
  | .toEnd => reply (z.change toEnd)
  | .set text => (ofText text, .done)
  | .take => (empty, .text (String.ofList z.chars))
  | .clear => (empty, .done)
  | .columns => (z, .columns (Text.width z.after))

end Zipper

def zipper (l : Line) : Zipper := ⟨(l.text.toList.take l.cursor).reverse, l.text.toList.drop l.cursor⟩

structure Parted (l : Line) (z : Zipper) : Prop where
  text   : l.text.toList = z.chars
  cursor : l.cursor = z.before.length

structure Changes (r : Bool × Line) (z : Zipper) (op : Zipper → Zipper) : Prop where
  flag   : r.1 = (z.change op).1
  parted : Parted r.2 (op z)

namespace Parted

variable {l : Line} {z : Zipper} {before after : List Char} {c : Char}

theorem empty : Parted .empty .empty := ⟨rfl, rfl⟩

theorem ofText (text : String) : Parted (.ofText text) (.ofText text) where
  text   := by simp [Line.ofText, Zipper.ofText, Zipper.chars]
  cursor := by simp [Line.ofText, Zipper.ofText, String.length_toList]

theorem size_eq (p : Parted l z) : l.size = z.before.length + z.after.length := by
  rw [size, ← String.length_toList, p.text]
  simp [Zipper.chars]

theorem cut?_eq (p : Parted l z) : l.cut? = some (z.before.reverse, z.after) := by
  rw [Line.cut?_eq, p.text, p.cursor, ← List.length_reverse]
  simp [Zipper.chars]

theorem zipper_eq (p : Parted l z) : l.zipper = z := by
  rw [zipper, p.text, p.cursor, ← List.length_reverse]
  simp [Zipper.chars]

theorem insert (p : Parted l z) (c : Char) : Parted (l.insert c) (z.insert c) where
  text   := by simp [Line.insert, p.cut?_eq, Zipper.insert, Zipper.chars]
  cursor := by simp [Line.insert, p.cut?_eq, Zipper.insert, p.cursor]

theorem removeHere (p : Parted l ⟨before, c :: after⟩) : Parted l.removeHere ⟨before, after⟩ where
  text   := by simp [Line.removeHere, p.cut?_eq, Zipper.chars]
  cursor := by simp [Line.removeHere, p.cut?_eq, p.cursor]

theorem stepLeft (p : Parted l ⟨c :: before, after⟩) :
    Parted { l with cursor := l.cursor - 1 } ⟨before, c :: after⟩ where
  text   := by simp [p.text, Zipper.chars]
  cursor := by simp [p.cursor]

theorem stepRight (p : Parted l ⟨before, c :: after⟩) :
    Parted { l with cursor := l.cursor + 1 } ⟨c :: before, after⟩ where
  text   := by simp [p.text, Zipper.chars]
  cursor := by simp [p.cursor]

theorem insert?_eq (p : Parted l z) (c : Char) : l.insert? c = some (l.insert c) := by
  simp [insert?, Line.insert, p.cut?_eq]

theorem removeHere?_eq (p : Parted l ⟨before, c :: after⟩) : l.removeHere? = some l.removeHere := by
  simp [removeHere?, Line.removeHere, p.cut?_eq]

theorem isValid_offset (p : Parted l z) : String.Pos.Raw.IsValid l.text ⟨l.offset l.cursor⟩ := by
  refine String.Pos.Raw.isValid_iff_exists_append.mpr ⟨String.ofList z.before.reverse, String.ofList z.after, ?_, ?_⟩
  · apply String.toList_injective
    simp [p.text, Zipper.chars]
  · rw [offset, p.text, p.cursor, ← List.length_reverse, Zipper.chars, List.take_left, Text.octets_eq]
    rfl

theorem left (p : Parted l z) : Changes l.left z .left := by
  obtain ⟨before, after⟩ := z
  cases before
  case nil =>
    have start : l.cursor = 0 := p.cursor
    simp only [Line.left, start, if_true]
    exact ⟨by simp [Zipper.change, Zipper.left], p⟩
  case cons c before =>
    have inside : l.cursor ≠ 0 := by simp [p.cursor]
    simp only [Line.left, inside, if_false]
    exact ⟨by simp [Zipper.change, Zipper.left], p.stepLeft⟩

theorem right (p : Parted l z) : Changes l.right z .right := by
  have size := p.size_eq
  obtain ⟨before, after⟩ := z
  cases after
  case nil =>
    have stop : l.size ≤ l.cursor := by simp [size, p.cursor]
    simp only [Line.right, stop, if_true]
    exact ⟨by simp [Zipper.change, Zipper.right], p⟩
  case cons c after =>
    have inside : ¬l.size ≤ l.cursor := by simp [size, p.cursor]
    simp only [Line.right, inside, if_false]
    exact ⟨by simp [Zipper.change, Zipper.right], p.stepRight⟩

theorem home (p : Parted l z) : Changes l.home z .home where
  flag := by
    have cursor := p.cursor
    obtain ⟨before, after⟩ := z
    cases before <;> simp [Line.home, cursor, Zipper.change, Zipper.home, Zipper.chars]
  parted := ⟨by simp [Line.home, p.text, Zipper.home, Zipper.chars], rfl⟩

theorem toEnd (p : Parted l z) : Changes l.toEnd z .toEnd where
  flag := by
    have size := p.size_eq
    have cursor := p.cursor
    obtain ⟨before, after⟩ := z
    cases after <;> simp [Line.toEnd, size, cursor, Zipper.change, Zipper.toEnd, Zipper.chars]
  parted := by
    refine ⟨by simp [Line.toEnd, p.text, Zipper.toEnd, Zipper.chars], ?_⟩
    simp [Line.toEnd, p.size_eq, Zipper.toEnd, Zipper.chars, Nat.add_comm]

theorem backspace (p : Parted l z) :
    Changes l.backspace z .backspace ∧ l.answer? .backspace = some (l.answer .backspace) := by
  obtain ⟨before, after⟩ := z
  cases before
  case nil =>
    have start : l.cursor = 0 := p.cursor
    unfold answer?
    simp only [Line.answer, Line.backspace, start, if_true]
    exact ⟨⟨by simp [Zipper.change, Zipper.backspace], p⟩, trivial⟩
  case cons c before =>
    have inside : l.cursor ≠ 0 := by simp [p.cursor]
    unfold answer?
    simp only [Line.answer, Line.backspace, inside, if_false, p.stepLeft.removeHere?_eq]
    exact ⟨⟨by simp [Zipper.change, Zipper.backspace], p.stepLeft.removeHere⟩, rfl⟩

theorem delete (p : Parted l z) :
    Changes l.delete z .delete ∧ l.answer? .delete = some (l.answer .delete) := by
  have size := p.size_eq
  obtain ⟨before, after⟩ := z
  cases after
  case nil =>
    have stop : l.size ≤ l.cursor := by simp [size, p.cursor]
    unfold answer?
    simp only [Line.answer, Line.delete, stop, if_true]
    exact ⟨⟨by simp [Zipper.change, Zipper.delete], p⟩, trivial⟩
  case cons c after =>
    have inside : ¬l.size ≤ l.cursor := by simp [size, p.cursor]
    unfold answer?
    simp only [Line.answer, Line.delete, inside, if_false, p.removeHere?_eq]
    exact ⟨⟨by simp [Zipper.change, Zipper.delete], p.removeHere⟩, rfl⟩

theorem columnsAfter_eq (p : Parted l z) : l.columnsAfter = Text.width z.after := by
  simp [columnsAfter, p.cut?_eq]

end Parted

theorem Changes.reply {z : Zipper} {op : Zipper → Zipper} {r : Bool × Line} (h : Changes r z op) :
    (Line.reply r).2 = (Line.reply (z.change op)).2 ∧ Parted (Line.reply r).1 (Line.reply (z.change op)).1 :=
  ⟨congrArg Reply.changed h.flag, h.parted⟩

namespace Parted

variable {l : Line} {z : Zipper}

theorem answer (p : Parted l z) (edit : Edit) :
    (l.answer edit).2 = (z.answer edit).2 ∧ Parted (l.answer edit).1 (z.answer edit).1 := by
  cases edit
  case insert c => exact ⟨rfl, p.insert c⟩
  case backspace => exact p.backspace.left.reply
  case delete => exact p.delete.left.reply
  case left => exact p.left.reply
  case right => exact p.right.reply
  case home => exact p.home.reply
  case toEnd => exact p.toEnd.reply
  case set text => exact ⟨rfl, .ofText text⟩
  case take => exact ⟨congrArg Reply.text (by simp [take, ← p.text]), .empty⟩
  case clear => exact ⟨rfl, .empty⟩
  case columns => exact ⟨congrArg Reply.columns p.columnsAfter_eq, p⟩

theorem answer?_eq (p : Parted l z) (edit : Edit) :
    l.answer? edit = some (l.answer edit) := by
  cases edit
  case insert c =>
    unfold answer?
    simp [Line.answer, p.insert?_eq]
  case backspace => exact p.backspace.right
  case delete => exact p.delete.right
  case columns =>
    unfold answer?
    simp [Line.answer, p.cut?_eq, p.columnsAfter_eq]
  all_goals rfl

theorem answerAll (p : Parted l z) (edits : List Edit) :
    let run := Line.answerAll Line.answer l edits
    let spec := Line.answerAll Zipper.answer z edits
    run.2 = spec.2 ∧ Parted run.1 spec.1 := by
  induction edits generalizing l z
  case nil => exact ⟨rfl, p⟩
  case cons edit edits hi =>
    have ⟨reply, p⟩ := p.answer edit
    have ⟨replies, rest⟩ := hi p
    exact ⟨congr (congrArg List.cons reply) replies, rest⟩

end Parted

theorem edits_as_zipper (edits : List Edit) :
    let run := answerAll answer empty edits
    let spec := answerAll Zipper.answer .empty edits
    run.2 = spec.2 ∧ run.1.zipper = spec.1 ∧ run.1.text.toList = spec.1.chars ∧ run.1.cursor ≤ run.1.size ∧
      String.Pos.Raw.IsValid run.1.text ⟨run.1.offset run.1.cursor⟩ ∧
      ∀ edit, run.1.answer? edit = some (run.1.answer edit) := by
  intro run spec
  have ⟨replies, p⟩ := Parted.empty.answerAll edits
  refine ⟨replies, p.zipper_eq, p.text, ?_, p.isValid_offset, p.answer?_eq⟩
  rw [p.size_eq, p.cursor]
  exact Nat.le_add_right ..

end Line

end VirtualShell
