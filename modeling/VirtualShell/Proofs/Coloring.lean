import VirtualShell.Proofs.Printable

namespace VirtualShell

namespace Screen

-- A color sequence in front of a text: the digits between `ESC [` and `m`, and what is behind it.
def sequence? : List Char → Option (List Char × List Char)
  | '\x1b' :: '[' :: s =>
    match s.dropWhile Char.isDigit with
    | 'm' :: rest => some (s.takeWhile Char.isDigit, rest)
    | _ => none
  | _ => none

theorem length_of_sequence? {s digits rest : List Char} (h : sequence? s = some (digits, rest)) :
    rest.length < s.length := by
  unfold sequence? at h
  split at h
  case h_1 s =>
    split at h
    case h_1 found =>
      cases h
      have := (s.dropWhile_sublist Char.isDigit).length_le
      simp only [found, List.length_cons] at this ⊢
      omega
    case h_2 => contradiction
  case h_2 => contradiction

inductive Piece
  | char (c : Char)
  | select (digits : List Char)
  deriving DecidableEq, Repr

def pieces : List Char → List Piece
  | [] => []
  | c :: s =>
    match found : sequence? (c :: s) with
    | some (digits, rest) =>
      have := length_of_sequence? found
      .select digits :: pieces rest
    | none => .char c :: pieces s
termination_by s => s.length
decreasing_by
  · assumption
  · exact Nat.lt_succ_self _

def Piece.char? : Piece → Option Char
  | .char c => some c
  | .select _ => none

def strip (s : List Char) : List Char := (pieces s).filterMap Piece.char?

-- The code of the foreground, if it is not the terminal's own. Codes for anything else leave it.
def select (foreground : Option Nat) (digits : List Char) : Option Nat :=
  let code := Nat.ofDigitChars 10 digits 0
  if code = 0 ∨ code = 39 then none
  else if 30 ≤ code ∧ code ≤ 37 ∨ 90 ≤ code ∧ code ≤ 97 then some code
  else foreground

def paint (foreground : Option Nat) : List Piece → List (Char × Option Nat) × Option Nat
  | [] => ([], foreground)
  | .char c :: s =>
    let (shown, last) := paint foreground s
    ((c, foreground) :: shown, last)
  | .select digits :: s => paint (select foreground digits) s

def read (s : List Char) : List (Char × Option Nat) × Option Nat := paint none (pieces s)

variable {s digits : List Char}

theorem pieces_of_none {c : Char} (h : sequence? (c :: s) = none) : pieces (c :: s) = .char c :: pieces s := by
  rw [pieces]
  split
  case h_1 found => simp [h] at found
  case h_2 => rfl

theorem pieces_of_some {rest : List Char} (h : sequence? s = some (digits, rest)) :
    pieces s = .select digits :: pieces rest := by
  cases s
  case nil => contradiction
  case cons c s =>
    rw [pieces]
    split
    case h_1 found =>
      rw [h] at found
      cases found
      rfl
    case h_2 found => simp [h] at found

theorem pieces_char {c : Char} (ne : c ≠ '\x1b') (s : List Char) : pieces (c :: s) = .char c :: pieces s := by
  apply pieces_of_none
  unfold sequence?
  split
  case h_1 eq => exact absurd (List.cons.inj eq).left ne
  case h_2 => rfl

theorem pieces_chars (h : ∀ c ∈ s, c ≠ '\x1b') (rest : List Char) :
    pieces (s ++ rest) = s.map .char ++ pieces rest := by
  induction s
  case nil => rfl
  case cons c s hi =>
    have ⟨ne, h⟩ := List.forall_mem_cons.mp h
    rw [List.cons_append, pieces_char ne, hi h]
    rfl

section

variable (number : digits.all Char.isDigit)
include number

theorem sequence?_digits (last : Char) (letter : last.isDigit = false) (rest : List Char) :
    sequence? ('\x1b' :: '[' :: (digits ++ last :: rest)) = if last = 'm' then some (digits, rest) else none := by
  have digit : ∀ c ∈ digits, c.isDigit := List.all_eq_true.mp number
  have behind : (digits ++ last :: rest).dropWhile Char.isDigit = last :: rest := by
    rw [List.dropWhile_append_of_pos digit, List.dropWhile_cons_of_neg (by simp [letter])]
  have front : (digits ++ last :: rest).takeWhile Char.isDigit = digits := by
    rw [List.takeWhile_append_of_pos digit, List.takeWhile_cons_of_neg (by simp [letter]), List.append_nil]
  simp only [sequence?, behind, front]
  split
  case h_1 eq =>
    cases eq
    rfl
  case h_2 other =>
    have : last ≠ 'm' := fun eq => other rest (by rw [eq])
    rw [if_neg this]

theorem pieces_select (rest : List Char) :
    pieces ('\x1b' :: '[' :: (digits ++ 'm' :: rest)) = .select digits :: pieces rest :=
  pieces_of_some (sequence?_digits number 'm' rfl rest)

-- A sequence for something else is characters to the reader, none of which begins a color sequence.
theorem pieces_sequence (last : Char) (letter : last.isDigit = false) (ne : last ≠ 'm') (escape : last ≠ '\x1b')
    (rest : List Char) :
    pieces ('\x1b' :: '[' :: (digits ++ last :: rest)) =
      ('\x1b' :: '[' :: (digits ++ [last])).map .char ++ pieces rest := by
  have other := (sequence?_digits number last letter rest).trans (if_neg ne)
  have plain : ∀ c ∈ '[' :: (digits ++ [last]), c ≠ '\x1b' := by
    have digit : ∀ c ∈ digits, c ≠ '\x1b' := by
      rintro c mem rfl
      exact absurd (List.all_eq_true.mp number _ mem) (by decide)
    simpa [or_imp, forall_and] using ⟨digit, escape⟩
  have chars := pieces_chars plain rest
  rw [List.cons_append, List.append_assoc, List.singleton_append] at chars
  rw [pieces_of_none other, chars]
  rfl

end

-- Characters other than escape, and whole sequences that erase a line or move the cursor back.
inductive Colorless : List Char → Prop
  | nil : Colorless []
  | char {c : Char} {s : List Char} (ne : c ≠ '\x1b') (rest : Colorless s) : Colorless (c :: s)
  | sequence {digits s : List Char} {last : Char} (number : digits.all Char.isDigit)
      (erasesOrMoves : last = 'K' ∨ last = 'D') (rest : Colorless s) :
      Colorless ('\x1b' :: '[' :: (digits ++ last :: s))

theorem Colorless.pieces_append (h : Colorless s) (rest : List Char) :
    pieces (s ++ rest) = s.map .char ++ pieces rest := by
  induction h
  case nil => rfl
  case char c s ne _ hi =>
    rw [List.cons_append, pieces_char ne, hi]
    rfl
  case sequence digits s last number erasesOrMoves _ hi =>
    have ⟨letter, ne, escape⟩ : last.isDigit = false ∧ last ≠ 'm' ∧ last ≠ '\x1b' := by
      rcases erasesOrMoves with rfl | rfl <;> decide
    have first := pieces_sequence number last letter ne escape (s ++ rest)
    rw [hi] at first
    simpa using first

theorem colorless_of_forall_ne (h : ∀ c ∈ s, c ≠ '\x1b') : Colorless s := by
  induction s
  case nil => exact .nil
  case cons c s hi =>
    have ⟨ne, h⟩ := List.forall_mem_cons.mp h
    exact .char ne (hi h)

end Screen

namespace Chunk

def Colorless : Chunk → Prop
  | .text s _ => Screen.Colorless s.toList
  | _ => True

end Chunk

namespace Screen

def foreground : Color → Nat
  | .red => 31
  | .green => 32
  | .yellow => 33
  | .blue => 34
  | .gray => 90

-- What is to be seen of a chunk: a text in its color, and the terminal's own sequences in none.
def shown : Chunk → List (Char × Option Nat)
  | .text s color => s.toList.map (·, color.map foreground)
  | .clearScreen => ['\x1b', '[', '2', 'J', '\x1b', '[', 'H'].map (·, none)
  | .bell => [('\x07', none)]
  | .exit => []

def chunkPieces : Chunk → List Piece
  | .text s (some c) => .select (colorCode c).toList :: s.toList.map .char ++ [.select ['0']]
  | .text s none => s.toList.map .char
  | .clearScreen => ['\x1b', '[', '2', 'J', '\x1b', '[', 'H'].map .char
  | .bell => [.char '\x07']
  | .exit => []

theorem pieces_renderChunk {chunk : Chunk} (h : chunk.Colorless) (rest : List Char) :
    pieces ((renderChunk true chunk).toList ++ rest) = chunkPieces chunk ++ pieces rest := by
  cases chunk
  case text s color =>
    cases color
    case none => exact Colorless.pieces_append h rest
    case some c =>
      have code : (colorCode c).toList.all Char.isDigit := by cases c <;> rfl
      have zero : ['0'].all Char.isDigit := rfl
      have reset : pieces (resetColor.toList ++ rest) = .select ['0'] :: pieces rest := pieces_select zero rest
      have first := pieces_select code (s.toList ++ (resetColor.toList ++ rest))
      rw [Colorless.pieces_append h, reset] at first
      simpa [renderChunk, chunkPieces] using first
  case clearScreen =>
    have two : ['2'].all Char.isDigit := rfl
    have none : [].all Char.isDigit := rfl
    have erase := pieces_sequence two 'J' rfl (by decide) (by decide) ("\x1b[H".toList ++ rest)
    have home := pieces_sequence none 'H' rfl (by decide) (by decide) rest
    exact erase.trans (congrArg _ home)
  case bell => exact pieces_char (by decide) rest
  case exit => rfl

theorem pieces_render {chunks : List Chunk} (h : ∀ chunk ∈ chunks, chunk.Colorless) :
    pieces (render chunks true).toList = chunks.flatMap chunkPieces := by
  induction chunks
  case nil => simp [render, pieces]
  case cons chunk chunks hi =>
    have rest := hi fun chunk mem => h chunk (.tail _ mem)
    rw [toList_render_cons, pieces_renderChunk (h chunk (.head _)), rest]
    rfl

theorem paint_append (color : Option Nat) (a b : List Piece) : paint color (a ++ b) =
    ((paint color a).1 ++ (paint (paint color a).2 b).1, (paint (paint color a).2 b).2) := by
  induction a generalizing color
  case nil => rfl
  case cons piece a hi =>
    cases piece
    case char c => simp [paint, hi]
    case select digits => exact hi _

theorem paint_chars (color : Option Nat) (s : List Char) : paint color (s.map .char) = (s.map (·, color), color) := by
  induction s
  case nil => rfl
  case cons c s hi => simp [paint, hi]

theorem select_colorCode (color : Option Nat) (c : Color) :
    select color (colorCode c).toList = some (foreground c) := by
  cases c <;> rfl

theorem paint_chunkPieces (chunk : Chunk) : paint none (chunkPieces chunk) = (shown chunk, none) := by
  cases chunk
  case text s color =>
    cases color
    case none => exact paint_chars none s.toList
    case some c =>
      have reset (color : Option Nat) : select color ['0'] = none := rfl
      simp [chunkPieces, paint, paint_append, paint_chars, select_colorCode, reset, shown]
  case clearScreen => exact paint_chars ..
  case bell => rfl
  case exit => rfl

theorem paint_flatMap (chunks : List Chunk) :
    paint none (chunks.flatMap chunkPieces) = (chunks.flatMap shown, none) := by
  induction chunks
  case nil => rfl
  case cons chunk chunks hi => simp [paint_append, paint_chunkPieces, hi]

theorem map_fst_paint (color : Option Nat) (pieces : List Piece) :
    (paint color pieces).1.map Prod.fst = pieces.filterMap Piece.char? := by
  induction pieces generalizing color
  case nil => rfl
  case cons piece pieces hi =>
    cases piece
    case char c => simp [Piece.char?, paint, hi]
    case select digits => exact hi _

theorem map_fst_shown (chunk : Chunk) : (shown chunk).map Prod.fst = (renderChunk false chunk).toList := by
  cases chunk
  case text s color => cases color <;> simp [shown, renderChunk, Function.comp_def]
  case clearScreen => rfl
  case bell => rfl
  case exit => rfl

theorem map_fst_flatMap (chunks : List Chunk) :
    (chunks.flatMap shown).map Prod.fst = (render chunks false).toList := by
  induction chunks
  case nil => simp [render]
  case cons chunk chunks hi =>
    rw [toList_render_cons, List.flatMap_cons, List.map_append, hi, map_fst_shown]

theorem read_render {chunks : List Chunk} (h : ∀ chunk ∈ chunks, chunk.Colorless) :
    read (render chunks true).toList = (chunks.flatMap shown, none) := by
  rw [read, pieces_render h, paint_flatMap]

theorem strip_render {chunks : List Chunk} (h : ∀ chunk ∈ chunks, chunk.Colorless) :
    strip (render chunks true).toList = (render chunks false).toList := by
  have seen : (read (render chunks true).toList).1.map Prod.fst = strip (render chunks true).toList :=
    map_fst_paint ..
  rw [← seen, read_render h, map_fst_flatMap]

end Screen

open Alphabet

def Alphabet.unescaped : Alphabet where
  Has c := c ≠ '\x1b'
  ascii c h := by
    rintro rfl
    exact absurd h.left (by decide)

theorem Key.Over.unescaped {key : Key} (h : key.Over .printable) : key.Over .unescaped := by
  cases key
  case char c =>
    rintro rfl
    contradiction
  all_goals trivial

theorem Chunk.colorless_text {s : String} {color : Option Color} (h : unescaped.Spells s) :
    (text s color).Colorless :=
  Screen.colorless_of_forall_ne h

def Call.Over (A : Alphabet) : Call → Prop
  | .key pressed => pressed.Over A
  | .run line => A.Spells line
  | _ => True

namespace Session

variable {s : Session}

theorem colorless_cursorLeft (columns : Nat) : Screen.Colorless (cursorLeft columns).toList := by
  have number : (toString columns).toList.all Char.isDigit := by
    rw [Nat.toString_eq_ofList_toDigits, String.toList_ofList]
    exact List.all_eq_true.mpr fun c => Nat.isDigit_of_mem_toDigits (by decide) (by decide)
  simpa [cursorLeft] using Screen.Colorless.sequence number (.inr rfl) .nil

theorem colorless_eraseLine : Screen.Colorless eraseLine.toList := by
  have two : ['2'].all Char.isDigit := rfl
  exact .char (by decide) (.sequence two (.inl rfl) .nil)

theorem spells_newLine : unescaped.Spells newLine := by
  simp [Spells, unescaped, newLine]

theorem colorless_renderLines {lines : List OutputLine} (h : ∀ line ∈ lines, line.Over unescaped) :
    ∀ chunk ∈ renderLines lines, chunk.Colorless := by
  refine List.forall_mem_map.mpr fun line mem => ?_
  have ⟨body, eq, hb⟩ := terminalLine_eq (h line mem)
  have spelled : unescaped.Spells body := by
    intro c hc
    rcases hb c hc with has | rfl | rfl
    · exact has
    · exact (by decide : '\r' ≠ '\x1b')
    · exact (by decide : '\n' ≠ '\x1b')
  rw [eq]
  exact Chunk.colorless_text (spelled.append spells_newLine)

namespace Over

variable (h : s.Over unescaped)
include h

theorem colorless_painted : ∀ chunk ∈ s.painted, chunk.Colorless := by
  intro chunk mem
  have ⟨text, color, eq, spelled⟩ := h.painted chunk mem
  exact eq ▸ Chunk.colorless_text spelled

theorem colorless_promptChunks : ∀ chunk ∈ s.promptChunks, chunk.Colorless :=
  (List.forall_mem_append.mp h.colorless_painted).left

theorem colorless_redraw : ∀ chunk ∈ s.redraw, chunk.Colorless := by
  have ⟨back, eq, moves⟩ := s.redraw_eq
  rw [eq]
  refine List.forall_mem_append.mpr ⟨List.forall_mem_cons.mpr ⟨colorless_eraseLine, h.colorless_painted⟩, ?_⟩
  rcases moves with rfl | ⟨columns, rfl⟩
  · exact List.forall_mem_nil _
  · exact List.forall_mem_singleton.mpr (colorless_cursorLeft columns)

end Over

-- What is shown ends in nothing of the session's own, in its prompt, or in the line that is edited.
inductive Paints (s : Session) : List Chunk → Prop
  | alone {front : List Chunk} (h : ∀ chunk ∈ front, chunk.Colorless) : s.Paints front
  | prompt {front : List Chunk} (h : ∀ chunk ∈ front, chunk.Colorless) : s.Paints (front ++ s.promptChunks)
  | redraw {front : List Chunk} (h : ∀ chunk ∈ front, chunk.Colorless) : s.Paints (front ++ s.redraw)

theorem Paints.colorless {chunks : List Chunk} (hp : s.Paints chunks) (h : s.Over unescaped) :
    ∀ chunk ∈ chunks, chunk.Colorless := by
  cases hp
  case alone front => exact front
  case prompt front => exact List.forall_mem_append.mpr ⟨front, h.colorless_promptChunks⟩
  case redraw front => exact List.forall_mem_append.mpr ⟨front, h.colorless_redraw⟩

theorem paints_nil (s : Session) : s.Paints [] := .alone nofun

theorem paints_bell (s : Session) : s.Paints [.bell] := .alone (List.forall_mem_singleton.mpr trivial)

theorem paints_withLine (s : Session) (line : Line) : (s.withLine line).1.Paints (s.withLine line).2 :=
  .redraw (List.forall_mem_nil _)

theorem paints_edit (s : Session) (op : Line → Bool × Line) : (s.edit op).1.Paints (s.edit op).2 := by
  unfold edit
  split
  · exact s.paints_withLine _
  · exact s.paints_bell

theorem paints_move (s : Session) (op : Line → Bool × Line) : (s.move op).1.Paints (s.move op).2 := by
  unfold move
  split
  · exact s.paints_withLine _
  · exact s.paints_nil

theorem paints_browse (s : Session) (step : History → Option String × History) :
    (s.browse step).1.Paints (s.browse step).2 := by
  simp only [browse]
  split
  · exact paints_withLine { s with history := _ } _
  · exact paints_bell { s with history := _ }

theorem paints_complete (s : Session) : s.complete.1.Paints s.complete.2 := by
  have ⟨_, listed⟩ := Completion.spells_ofLine s.line.text unescaped
  unfold complete
  split
  case h_1 => exact s.paints_withLine _
  case h_2 names eq =>
    have space : unescaped.Spells "  " := spells_ascii rfl
    have listing : unescaped.Spells (newLine ++ "  ".intercalate names ++ newLine) :=
      (spells_newLine.append (space.intercalate (listed names eq))).append spells_newLine
    exact .redraw (List.forall_mem_singleton.mpr (Chunk.colorless_text listing))
  case h_3 => exact s.paints_bell

theorem paints_respond {text : String} (h : ∀ line ∈ (s.dispatch text).2.output, line.Over unescaped) :
    (s.respond text).1.Paints (s.respond text).2 := by
  have output : ∀ chunk ∈ .plain newLine :: renderLines (s.dispatch text).2.output, chunk.Colorless :=
    List.forall_mem_cons.mpr ⟨Chunk.colorless_text spells_newLine, colorless_renderLines h⟩
  have ended : ∀ chunk ∈ [Chunk.exit], chunk.Colorless := List.forall_mem_singleton.mpr trivial
  have cleared : ∀ chunk ∈ if (s.dispatch text).2.clearScreen then [Chunk.clearScreen] else [], chunk.Colorless := by
    split
    · exact List.forall_mem_singleton.mpr trivial
    · exact List.forall_mem_nil _
  simp only [respond, finish]
  split
  case isTrue => exact .alone (List.forall_mem_append.mpr ⟨output, ended⟩)
  case isFalse =>
    have front := List.forall_mem_append.mpr ⟨output, cleared⟩
    rw [← List.append_assoc, ← List.cons_append]
    exact .prompt front

theorem paints_press (h : s.Over unescaped) (hf : s.fs.Over unescaped) (key : Key) :
    (s.press key).1.Paints (s.press key).2 := by
  cases key
  case char c => exact s.paints_withLine _
  case backspace => exact s.paints_edit _
  case delete => exact s.paints_edit _
  case enter => exact paints_respond (h.entered.output hf h.line)
  case tab => exact s.paints_complete
  case up => exact s.paints_browse _
  case down => exact s.paints_browse _
  case left => exact s.paints_move _
  case right => exact s.paints_move _
  case home => exact s.paints_move _
  case endOfLine => exact s.paints_move _
  case interrupt =>
    have marker : unescaped.Spells interruptMarker := spells_ascii rfl
    exact .prompt (List.forall_mem_singleton.mpr (Chunk.colorless_text (marker.append spells_newLine)))
  case clearScreen =>
    have cleared : ∀ chunk ∈ [Chunk.clearScreen], chunk.Colorless := List.forall_mem_singleton.mpr trivial
    exact .redraw cleared
  case killLine =>
    simp only [press]
    split
    · exact s.paints_nil
    · exact s.paints_withLine _
  case endOfInput =>
    cases empty : s.line.isEmpty
    case false =>
      have : s.press .endOfInput = s.edit Line.delete := by simp [press, empty]
      rw [this]
      exact s.paints_edit _
    case true =>
      have carried : s.press .endOfInput = s.respond "exit" := press_of_carried (if_pos empty)
      have exit : unescaped.Spells "exit" := spells_ascii rfl
      rw [carried]
      exact paints_respond (h.output hf exit)

structure Unescaped (s : Session) : Prop where
  typed : s.Over unescaped
  fs    : s.fs.Over unescaped

namespace Unescaped

variable (h : s.Unescaped)
include h

theorem feedKey {key : Key} (hk : key.Over unescaped) :
    (s.feedKey key).1.Unescaped ∧ ∀ chunk ∈ (s.feedKey key).2, chunk.Colorless := by
  have typed := h.typed.feedKey hk
  refine ⟨⟨typed, s.fs_feedKey key ▸ h.fs⟩, ?_⟩
  cases closed : s.closed
  case true =>
    rw [feedKey_of_closed closed]
    exact List.forall_mem_nil _
  case false =>
    rw [feedKey_of_open closed] at typed ⊢
    exact (paints_press h.typed h.fs key).colorless typed

theorem feedKeys {keys : List Key} (hk : ∀ key ∈ keys, key.Over unescaped) :
    (s.feedKeys keys).1.Unescaped ∧ ∀ chunk ∈ (s.feedKeys keys).2, chunk.Colorless := by
  induction keys generalizing s
  case nil => exact ⟨h, List.forall_mem_nil _⟩
  case cons key keys hi =>
    have ⟨hk, rest⟩ := List.forall_mem_cons.mp hk
    have ⟨first, shown⟩ := h.feedKey hk
    have ⟨last, more⟩ := hi first rest
    exact ⟨last, List.forall_mem_append.mpr ⟨shown, more⟩⟩

theorem answer {call : Call} (hc : call.Over unescaped) :
    (s.answer call).1.Unescaped ∧ ∀ chunk ∈ (s.answer call).2, chunk.Colorless := by
  have decoded (decoder : Decoder) : { s with decoder }.Unescaped := ⟨h.typed.withDecoder decoder, h.fs⟩
  cases call
  case key key => exact h.feedKey hc
  case char c now =>
    have key := Decoder.over_read { s.decoder with afterReturn := false } c now
    exact (decoded _).feedKeys fun k hk => (key k (Option.mem_toList.mp hk)).unescaped
  case octets octets now =>
    exact (decoded _).feedKeys fun k hk => (Decoder.over_readAll _ now _ k hk).unescaped
  case run line =>
    have fs : (s.run line).1.fs = s.fs := fs_dispatch ..
    exact ⟨⟨h.typed.run hc, fs ▸ h.fs⟩, List.forall_mem_nil _⟩
  case clock time => exact ⟨⟨h.typed.withClock time, h.fs⟩, List.forall_mem_nil _⟩

theorem answerAll {calls : List Call} (hc : ∀ call ∈ calls, call.Over unescaped) :
    (s.answerAll calls).1.Unescaped ∧ ∀ chunk ∈ (s.answerAll calls).2, chunk.Colorless := by
  induction calls generalizing s
  case nil => exact ⟨h, List.forall_mem_nil _⟩
  case cons call calls hi =>
    have ⟨hc, rest⟩ := List.forall_mem_cons.mp hc
    have ⟨first, shown⟩ := h.answer hc
    have ⟨last, more⟩ := hi first rest
    exact ⟨last, List.forall_mem_append.mpr ⟨shown, more⟩⟩

end Unescaped

theorem unescaped_new {o : Options} (h : o.Over unescaped) (hf : o.fs.Over unescaped) : (new o).Unescaped :=
  ⟨over_new h, hf⟩

-- Every text is shown in the color of its chunk, and colors change nothing else, as long as no text
-- brings color sequences of its own. The texts of a session do not.
theorem colors_stay_in_their_chunks :
    (∀ chunks : List Chunk, (∀ chunk ∈ chunks, chunk.Colorless) →
      Screen.read (Screen.render chunks true).toList = (chunks.flatMap Screen.shown, none) ∧
        Screen.strip (Screen.render chunks true).toList = (Screen.render chunks false).toList) ∧
    (∀ chunks : List Chunk, (Screen.render chunks false).toList = (chunks.flatMap Screen.shown).map Prod.fst) ∧
    (∀ (a b : List Chunk) (color : Bool),
      Screen.render (a ++ b) color = Screen.render a color ++ Screen.render b color) ∧
    ∀ o : Options, o.Over unescaped → o.fs.Over unescaped →
      ∀ calls : List Call, (∀ call ∈ calls, call.Over unescaped) →
        ∀ chunk ∈ (new o).start ++ ((new o).answerAll calls).2, chunk.Colorless := by
  refine ⟨fun chunks h => ⟨Screen.read_render h, Screen.strip_render h⟩, fun chunks => ?plain, Screen.render_append,
    ?session⟩
  case plain => exact (Screen.map_fst_flatMap chunks).symm
  case session =>
    intro o h hf calls hc
    have start := unescaped_new h hf
    exact List.forall_mem_append.mpr ⟨start.typed.colorless_promptChunks, (start.answerAll hc).right⟩

theorem colors_stay_in_their_chunks_listing :
    let chunks : List Chunk := [.colored "a\x1b[2Kb" .red, .plain "[31m", .clearScreen, .colored "ok" .green, .bell,
      .colored "?" .yellow, .colored "s/" .blue, .colored "\x1b[1D" .gray, .exit]
    let text := "\x1b[31ma\x1b[2Kb\x1b[0m[31m\x1b[2J\x1b[H\x1b[32mok\x1b[0m\x07\x1b[33m?\x1b[0m" ++
      "\x1b[34ms/\x1b[0m\x1b[90m\x1b[1D\x1b[0m"
    let calls : List Call := [.key (.char 'l'), .char 's' 0, .run "cd /etc", .octets [0x1B, 0x5B, 0x44, 0x0D] 1]
    let sent := (new {}).start ++ ((new {}).answerAll calls).2
    (∀ chunk ∈ chunks, chunk.Colorless) ∧ Screen.render chunks true = text ∧
      Screen.read text.toList =
        ([('a', some 31), ('\x1b', some 31), ('[', some 31), ('2', some 31), ('K', some 31), ('b', some 31),
          ('[', none), ('3', none), ('1', none), ('m', none),
          ('\x1b', none), ('[', none), ('2', none), ('J', none), ('\x1b', none), ('[', none), ('H', none),
          ('o', some 32), ('k', some 32), ('\x07', none), ('?', some 33), ('s', some 34), ('/', some 34),
          ('\x1b', some 90), ('[', some 90), ('1', some 90), ('D', some 90)], none) ∧
      Screen.strip text.toList = "a\x1b[2Kb[31m\x1b[2J\x1b[Hok\x07?s/\x1b[1D".toList ∧
      ({} : Options).Over unescaped ∧ FileSystem.default.Over unescaped ∧ (∀ call ∈ calls, call.Over unescaped) ∧
      (∀ chunk ∈ sent, chunk.Colorless) ∧
      Screen.read (Screen.render sent true).toList = (sent.flatMap Screen.shown, none) := by
  intro chunks text calls sent
  have ⟨reads, _, _, sends⟩ := colors_stay_in_their_chunks
  have one : ['1'].all Char.isDigit := rfl
  have two : ['2'].all Char.isDigit := rfl
  have erases : Screen.Colorless "a\x1b[2Kb".toList :=
    .char (by decide) (.sequence two (.inl rfl) (.char (by decide) .nil))
  have looks : unescaped.Spells "[31m" := spells_ascii rfl
  have green : unescaped.Spells "ok" := spells_ascii rfl
  have yellow : unescaped.Spells "?" := spells_ascii rfl
  have blue : unescaped.Spells "s/" := spells_ascii rfl
  have moves : Screen.Colorless "\x1b[1D".toList := .sequence one (.inr rfl) .nil
  have colorless : ∀ chunk ∈ chunks, chunk.Colorless := by
    simp only [chunks, List.forall_mem_cons]
    exact ⟨erases, Chunk.colorless_text looks, trivial, Chunk.colorless_text green, trivial,
      Chunk.colorless_text yellow, Chunk.colorless_text blue, moves, trivial, List.forall_mem_nil _⟩
  have rendered : Screen.render chunks true = text := by decide +kernel
  have ⟨read, strip⟩ := reads chunks colorless
  rw [rendered] at read strip
  have options : ({} : Options).Over unescaped :=
    ⟨spells_ascii rfl, spells_ascii rfl, spells_ascii rfl, spells_ascii rfl, nofun⟩
  have line : unescaped.Spells "cd /etc" := spells_ascii rfl
  have letter : 'l' ≠ '\x1b' := by decide
  have typed : ∀ call ∈ calls, call.Over unescaped := by
    simp only [calls, List.forall_mem_cons]
    exact ⟨letter, trivial, line, trivial, List.forall_mem_nil _⟩
  have session := sends {} options FileSystem.over_default calls typed
  refine ⟨colorless, rendered, read.trans ?shown, strip.trans ?plain, options, FileSystem.over_default, typed, session,
    (reads sent session).left⟩
  case shown => decide +kernel
  case plain => decide +kernel

end Session

end VirtualShell
