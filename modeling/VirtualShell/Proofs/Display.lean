import VirtualShell.Proofs.GlyphWidth
import VirtualShell.Proofs.SessionText

namespace VirtualShell

open Alphabet

namespace Terminal

variable {t : Terminal} (color : Bool)

def draw (t : Terminal) (chunks : List Chunk) (color : Bool) : Terminal :=
  t.write (Screen.render chunks color).toList

@[simp] theorem draw_nil (t : Terminal) (color : Bool) : t.draw [] color = t := by
  simp [draw, Screen.render]

theorem draw_append (t : Terminal) (a b : List Chunk) (color : Bool) :
    t.draw (a ++ b) color = (t.draw a color).draw b color := by
  simp only [draw, Screen.render_append, String.toList_append, write_append]

theorem draw_cons (t : Terminal) (chunk : Chunk) (chunks : List Chunk) (color : Bool) :
    t.draw (chunk :: chunks) color = (t.draw [chunk] color).draw chunks color :=
  t.draw_append [chunk] chunks color

theorem draw_single (t : Terminal) (chunk : Chunk) (color : Bool) :
    t.draw [chunk] color = t.write (Screen.renderChunk color chunk).toList := by
  simp [draw, Screen.render]

theorem draw_text {s : String} {foreground : Option Color} (h : t.mode = .ground)
    (hs : (t.write s.toList).mode = .ground) : t.draw [.text s foreground] color = t.write s.toList := by
  rw [draw_single]
  cases foreground
  case none => rfl
  case some c =>
    cases color
    case false => rfl
    case true =>
      have : (Screen.renderChunk true (.text s (some c))).toList =
          ("\x1b[" ++ Screen.colorCode c ++ "m").toList ++ s.toList ++ Screen.resetColor.toList := by
        simp [Screen.renderChunk]
      rw [this, write_append, write_append, write_color h, write_resetColor hs]

theorem Shows.draw_text {front : List Char} (h : t.Shows front []) (s : String) (hs : glyphs.Spells s)
    (foreground : Option Color) : (t.draw [.text s foreground] color).Shows (front ++ s.toList) [] := by
  have written := h.write hs
  rw [Terminal.draw_text color h.ground written.ground]
  exact written

theorem Settled.draw_newLine (h : t.Settled) : (t.draw [.plain Session.newLine] color).Shows [] [] := by
  have : (Screen.renderChunk color (.plain Session.newLine)).toList = ['\r', '\n'] := by
    simp [Screen.renderChunk, Chunk.plain, Session.newLine]
  rw [draw_single, this]
  exact h.newLine

theorem Settled.draw_lines (h : t.Settled) {s : String}
    (hs : ∀ c ∈ s.toList, glyphs.Has c ∨ c = '\r' ∨ c = '\n') (foreground : Option Color) :
    (t.draw [.text (s ++ Session.newLine) foreground] color).Shows [] [] := by
  have shown := (h.write hs).newLine
  have text : (s ++ Session.newLine).toList = s.toList ++ ['\r', '\n'] := by simp [Session.newLine]
  rw [← write_append, ← text] at shown
  rw [Terminal.draw_text color h.ground shown.ground]
  exact shown

theorem Settled.draw_eraseLine (h : t.Settled) : (t.draw [.plain Session.eraseLine] color).Shows [] [] := by
  have : (Screen.renderChunk color (.plain Session.eraseLine)).toList = ['\r', '\x1b', '[', '2', 'K'] := by
    simp [Screen.renderChunk, Chunk.plain, Session.eraseLine]
  rw [draw_single, this]
  exact h.eraseLine

theorem Settled.draw_clearScreen (h : t.Settled) : (t.draw [.clearScreen] color).Shows [] [] := by
  have : (Screen.renderChunk color .clearScreen).toList = ['\x1b', '[', '2', 'J'] ++ ['\x1b', '[', 'H'] := by
    simp [Screen.renderChunk]
  rw [draw_single, this]
  exact h.clearScreen

theorem draw_bell (h : t.mode = .ground) : t.draw [.bell] color = t := by
  have : (Screen.renderChunk color .bell).toList = ['\x07'] := by simp [Screen.renderChunk]
  rw [draw_single, this, write_bell h]

theorem Shows.draw_cursorLeft {front back : List Char} (h : t.Shows (front ++ back) []) (hb : back ≠ []) :
    (t.draw [.plain (Session.cursorLeft (columns back))] color).Shows front back := by
  have : (Screen.renderChunk color (.plain (Session.cursorLeft (columns back)))).toList =
      ['\x1b', '['] ++ (toString (columns back)).toList ++ ['D'] := by
    simp [Screen.renderChunk, Chunk.plain, Session.cursorLeft]
  rw [draw_single, this]
  exact h.cursorLeft hb

end Terminal

namespace Session

open Terminal

-- The terminal shows the prompt and the line, and its cursor is where the line's is.
def Displays (s : Session) (t : Terminal) : Prop :=
  t.Shows (s.prompt.toList ++ s.line.text.toList.take s.line.cursor) (s.line.text.toList.drop s.line.cursor)

variable {s : Session} {t : Terminal} (color : Bool)

theorem displays_prompt (empty : s.line.text = "") (ht : t.Shows s.prompt.toList []) : s.Displays t := by
  simpa [Displays, empty] using ht

theorem draw_promptChunks (h : s.Over glyphs) (ht : t.Shows [] []) :
    (t.draw s.promptChunks color).Shows s.prompt.toList [] := by
  have name : glyphs.Spells (s.user ++ "@" ++ s.host) := (h.user.append (spells_ascii rfl)).append h.host
  have user := ht.draw_text color _ name (some .green)
  have colon := user.draw_text color ":" (spells_ascii rfl) none
  have directory := colon.draw_text color _ h.shortCwd (some .blue)
  have shown := directory.draw_text color "$ " (spells_ascii rfl) none
  have chunks : s.promptChunks = [.text (s.user ++ "@" ++ s.host) (some .green)] ++ [.text ":" none]
      ++ [.text s.shortCwd (some .blue)] ++ [.text "$ " none] := rfl
  rw [chunks, draw_append, draw_append, draw_append]
  simpa [prompt] using shown

theorem draw_line (h : s.Over glyphs) {front : List Char} (ht : t.Shows front []) :
    (t.draw (if s.line.isEmpty then [] else [.plain s.line.text]) color).Shows
      (front ++ s.line.text.toList) [] := by
  split
  case isTrue he =>
    have : s.line.text = "" := by simpa [Line.isEmpty] using he
    simpa [this] using ht
  case isFalse => exact ht.draw_text color _ h.line none

theorem draw_back {front back : List Char} (ht : t.Shows (front ++ back) []) :
    (t.draw (if columns back = 0 then [] else [.plain (cursorLeft (columns back))]) color).Shows
      front back := by
  cases back
  case nil => simpa [columns] using ht
  case cons c back =>
    have : columns (c :: back) ≠ 0 := Nat.ne_of_gt (columns_pos (List.cons_ne_nil c back))
    rw [if_neg this]
    exact ht.draw_cursorLeft color (List.cons_ne_nil c back)

theorem draw_redraw (h : s.Over glyphs) (ht : t.Settled) : s.Displays (t.draw s.redraw color) := by
  have whole := List.take_append_drop s.line.cursor s.line.text.toList
  have spelled : ∀ c ∈ s.line.text.toList.drop s.line.cursor, glyphs.Has c :=
    fun c hc => h.line c (List.mem_of_mem_drop hc)
  have width : s.line.columnsAfter = columns (s.line.text.toList.drop s.line.cursor) := by
    rw [Line.columnsAfter, Line.cut?_eq]
    exact Text.width_glyphs spelled
  have prompt := draw_promptChunks color h (ht.draw_eraseLine color)
  have line := draw_line color h prompt
  rw [← whole, ← List.append_assoc] at line
  have back := draw_back color line
  rw [← draw_cons, ← draw_append, ← draw_append, ← width] at back
  exact back

theorem draw_outputLine {line : OutputLine} (h : line.Over glyphs) (ht : t.Settled) :
    (t.draw [.text (terminalLine line.plain) line.color?] color).Shows [] [] := by
  have ⟨body, eq, hb⟩ := terminalLine_eq h
  rw [eq]
  exact ht.draw_lines color hb line.color?

theorem draw_renderLines {lines : List OutputLine} (h : ∀ line ∈ lines, line.Over glyphs)
    (ht : t.Shows [] []) : (t.draw (renderLines lines) color).Shows [] [] := by
  induction lines generalizing t
  case nil => simpa [renderLines] using ht
  case cons line lines hi =>
    have ⟨hl, h⟩ := List.forall_mem_cons.mp h
    have shown := hi h (draw_outputLine color hl ht.toSettled)
    rw [← draw_cons] at shown
    exact shown

theorem draw_finish {o : Outcome} (h : s.Over glyphs) (ho : ∀ line ∈ o.output, line.Over glyphs)
    (stays : o.exit = false) (ht : t.Shows [] []) : (t.draw (s.finish o) color).Shows s.prompt.toList [] := by
  have shown := draw_renderLines color ho ht
  have fresh : ((t.draw (renderLines o.output) color).draw (if o.clearScreen then [.clearScreen] else [])
      color).Shows [] [] := by
    split
    case isTrue => exact shown.draw_clearScreen color
    case isFalse => simpa using shown
  have prompt := draw_promptChunks color h fresh
  rw [← draw_append, ← draw_append] at prompt
  simpa [finish, stays] using prompt

theorem exit_of_dispatch {line : String} (stays : (s.dispatch line).1.closed = false) :
    (s.dispatch line).2.exit = false :=
  (Bool.or_eq_false_iff.mp ((s.closed_dispatch line).symm.trans stays)).right

theorem draw_respond (h : s.Over glyphs) (hf : s.fs.Over glyphs) {line : String} (hl : glyphs.Spells line)
    (empty : s.line.text = "") (stays : (s.respond line).1.closed = false) (ht : t.Settled) :
    (s.respond line).1.Displays (t.draw (s.respond line).2 color) := by
  have fresh := ht.draw_newLine color
  have shown := draw_finish color (h.dispatch hl) (h.output hf hl) (exit_of_dispatch stays) fresh
  rw [← draw_cons] at shown
  exact displays_prompt ((congrArg Line.text (s.line_dispatch line)).trans empty) shown

theorem draw_withLine (h : s.Over glyphs) {line : Line} (hl : line.Over glyphs) (ht : t.Settled) :
    (s.withLine line).1.Displays (t.draw (s.withLine line).2 color) :=
  draw_redraw color (h.withLine hl) ht

theorem Displays.bell (h : s.Displays t) : s.Displays (t.draw [.bell] color) := by
  rw [draw_bell color h.ground]
  exact h

theorem Displays.edit (ht : s.Displays t) (h : s.Over glyphs) {op : Line → Bool × Line}
    (ho : (op s.line).2.Over glyphs) : (s.edit op).1.Displays (t.draw (s.edit op).2 color) := by
  unfold Session.edit
  split
  case h_1 line eq =>
    rw [eq] at ho
    exact draw_withLine color h ho ht.toSettled
  case h_2 => exact ht.bell color

theorem Displays.move (ht : s.Displays t) (h : s.Over glyphs) {op : Line → Bool × Line}
    (ho : (op s.line).2.Over glyphs) : (s.move op).1.Displays (t.draw (s.move op).2 color) := by
  unfold Session.move
  split
  case h_1 line eq =>
    rw [eq] at ho
    exact draw_withLine color h ho ht.toSettled
  case h_2 => simpa using ht

theorem Displays.browse (ht : s.Displays t) (h : s.Over glyphs) {step : History → Option String × History}
    (ho : (step s.history).2.Over glyphs ∧ ∀ text, (step s.history).1 = some text → glyphs.Spells text) :
    (s.browse step).1.Displays (t.draw (s.browse step).2 color) := by
  have ⟨history, entry⟩ := ho
  have kept : { s with history := (step s.history).2 }.Over glyphs := ⟨h.env, h.cwd, h.host, history, h.line⟩
  simp only [Session.browse]
  split
  case h_1 text eq => exact draw_withLine color kept (entry text eq) ht.toSettled
  case h_2 =>
    have : { s with history := (step s.history).2 }.Displays t := ht
    exact this.bell color

theorem Displays.complete (ht : s.Displays t) (h : s.Over glyphs) :
    s.complete.1.Displays (t.draw s.complete.2 color) := by
  have ⟨single, multiple⟩ := Completion.spells_ofLine s.line.text glyphs
  unfold Session.complete
  split
  case h_1 text eq => exact draw_withLine color h (single text eq) ht.toSettled
  case h_2 names eq =>
    have listing : glyphs.Spells ("  ".intercalate names) := .intercalate (spells_ascii rfl) (multiple names eq)
    have lines : ∀ c ∈ (newLine ++ "  ".intercalate names).toList, glyphs.Has c ∨ c = '\r' ∨ c = '\n' := by
      intro c hc
      rw [String.toList_append] at hc
      cases List.mem_append.mp hc
      case inl hc => exact .inr (by simpa [newLine] using hc)
      case inr hc => exact .inl (listing c hc)
    have below := ht.toSettled.draw_lines color lines none
    have shown := draw_redraw color h below.toSettled
    rw [← draw_cons] at shown
    exact shown
  case h_3 => exact ht.bell color

theorem Displays.press (ht : s.Displays t) (h : s.Over glyphs) (hf : s.fs.Over glyphs) {key : Key}
    (hk : key.Over glyphs) (stays : (s.press key).1.closed = false) :
    (s.press key).1.Displays (t.draw (s.press key).2 color) := by
  cases key
  case char c => exact draw_withLine color h (h.line.insert hk) ht.toSettled
  case backspace => exact ht.edit color h h.line.backspace
  case delete => exact ht.edit color h h.line.delete
  case enter => exact draw_respond color h.entered hf h.line rfl stays ht.toSettled
  case tab => exact ht.complete color h
  case up => exact ht.browse color h h.history.previous
  case down => exact ht.browse color h h.history.next
  case left => exact ht.move color h h.line.left
  case right => exact ht.move color h h.line.right
  case home => exact ht.move color h h.line
  case endOfLine => exact ht.move color h h.line
  case interrupt =>
    have fresh : { s with line := .empty }.Over glyphs := ⟨h.env, h.cwd, h.host, h.history, Line.over_empty⟩
    have marker : ∀ c ∈ interruptMarker.toList, glyphs.Has c ∨ c = '\r' ∨ c = '\n' := by
      have : glyphs.Spells interruptMarker := spells_ascii rfl
      exact fun c hc => .inl (this c hc)
    have below := ht.toSettled.draw_lines color marker none
    have shown := draw_promptChunks color fresh below
    rw [← draw_cons] at shown
    exact displays_prompt rfl shown
  case clearScreen =>
    have shown := draw_redraw color h (ht.toSettled.draw_clearScreen color).toSettled
    rw [← draw_cons] at shown
    exact shown
  case killLine =>
    simp only [Session.press]
    split
    · simpa using ht
    · exact draw_withLine color h Line.over_empty ht.toSettled
  case endOfInput =>
    -- on an empty line it is a way to enter `exit`, elsewhere it removes a character
    cases he : s.line.isEmpty
    case false =>
      have : s.press .endOfInput = s.edit Line.delete := by simp [Session.press, he]
      rw [this]
      exact ht.edit color h h.line.delete
    case true =>
      have carried : s.press .endOfInput = s.respond "exit" := press_of_carried (if_pos he)
      have empty : s.line.text = "" := by simpa [Line.isEmpty] using he
      have exit : glyphs.Spells "exit" := spells_ascii rfl
      rw [carried] at stays ⊢
      exact draw_respond color h hf exit empty stays ht.toSettled

theorem Displays.feedKey (ht : s.closed = false → s.Displays t) (h : s.Over glyphs) (hf : s.fs.Over glyphs)
    {key : Key} (hk : key.Over glyphs) (stays : (s.feedKey key).1.closed = false) :
    (s.feedKey key).1.Displays (t.draw (s.feedKey key).2 color) := by
  cases hc : s.closed
  case true => simp [feedKey_of_closed hc, hc] at stays
  case false =>
    rw [feedKey_of_open hc] at stays ⊢
    exact (ht hc).press color h hf hk stays

end Session

def Call.Keyed (A : Alphabet) : Call → Prop
  | .key pressed => pressed.Over A
  | .clock _ => True
  | _ => False

namespace Session

open Terminal

variable {s : Session} {t : Terminal} (color : Bool)

-- What holds of a session and its terminal between calls. A closed session shows what it likes.
structure Follows (t : Terminal) (s : Session) : Prop where
  typed  : s.Over glyphs
  fs     : s.fs.Over glyphs
  shown  : s.closed = false → s.Displays t

theorem Follows.answer (h : Follows t s) {call : Call} (hc : call.Keyed glyphs) :
    Follows (t.draw (s.answer call).2 color) (s.answer call).1 := by
  cases call
  case key key =>
    exact ⟨h.typed.feedKey hc, s.fs_feedKey key ▸ h.fs, Displays.feedKey color h.shown h.typed h.fs hc⟩
  case clock time =>
    have shown : { s with clock := time }.closed = false → { s with clock := time }.Displays t := h.shown
    have kept : t.draw (s.answer (.clock time)).2 color = t := t.draw_nil color
    rw [kept]
    exact ⟨h.typed.withClock time, h.fs, shown⟩
  all_goals exact hc.elim

theorem Follows.answerAll (h : Follows t s) {calls : List Call} (hc : ∀ call ∈ calls, call.Keyed glyphs) :
    Follows (t.draw (s.answerAll calls).2 color) (s.answerAll calls).1 := by
  induction calls generalizing s t
  case nil => simpa [Session.answerAll] using h
  case cons call calls hi =>
    have ⟨first, rest⟩ := List.forall_mem_cons.mp hc
    have followed := hi (h.answer color first) rest
    rw [← draw_append] at followed
    exact followed

theorem follows_start {o : Options} (h : o.Over glyphs) (hf : o.fs.Over glyphs) :
    Follows (Terminal.empty.draw (new o).start color) (new o) := by
  have typed := over_new h
  exact ⟨typed, hf, fun _ => displays_prompt rfl (draw_promptChunks color typed shows_empty)⟩

theorem shows_what_is_edited {o : Options} (h : o.Over glyphs) (hf : o.fs.Over glyphs) {calls : List Call}
    (hc : ∀ call ∈ calls, call.Keyed glyphs) (color : Bool) :
    let s := ((new o).answerAll calls).1
    let shown := (new o).start ++ ((new o).answerAll calls).2
    let t := Terminal.empty.write (Screen.render shown color).toList
    s.closed = false →
      t.row = cells (s.prompt.toList ++ s.line.text.toList) ∧
        t.column = columns s.prompt.toList + columns (s.line.text.toList.take s.line.cursor) := by
  intro s shown t stays
  have followed := (follows_start color h hf).answerAll color hc
  rw [← draw_append] at followed
  have displayed : s.Displays t := followed.shown stays
  have row := displayed.row
  have column := displayed.column
  rw [List.append_assoc, List.take_append_drop] at row
  rw [columns_append] at column
  exact ⟨row, column⟩

def wideOptions : Options where
  cwd := "/"
  fs  := ⟨.directory [("中.txt", .file "一\n二")], rfl, List.pairwise_singleton .., trivial, trivial⟩

def wideCalls : List Call :=
  [.key (.char 'l'), .key (.char 's'), .key .enter, .clock .epoch, .key (.char '中'), .key (.char 'a'),
   .key .left]

theorem spells_wideName : glyphs.Spells "中.txt" := by
  simp [Spells, glyphs, IsIdeograph]

theorem over_wideOptions : wideOptions.Over glyphs ∧ wideOptions.fs.Over glyphs := by
  refine ⟨⟨spells_ascii rfl, spells_ascii rfl, spells_ascii rfl, spells_ascii rfl, nofun⟩, FileSystem.over_of_root ?_⟩
  have content : ∀ c ∈ "一\n二".toList, glyphs.Has c ∨ c = '\n' := by simp [glyphs, IsIdeograph]
  exact ⟨spells_wideName, content, trivial⟩

theorem shows_what_is_edited_wide :
    let s := ((new wideOptions).answerAll wideCalls).1
    let shown := (new wideOptions).start ++ ((new wideOptions).answerAll wideCalls).2
    let t := Terminal.empty.write (Screen.render shown true).toList
    s.prompt = "user@shellpane:/$ " ∧ s.line = ⟨"中a", 1⟩ ∧ s.closed = false ∧
      t.row = cells (s.prompt.toList ++ s.line.text.toList) ∧
        t.column = columns s.prompt.toList + columns (s.line.text.toList.take s.line.cursor) := by
  have ⟨typed, tree⟩ := over_wideOptions
  have stays : ((new wideOptions).answerAll wideCalls).1.closed = false := by decide +kernel
  have prompt : ((new wideOptions).answerAll wideCalls).1.prompt = "user@shellpane:/$ " := by decide +kernel
  have line : ((new wideOptions).answerAll wideCalls).1.line = ⟨"中a", 1⟩ := by decide +kernel
  have keyed : ∀ call ∈ wideCalls, call.Keyed glyphs := by
    simp [wideCalls, Call.Keyed, Key.Over, glyphs, IsIdeograph]
  exact ⟨prompt, line, stays, shows_what_is_edited typed tree keyed true stays⟩

end Session

end VirtualShell
