import VirtualShell.Session.Basic

namespace VirtualShell

namespace Session

variable {s : Session} {key : Key}

theorem feedKey_of_open (h : s.closed = false) (key : Key) : s.feedKey key = s.press key := by
  simp [feedKey, h]

theorem feedKey_of_closed (h : s.closed = true) (key : Key) : s.feedKey key = (s, []) :=
  if_pos h

def carried? (s : Session) : Key → Option (Session × String)
  | .enter => some ({ s with line := .empty, history := s.history.add s.line.text }, s.line.text)
  | .endOfInput => if s.line.isEmpty then some (s, "exit") else none
  | _ => none

theorem carried?_eq_none (enter : key ≠ .enter) (typing : ¬(key = .endOfInput ∧ s.line.isEmpty)) :
    s.carried? key = none := by
  unfold carried?
  split
  · contradiction
  · exact if_neg fun empty => typing ⟨rfl, empty⟩
  · rfl

theorem carried?_state {t : Session} {text : String} (h : s.carried? key = some (t, text)) :
    ∃ line history, t = { s with line, history } := by
  cases key
  case enter =>
    cases h
    exact ⟨_, _, rfl⟩
  case endOfInput =>
    cases (Option.ite_none_right_eq_some.mp h).right
    exact ⟨s.line, s.history, rfl⟩
  all_goals cases h

def respond (s : Session) (text : String) : Session × List Chunk :=
  let (s, outcome) := s.dispatch text
  (s, .plain newLine :: s.finish outcome)

theorem press_of_carried {t : Session} {text : String} (h : s.carried? key = some (t, text)) :
    s.press key = t.respond text := by
  cases key
  case enter =>
    cases h
    rfl
  case endOfInput =>
    have ⟨empty, eq⟩ := Option.ite_none_right_eq_some.mp h
    cases eq
    exact if_pos empty
  all_goals cases h

-- An answer to a key that changes the line at most. It does not change even that if it shows
-- nothing or rings the bell alone.
structure Edits (s : Session) (r : Session × List Chunk) : Prop where
  state : ∃ line, r.1 = { s with line }
  quiet : r.2 = [] ∨ r.2 = [.bell] → r.1 = s
  stays : .exit ∉ r.2

theorem exit_not_mem_promptChunks (s : Session) : .exit ∉ s.promptChunks := by
  simp [promptChunks, Chunk.plain, Chunk.colored]

theorem exit_not_mem_redraw (s : Session) : .exit ∉ s.redraw := by
  simp [redraw, s.exit_not_mem_promptChunks, Chunk.plain]

theorem edits_silent (s : Session) : Edits s (s, []) :=
  ⟨⟨s.line, rfl⟩, fun _ => rfl, nofun⟩

theorem edits_bell (s : Session) : Edits s (s, [.bell]) :=
  ⟨⟨s.line, rfl⟩, fun _ => rfl, by simp⟩

theorem edits_shown (line : Line) {chunk : Chunk} {chunks : List Chunk} (hb : chunk ≠ .bell)
    (he : .exit ∉ chunk :: chunks) : Edits s ({ s with line }, chunk :: chunks) where
  state := ⟨line, rfl⟩
  quiet := by
    rintro (h | h)
    · cases h
    · cases h
      exact absurd rfl hb
  stays := he

theorem edits_withLine (s : Session) (line : Line) : Edits s (s.withLine line) :=
  edits_shown line nofun (exit_not_mem_redraw { s with line })

theorem edits_edit (s : Session) (op : Line → Bool × Line) : Edits s (s.edit op) := by
  unfold edit
  split
  · exact s.edits_withLine _
  · exact s.edits_bell

theorem edits_move (s : Session) (op : Line → Bool × Line) : Edits s (s.move op) := by
  unfold move
  split
  · exact s.edits_withLine _
  · exact s.edits_silent

theorem edits_browse (s : Session) (step : History → Option String × History) :
    Edits { s with history := (step s.history).2 } (s.browse step) := by
  simp only [browse]
  split
  · exact edits_withLine { s with history := _ } _
  · exact edits_bell { s with history := _ }

theorem edits_complete (s : Session) : Edits s s.complete := by
  unfold complete
  split
  · exact s.edits_withLine _
  · refine edits_shown s.line nofun ?_
    simp [s.exit_not_mem_redraw, Chunk.plain]
  · exact s.edits_bell

theorem press_of_not_carried (h : s.carried? key = none) :
    ∃ cursor, Edits { s with history := { s.history with cursor } } (s.press key) ∧
      (key ≠ .up → key ≠ .down → cursor = s.history.cursor) := by
  -- all keys but two leave the history alone
  have still {r : Session × List Chunk} (hr : Edits s r) :
      ∃ cursor, Edits { s with history := { s.history with cursor } } r ∧
        (key ≠ .up → key ≠ .down → cursor = s.history.cursor) :=
    ⟨s.history.cursor, hr, fun _ _ => rfl⟩
  cases key
  case char c => exact still (s.edits_withLine _)
  case backspace => exact still (s.edits_edit _)
  case delete => exact still (s.edits_edit _)
  case enter => cases h
  case tab => exact still s.edits_complete
  case up =>
    have ⟨cursor, eq⟩ := s.history.previous_eq
    exact ⟨cursor, eq ▸ s.edits_browse History.previous, fun up => absurd rfl up⟩
  case down =>
    have ⟨cursor, eq⟩ := s.history.next_eq
    exact ⟨cursor, eq ▸ s.edits_browse History.next, fun _ down => absurd rfl down⟩
  case left => exact still (s.edits_move _)
  case right => exact still (s.edits_move _)
  case home => exact still (s.edits_move _)
  case endOfLine => exact still (s.edits_move _)
  case interrupt =>
    refine still (edits_shown .empty nofun ?_)
    simp [exit_not_mem_promptChunks, Chunk.plain]
  case clearScreen =>
    refine still (edits_shown s.line nofun ?_)
    simp [s.exit_not_mem_redraw]
  case killLine =>
    simp only [press]
    split
    · exact still s.edits_silent
    · exact still (s.edits_withLine _)
  case endOfInput =>
    simp only [press]
    split
    case isTrue empty => simp [carried?, empty] at h
    case isFalse => exact still (s.edits_edit _)

theorem feedKey_interrupt_withLine (line : Line) (h : s.closed = false) :
    { s with line }.feedKey .interrupt = s.feedKey .interrupt := by
  simp [feedKey, h, press, promptChunks, user, shortCwd]

-- What was typed before an interrupt makes no difference to it.
theorem interrupt_behind_key (up : key ≠ .up) (down : key ≠ .down) (enter : key ≠ .enter)
    (endOfInput : key ≠ .endOfInput) :
    (s.feedKey key).1.feedKey .interrupt = s.feedKey .interrupt := by
  cases hc : s.closed
  case true => rw [feedKey_of_closed hc]
  case false =>
    have none : s.carried? key = none := carried?_eq_none enter fun ⟨eq, _⟩ => endOfInput eq
    have ⟨cursor, edits, still⟩ := press_of_not_carried none
    cases still up down
    have ⟨line, eq⟩ := edits.state
    rw [feedKey_of_open hc, eq]
    exact feedKey_interrupt_withLine line hc

theorem interrupt_behind_keys {keys : List Key}
    (h : ∀ key ∈ keys, key ≠ .up ∧ key ≠ .down ∧ key ≠ .enter ∧ key ≠ .endOfInput) :
    (s.feedKeys keys).1.feedKey .interrupt = s.feedKey .interrupt := by
  induction keys generalizing s
  case nil => rfl
  case cons key keys hi =>
    have ⟨⟨up, down, enter, endOfInput⟩, rest⟩ := List.forall_mem_cons.mp h
    have first : (s.feedKey key).1.feedKey .interrupt = s.feedKey .interrupt :=
      interrupt_behind_key up down enter endOfInput
    exact (hi rest).trans first

theorem only_carried_lines_change (s : Session) :
    (∀ key, key ≠ .enter → ¬(key = .endOfInput ∧ s.line.isEmpty) →
      let r := s.feedKey key
      r.1.env = s.env ∧ r.1.cwd = s.cwd ∧ r.1.host = s.host ∧ r.1.fs = s.fs ∧
        r.1.history.entries = s.history.entries ∧ r.1.closed = s.closed ∧
        (key ≠ .up → key ≠ .down → r.1.history.cursor = s.history.cursor) ∧
        (r.2 = [] ∨ r.2 = [.bell] → r.1.line = s.line)) ∧
    ∀ keys : List Key, (∀ key ∈ keys, key ≠ .up ∧ key ≠ .down ∧ key ≠ .enter ∧ key ≠ .endOfInput) →
      (s.feedKeys keys).1.feedKey .interrupt = s.feedKey .interrupt := by
  refine ⟨fun key enter typing => ?_, fun keys => interrupt_behind_keys⟩
  unfold feedKey
  split
  case isTrue => exact ⟨rfl, rfl, rfl, rfl, rfl, rfl, fun _ _ => rfl, fun _ => rfl⟩
  case isFalse =>
    have ⟨cursor, edits, still⟩ := press_of_not_carried (carried?_eq_none enter typing)
    have ⟨line, eq⟩ := edits.state
    have unmoved (shown : (s.press key).2 = [] ∨ (s.press key).2 = [.bell]) : (s.press key).1.line = s.line := by
      rw [edits.quiet shown]
    dsimp only
    refine ⟨?_, ?_, ?_, ?_, ?_, ?_, fun up down => ?_, unmoved⟩
    all_goals rw [eq]
    exact still up down

theorem only_carried_lines_change_recall :
    let s := ((new { historyCapacity := 2 }).run "ls").1
    let recalled := s.feedKey .up
    let rung := s.feedKey .down
    let typed := s.feedKeys [.char 'p', .char 'w', .left, .tab]
    recalled.1.line = .ofText "ls" ∧ recalled.1.env = s.env ∧ recalled.1.cwd = s.cwd ∧
      recalled.1.history.entries = s.history.entries ∧ recalled.1.closed = s.closed ∧
      rung.2 = [.bell] ∧ rung.1.line = s.line ∧
      typed.1.line = .ofText "pwd " ∧ typed.1.feedKey .interrupt = s.feedKey .interrupt := by
  intro s recalled rung typed
  have ⟨keeps, gives⟩ := only_carried_lines_change s
  have ⟨env, cwd, _, _, entries, closed, _⟩ := keeps .up nofun nofun
  have bell : rung.2 = [.bell] := by decide +kernel
  have ⟨_, _, _, _, _, _, _, line⟩ := keeps .down nofun nofun
  have found : recalled.1.line = .ofText "ls" := by decide +kernel
  have edited : typed.1.line = .ofText "pwd " := by decide +kernel
  exact ⟨found, env, cwd, entries, closed, bell, line (.inr bell), edited, gives _ (by decide)⟩

end Session

end VirtualShell
