import Mathlib.Data.List.Forall2
import VirtualShell.Session.Basic

namespace VirtualShell

namespace Text

def breakLines (s : List Char) : List Char := s.flatMap fun c => if c = '\n' then ['\r', '\n'] else [c]

def joinBreaks : List Char → List Char
  | '\r' :: '\n' :: s => '\n' :: joinBreaks s
  | c :: s => c :: joinBreaks s
  | [] => []

-- A text with a line feed at its end, which it may have already.
def ended (s : List Char) : List Char := if s.getLast? = some '\n' then s else s ++ ['\n']

variable {s : List Char} {c : Char}

theorem breakLines_append (a b : List Char) : breakLines (a ++ b) = breakLines a ++ breakLines b :=
  List.flatMap_append

theorem breakLines_lineFeed (s : List Char) : breakLines ('\n' :: s) = '\r' :: '\n' :: breakLines s := rfl

theorem breakLines_cons (ne : c ≠ '\n') (s : List Char) : breakLines (c :: s) = c :: breakLines s := by
  simp [breakLines, ne]

theorem breakLines_of_not_mem (h : '\n' ∉ s) : breakLines s = s := by
  induction s
  case nil => rfl
  case cons c s hi =>
    have ⟨ne, h⟩ := not_or.mp (mt List.mem_cons.mpr h)
    rw [breakLines_cons (Ne.symm ne), hi h]

theorem head?_breakLines_ne (s : List Char) : (breakLines s).head? ≠ some '\n' := by
  cases s
  case nil => nofun
  case cons c s =>
    by_cases hc : c = '\n'
    case pos => simp [hc, breakLines_lineFeed]
    case neg => simp [breakLines_cons hc, hc]

theorem joinBreaks_cons (h : s.head? ≠ some '\n') (c : Char) : joinBreaks (c :: s) = c :: joinBreaks s := by
  rw [joinBreaks]
  rintro _ rfl rfl
  exact h rfl

-- A carriage return of the text's own stays, even in front of a line feed.
theorem joinBreaks_breakLines (s : List Char) : joinBreaks (breakLines s) = s := by
  induction s
  case nil => rfl
  case cons c s hi =>
    by_cases hc : c = '\n'
    case pos => rw [hc, breakLines_lineFeed, joinBreaks, hi]
    case neg => rw [breakLines_cons hc, joinBreaks_cons (head?_breakLines_ne s), hi]

theorem getLast?_of_breakLines {front rest : List Char} (h : breakLines s = front ++ '\n' :: rest) :
    front.getLast? = some '\r' := by
  induction s generalizing front
  case nil => simp [breakLines] at h
  case cons c s hi =>
    by_cases hc : c = '\n'
    case pos =>
      rw [hc, breakLines_lineFeed] at h
      -- the break's own line feed has one character in front of it, any other has more
      match front with
      | [] => simp at h
      | [a] => cases h; rfl
      | a :: b :: front =>
        have last : front.getLast? = some '\r' := hi (List.cons.inj (List.cons.inj h).right).right
        simp [List.getLast?_cons, last]
    case neg =>
      rw [breakLines_cons hc] at h
      cases front
      case nil => exact absurd (List.cons.inj h).left hc
      case cons a front =>
        have last : front.getLast? = some '\r' := hi (List.cons.inj h).right
        simp [List.getLast?_cons, last]

theorem exists_ended (s : List Char) : ∃ body, ended s = body ++ ['\n'] := by
  unfold ended
  split
  case isTrue h => exact List.getLast?_eq_some_iff.mp h
  case isFalse => exact ⟨s, rfl⟩

theorem ended_append_lineFeed (s : List Char) : ended (s ++ ['\n']) = s ++ ['\n'] :=
  if_pos List.getLast?_concat

theorem ended_of_getLast?_ne (h : s.getLast? ≠ some '\n') : ended s = s ++ ['\n'] :=
  if_neg h

def ofRows (rows : List (List Char)) : List Char := rows.flatMap (· ++ ['\n'])

variable {rows : List (List Char)}

theorem breakLines_ofRows (single : ∀ row ∈ rows, '\n' ∉ row) :
    breakLines (ofRows rows) = rows.flatMap (· ++ ['\r', '\n']) := by
  induction rows
  case nil => rfl
  case cons row rows hi =>
    have ⟨first, single⟩ := List.forall_mem_cons.mp single
    have rest : breakLines (ofRows rows) = rows.flatMap (· ++ ['\r', '\n']) := hi single
    rw [ofRows, List.flatMap_cons, breakLines_append, breakLines_append, breakLines_of_not_mem first, ← ofRows, rest]
    rfl

theorem ofRows_concat (rows : List (List Char)) (row : List Char) :
    ofRows (rows ++ [row]) = ofRows rows ++ row ++ ['\n'] := by
  simp [ofRows]

theorem ended_ofRows (ne : rows ≠ []) : ended (ofRows rows) = ofRows rows := by
  have ⟨front, row, eq⟩ := (List.eq_nil_or_concat' rows).resolve_left ne
  rw [eq, ofRows_concat, ended_append_lineFeed]

theorem ended_dropLast_ofRows (ne : rows ≠ []) (single : ∀ row ∈ rows, '\n' ∉ row)
    (last : rows.getLast? ≠ some []) : ended (ofRows rows).dropLast = ofRows rows := by
  have ⟨front, row, eq⟩ := (List.eq_nil_or_concat' rows).resolve_left ne
  have filled : row ≠ [] := by
    rintro rfl
    exact last (eq ▸ List.getLast?_concat)
  have final : (ofRows front ++ row).getLast? ≠ some '\n' := by
    rw [List.getLast?_append_of_ne_nil _ filled]
    exact fun h => single row (by simp [eq]) (List.mem_of_getLast? h)
  rw [eq, ofRows_concat, List.dropLast_concat, ended_of_getLast?_ne final]

end Text

namespace Session

open Text

theorem toList_terminalLine (s : String) : (terminalLine s).toList = breakLines (ended s.toList) := by
  have newLine : newLine.toList = breakLines ['\n'] := by decide
  simp only [terminalLine, String.toList_append, String.toList_ofList, newLine]
  unfold ended
  split
  case isTrue h =>
    have ⟨body, eq⟩ := List.getLast?_eq_some_iff.mp h
    rw [eq, List.dropLast_concat, breakLines_append]
    rfl
  case isFalse => exact (breakLines_append ..).symm

theorem toList_render_renderLines (lines : List OutputLine) : (Screen.render (renderLines lines) false).toList =
    breakLines (lines.flatMap fun line => ended line.plain.toList) := by
  induction lines
  case nil => rfl
  case cons line lines hi =>
    have first : (Screen.renderChunk false (.text (terminalLine line.plain) line.color?)).toList =
        breakLines (ended line.plain.toList) := by
      rw [← toList_terminalLine]
      cases line.color? <;> rfl
    rw [List.flatMap_cons, breakLines_append, ← hi, ← first]
    exact Screen.toList_render_cons ..

structure TerminalBreaks (s : List Char) : Prop where
  returned : ∀ front rest, s = front ++ '\n' :: rest → front.getLast? = some '\r'
  last     : ['\r', '\n'] <:+ s

theorem terminalBreaks_terminalLine (s : String) : TerminalBreaks (terminalLine s).toList := by
  rw [toList_terminalLine]
  have ⟨body, eq⟩ := exists_ended s.toList
  refine ⟨fun _ _ => getLast?_of_breakLines, ?_⟩
  rw [eq, breakLines_append]
  exact List.suffix_append ..

theorem renderLines_text (s : String) : renderLines [.text s] = [.plain (terminalLine s)] := rfl

theorem renderLines_text_iff (s t : String) :
    renderLines [.text s] = renderLines [.text t] ↔ ended s.toList = ended t.toList where
  mp h := by
    have shown : terminalLine s = terminalLine t := (Chunk.text.inj (List.singleton_inj.mp h)).left
    have both := congrArg (joinBreaks ∘ String.toList) shown
    simpa [toList_terminalLine, joinBreaks_breakLines] using both
  mpr h := by
    have shown : terminalLine s = terminalLine t := by
      apply String.toList_injective
      rw [toList_terminalLine, toList_terminalLine, h]
    rw [renderLines_text, renderLines_text, shown]

theorem renderLines_of_ended {s : List Char} {rows : List (List Char)} (h : ended s = ofRows rows)
    (single : ∀ row ∈ rows, '\n' ∉ row) :
    renderLines [.text (.ofList s)] = [.plain (.ofList (rows.flatMap (· ++ ['\r', '\n'])))] := by
  have text : terminalLine (.ofList s) = .ofList (rows.flatMap (· ++ ['\r', '\n'])) := by
    apply String.toList_injective
    rw [toList_terminalLine, String.toList_ofList, String.toList_ofList, h, breakLines_ofRows single]
  rw [renderLines_text, text]

-- Line by line, output is shown as it is printed. Texts are shown alike only if they are the same but
-- for a last line feed, and every row of a text is a row that is shown, blank ones too.
theorem output_keeps_its_lines :
    (∀ lines : List OutputLine,
      List.Forall₂ (fun line chunk => ∃ shown, chunk = .text shown line.color? ∧ TerminalBreaks shown.toList)
        lines (renderLines lines) ∧
      joinBreaks (Screen.render (renderLines lines) false).toList =
        lines.flatMap fun line => ended line.plain.toList) ∧
    (∀ s t : String, renderLines [.text s] = renderLines [.text t] ↔ ended s.toList = ended t.toList) ∧
    ∀ rows : List (List Char), rows ≠ [] → (∀ row ∈ rows, '\n' ∉ row) →
      let shown : Chunk := .plain (.ofList (rows.flatMap (· ++ ['\r', '\n'])))
      renderLines [.text (.ofList (ofRows rows))] = [shown] ∧
        (rows.getLast? ≠ some [] → renderLines [.text (.ofList (ofRows rows).dropLast)] = [shown]) := by
  refine ⟨fun lines => ⟨?chunks, ?joined⟩, renderLines_text_iff, fun rows ne single => ?rows⟩
  case chunks =>
    refine List.forall₂_map_right_iff.mpr (List.forall₂_same.mpr fun line _ => ?_)
    exact ⟨_, rfl, terminalBreaks_terminalLine _⟩
  case joined => rw [toList_render_renderLines, joinBreaks_breakLines]
  case rows =>
    exact ⟨renderLines_of_ended (ended_ofRows ne) single,
      fun last => renderLines_of_ended (ended_dropLast_ofRows ne single last) single⟩

theorem output_keeps_its_lines_blank :
    let rows := [['a', '\r'], [], ['b']]
    let lines : List OutputLine := [.directory "d", .text "a\n\n"]
    (rows ≠ [] ∧ (∀ row ∈ rows, '\n' ∉ row) ∧ rows.getLast? ≠ some []) ∧
      renderLines [.text "a\r\n\nb\n"] = [.plain "a\r\r\n\r\nb\r\n"] ∧
      renderLines [.text "a\r\n\nb"] = [.plain "a\r\r\n\r\nb\r\n"] ∧
      renderLines lines = [.colored "d/\r\n" .blue, .plain "a\r\n\r\n"] ∧
      joinBreaks (Screen.render (renderLines lines) false).toList = "d/\na\n\n".toList := by
  intro rows lines
  have ⟨printed, _, shown⟩ := output_keeps_its_lines
  have given : rows ≠ [] ∧ (∀ row ∈ rows, '\n' ∉ row) ∧ rows.getLast? ≠ some [] := by decide
  have ⟨whole, unended⟩ := shown rows given.left given.right.left
  have content : String.ofList (ofRows rows) = "a\r\n\nb\n" := by decide
  have front : String.ofList (ofRows rows).dropLast = "a\r\n\nb" := by decide
  have text : String.ofList (rows.flatMap (· ++ ['\r', '\n'])) = "a\r\r\n\r\nb\r\n" := by decide
  rw [content, text] at whole
  rw [front, text] at unended
  exact ⟨given, whole, unended given.right.right, by decide, (printed lines).right⟩

end Session

end VirtualShell
