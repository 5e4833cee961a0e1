import VirtualShell.Proofs.KeyReading
import VirtualShell.Proofs.TypedLine

namespace VirtualShell

namespace Key

def sequenceKeys : List (List Char × Key) :=
  cursorKeys.flatMap (fun (c, key) => [(['[', c], key), (['O', c], key)]) ++
    paramKeys.map fun (params, key) => ('[' :: params ++ ['~'], key)

variable {rest : List Char} {key : Key}

theorem foldl_push_sequence (whole : List Token) (more : Nat) (h : (rest, key) ∈ sequenceKeys) :
    ∃ t : Token, rest.foldl Tokens.push ⟨whole, some (.escape more)⟩ = ⟨whole ++ [t], none⟩ ∧
      t.IsSequence ∧ t.key? = some key := by
  simp only [sequenceKeys, cursorKeys, paramKeys, List.flatMap_cons, List.flatMap_nil, List.map_cons, List.map_nil,
    List.cons_append, List.nil_append, List.mem_cons, List.not_mem_nil, or_false, Prod.mk.injEq] at h
  rcases h with h | h | h | h | h | h | h | h | h | h | h | h | h | h | h | h | h
  all_goals
    obtain ⟨rfl, rfl⟩ := h
    exact ⟨_, rfl, trivial, rfl⟩

theorem not_isControl_of_mem_sequenceKeys (h : (rest, key) ∈ sequenceKeys) :
    ∀ c ∈ rest, Text.isControl c = false := by
  have printable : sequenceKeys.all fun (rest, _) => rest.all (!Text.isControl ·) := by decide
  intro c hc
  have row := List.all_eq_true.mp printable _ h
  simpa using List.all_eq_true.mp row c hc

end Key

namespace Decoder

open Key

variable {d : Decoder} {now : Nat} {ts : Tokens} {rest : List Char} {key : Key}

namespace Stands

theorem exists_push_escape (h : Stands now d ts) (fresh : d.sequence = .idle ∨ d.sequence = .escape) :
    ∃ more, ts.push '\x1b' = ⟨ts.whole, some (.escape more)⟩ := by
  rw [h.sequence] at fresh
  obtain ⟨whole, broken⟩ := ts
  rcases broken with _ | (more | more | ⟨more, p⟩)
  case none => exact ⟨0, rfl⟩
  case some.escape => exact ⟨more + 1, rfl⟩
  all_goals simp [Fragment.sequence] at fresh

theorem readAll_sequence (h : Stands now d ts) (fresh : d.sequence = .idle ∨ d.sequence = .escape)
    (hq : (rest, key) ∈ sequenceKeys) :
    (d.readAll now ('\x1b' :: rest)).1.sequence = .idle ∧ (d.readAll now ('\x1b' :: rest)).2 = [key] := by
  have ⟨more, begun⟩ := h.exists_push_escape fresh
  have ⟨t, made, isSequence, hk⟩ := foldl_push_sequence ts.whole more hq
  have ⟨stands, keys⟩ := h.readAll ('\x1b' :: rest)
  rw [List.foldl_cons, begun, made] at stands keys
  have last : Tokens.keys ⟨ts.whole ++ [t], none⟩ = ts.keys ++ [key] := by
    simp [Tokens.keys, Token.keysBehind_concat, Token.keyBehind?_of_isSequence isSequence, hk]
  exact ⟨stands.sequence, (List.append_cancel_left (last.symm.trans keys)).symm⟩

theorem read_escape (h : Stands now d ts) (idle : d.sequence ≠ .idle) (escape : d.sequence ≠ .escape) :
    (d.read '\x1b' now).1.sequence = .idle ∧ (d.read '\x1b' now).2 = none := by
  simp only [read, h.expire_eq, step]
  cases hs : d.sequence
  case idle => contradiction
  case escape => contradiction
  case control => exact ⟨rfl, rfl⟩
  case single => exact ⟨rfl, rfl⟩

theorem readAll_typed (h : Stands now d ts) (idle : d.sequence ≠ .idle) (escape : d.sequence ≠ .escape)
    (hr : ∀ c ∈ rest, Text.isControl c = false) :
    (d.readAll now ('\x1b' :: rest)).1.sequence = .idle ∧
      (d.readAll now ('\x1b' :: rest)).2 = rest.map .char := by
  have ⟨ended, silent⟩ := h.read_escape idle escape
  have ⟨still, typed⟩ := readAll_of_not_control now ended hr
  exact ⟨still, by simp [Decoder.readAll, silent, typed]⟩

end Stands

theorem feed_encode (timeout now : Nat) (s : String) :
    Decoder.feed { timeout } (Utf8.encode s) now = readAll { timeout } now s.toList := by
  simp [feed, Utf8.repair_encode]

-- The key of a sequence comes last unless the text before it breaks off inside a control sequence
-- or behind `ESC O`. There the sequence is typed without its escape character.
theorem feed_sequence_behind (timeout now : Nat) (p : String) (rest : List Char) (key : Key)
    (h : (rest, key) ∈ sequenceKeys) :
    let before := Decoder.feed { timeout } (Utf8.encode p) now
    let after := Decoder.feed { timeout } (Utf8.encode (p ++ String.ofList ('\x1b' :: rest))) now
    after.1.sequence = .idle ∧
      after.2 = before.2 ++
        if before.1.sequence = .idle ∨ before.1.sequence = .escape then [key] else rest.map .char := by
  have ⟨stands, _⟩ := (stands_fresh timeout now).readAll p.toList
  simp only [feed_encode, String.toList_append, String.toList_ofList, readAll_append]
  split
  case isTrue fresh =>
    have ⟨idle, keys⟩ := stands.readAll_sequence fresh h
    exact ⟨idle, by rw [keys]⟩
  case isFalse stale =>
    have ⟨idle, escape⟩ := not_or.mp stale
    have ⟨idle, keys⟩ := stands.readAll_typed idle escape (not_isControl_of_mem_sequenceKeys h)
    exact ⟨idle, by rw [keys]⟩

theorem feed_sequence_behind_escapes :
    let before := Decoder.feed { timeout := 50 } (Utf8.encode "a\x1b\x1b") 7
    let after := Decoder.feed { timeout := 50 } (Utf8.encode "a\x1b\x1b\x1bOD") 7
    (['O', 'D'], .left) ∈ sequenceKeys ∧ before.1.sequence = .escape ∧ after.1.sequence = .idle ∧
      after.2 = [.char 'a', .left] := by
  intro before after
  have listed : (['O', 'D'], .left) ∈ sequenceKeys := by decide
  have waits : before.1.sequence = .escape ∧ before.2 = [.char 'a'] := by
    simp only [before, feed_encode]
    decide
  have ⟨idle, keys⟩ := feed_sequence_behind 50 7 "a\x1b\x1b" _ _ listed
  rw [if_pos (.inr waits.left), waits.right] at keys
  exact ⟨listed, waits.left, idle, keys⟩

theorem types_sequence_in_control :
    let before := Decoder.feed { timeout := 50 } (Utf8.encode "\x1b[") 0
    let after := Decoder.feed { timeout := 50 } (Utf8.encode ("\x1b[" ++ "\x1b[A")) 0
    (['[', 'A'], .up) ∈ sequenceKeys ∧ before.2 = [] ∧ after.2 = [.char '[', .char 'A'] ∧
      after.2 ≠ before.2 ++ [.up] := by
  simp only [feed_encode]
  decide

end Decoder

end VirtualShell
