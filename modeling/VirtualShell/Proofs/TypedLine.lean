import VirtualShell.Proofs.Call
import VirtualShell.Proofs.ReadBoundary
import VirtualShell.Proofs.Utf8Text

namespace VirtualShell

theorem Line.insert_ofText (text : String) (c : Char) :
    (ofText text).insert c = ofText (text ++ String.singleton c) := by
  have hl : text.toList.length = text.length := String.length_toList
  have before : text.toList.take text.length = text.toList := List.take_of_length_le (by omega)
  have after : text.toList.drop text.length = [] := List.drop_eq_nil_of_le (by omega)
  have spelled : String.ofList (text.toList ++ [c]) = text ++ String.singleton c := by
    apply String.toList_injective
    simp
  simp only [insert, cut?_eq, ofText, before, after, spelled, String.length_append, String.length_singleton]

theorem Line.foldl_insert_empty (text : String) : text.toList.foldl insert empty = ofText text := by
  suffices ∀ (s : List Char) (front : String), s.foldl insert (ofText front) = ofText (front ++ String.ofList s) by
    have all := this text.toList ""
    rwa [String.ofList_toList, String.empty_append] at all
  intro s
  induction s
  case nil => simp
  case cons c s hi =>
    intro front
    rw [List.foldl_cons, insert_ofText, hi, String.append_assoc]
    apply congrArg fun back => ofText (front ++ back)
    apply String.toList_injective
    simp

namespace Decoder

variable {d : Decoder} (now : Nat)

theorem sequence_expire (h : d.sequence = .idle) : (d.expire now).sequence = .idle :=
  expire_keeps (P := (·.sequence = .idle)) h rfl now

theorem read_of_not_control (h : d.sequence = .idle) {c : Char} (hc : Text.isControl c = false) :
    (d.read c now).1.sequence = .idle ∧ (d.read c now).2 = some (.char c) := by
  have idle := sequence_expire now h
  have escape : c ≠ '\x1b' := by rintro rfl; contradiction
  have lineFeed : c ≠ '\n' := by rintro rfl; contradiction
  simp only [read, step, idle, stepIdle, escape, lineFeed, false_and, if_false]
  exact ⟨trivial, Key.ofChar?_eq_char_iff.mpr ⟨rfl, hc⟩⟩

theorem read_return (h : d.sequence = .idle) : (d.read '\r' now).2 = some .enter := by
  have idle := sequence_expire now h
  simp only [read, step, idle]
  rfl

theorem readAll_of_not_control (h : d.sequence = .idle) {s : List Char}
    (hs : ∀ c ∈ s, Text.isControl c = false) :
    (d.readAll now s).1.sequence = .idle ∧ (d.readAll now s).2 = s.map .char := by
  induction s generalizing d
  case nil => exact ⟨h, rfl⟩
  case cons c s hi =>
    have ⟨hc, hs⟩ := List.forall_mem_cons.mp hs
    have ⟨idle, key⟩ := read_of_not_control now h hc
    have ⟨rest, keys⟩ := hi idle hs
    exact ⟨rest, by simp [readAll, key, keys]⟩

theorem sequence_of_not_isPending (h : d.isPending = false) : d.sequence = .idle := by
  simpa [isPending] using h

theorem keys_feed_encode (h : d.isPending = false) (tail : d.tail = []) {line : String}
    (hl : ∀ c ∈ line.toList, Text.isControl c = false) :
    (d.feed (Utf8.encode line) now).2 = line.toList.map .char ∧
      (d.feed (Utf8.encode line ++ [0x0D]) now).2 = line.toList.map .char ++ [.enter] := by
  have idle : d.forgetReturn.sequence = .idle := sequence_of_not_isPending h
  have typed : d.characters (Utf8.encode line) = line.toList := by
    rw [characters, tail, List.nil_append, Utf8.repair_encode]
  have entered : d.characters (Utf8.encode line ++ [0x0D]) = line.toList ++ ['\r'] := by
    have mark : Utf8.encode "\r" = [0x0D] := Utf8.encode_eq_flatMap "\r"
    rw [characters, tail, List.nil_append, ← mark, ← Utf8.encode_append, Utf8.repair_encode,
      String.toList_append]
    rfl
  obtain ⟨still, keys⟩ := readAll_of_not_control now idle hl
  rw [feed_eq, feed_eq, typed, entered]
  refine ⟨keys, ?_⟩
  simp [readAll_append, readAll, keys, read_return now still]

end Decoder

namespace Session

variable {s : Session}

theorem feedKeys_chars (hs : s.closed = false) (text : List Char) :
    (s.feedKeys (text.map .char)).1 = { s with line := text.foldl Line.insert s.line } := by
  induction text generalizing s
  case nil => rfl
  case cons c text hi =>
    have first : (s.feedKey (.char c)).1 = { s with line := s.line.insert c } := by
      simp [feedKey, hs, press, withLine]
    simp only [List.map_cons, feedKeys, first]
    exact hi hs

theorem feedKey_enter (hs : s.closed = false) (text : String) :
    let run := { s with line := .empty }.run text
    { s with line := .ofText text }.feedKey .enter = (run.1, .plain newLine :: run.1.finish run.2) := by
  simp [feedKey, hs, press, submit, Line.take, Line.ofText]

section

variable {line : String} (isOpen : s.closed = false) (unwritten : s.line = .empty)
  (idle : s.decoder.isPending = false) (whole : s.decoder.tail = [])
  (typable : ∀ c ∈ line.toList, Text.isControl c = false)
include isOpen unwritten idle whole typable

theorem feed_entered (now : Nat) :
    s.feed (Utf8.encode line ++ [0x0D]) now =
      ((s.run line).1.withDecoder (s.decoder.feed (Utf8.encode line ++ [0x0D]) now).1,
        (s.feed (Utf8.encode line) now).2 ++
          .plain newLine :: (s.run line).1.finish (s.run line).2) := by
  have ⟨typed, entered⟩ := Decoder.keys_feed_encode now idle whole typable
  -- the characters alone write the line and do nothing else
  have written : (s.feedKeys (line.toList.map .char)).1 = { s with line := .ofText line } := by
    rw [feedKeys_chars isOpen, unwritten, Line.foldl_insert_empty]
  have last := feedKey_enter isOpen line
  rw [← unwritten] at last
  rw [feed_eq, feed_eq, typed, entered, feedKeys_append, written]
  simp [feedKeys, last]

end

end Session

end VirtualShell
