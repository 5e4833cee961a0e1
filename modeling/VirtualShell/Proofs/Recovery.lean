import VirtualShell.Proofs.Arrival
import VirtualShell.Proofs.Utf8Text

namespace VirtualShell

namespace Utf8

def repairWithin : Nat → List UInt8 → Option (List Char × List UInt8)
  | 0, _ => none
  | rounds + 1, octets =>
    let (cs, rest) := validPart octets
    match flaw? rest with
    | none => some (cs, rest)
    | some n => (repairWithin rounds (rest.drop n)).map fun (more, tail) => (cs ++ more, tail)

theorem repair_of_flaw?_none {octets : List UInt8} (h : flaw? (validPart octets).2 = none) :
    repair octets = validPart octets := by
  rw [repair]
  split
  case h_1 => rfl
  case h_2 some => cases h.symm.trans some

theorem repair_of_flaw?_some {octets : List UInt8} {n : Nat} (h : flaw? (validPart octets).2 = some n) :
    repair octets = ((validPart octets).1 ++ (repair ((validPart octets).2.drop n)).1,
      (repair ((validPart octets).2.drop n)).2) := by
  rw [repair]
  split
  case h_1 none => cases h.symm.trans none
  case h_2 some =>
    cases h.symm.trans some
    rfl

-- Every flaw takes an octet, so there are no more rounds than octets.
theorem repairWithin_eq {rounds : Nat} {octets : List UInt8} (h : octets.length < rounds) :
    repairWithin rounds octets = some (repair octets) := by
  induction rounds generalizing octets
  case zero => contradiction
  case succ rounds hi =>
    rw [repairWithin]
    dsimp only
    split
    case h_1 none => rw [repair_of_flaw?_none none]
    case h_2 n flaw =>
      have shorter : ((validPart octets).2.drop n).length < rounds := by
        have taken := length_sub_flaw flaw
        have within := length_validPart octets
        rw [List.length_drop]
        omega
      rw [hi shorter, repair_of_flaw?_some flaw]
      rfl

theorem later_of_continues {lead b : UInt8} {unit : List UInt8} (h : continues (lead :: unit) b) : Later b := by
  cases unit
  case nil => exact (continues_second_iff.mp h).left
  case cons => exact continues_later_iff.mp h

theorem Written.not_later {a : UInt8} {unit : List UInt8} {v : Nat} (h : Written (a :: unit) v) : ¬Later a := by
  unfold Later
  cases h <;> omega

-- What was kept of a character gives way to the next one.
theorem run_utf8EncodeChar_behind (unit : List UInt8) (c : Char) (rest : List UInt8) :
    run unit (String.utf8EncodeChar c ++ rest) = (c :: (run [] rest).1, (run [] rest).2) := by
  have afresh : run unit (String.utf8EncodeChar c ++ rest) = run [] (String.utf8EncodeChar c ++ rest) := by
    have ⟨a, octets, eq⟩ := List.exists_cons_of_ne_nil (String.utf8EncodeChar_ne_nil (c := c))
    have first : ¬Later a := (eq ▸ written_utf8EncodeChar c).not_later
    rw [eq, List.cons_append]
    cases unit
    case nil => rfl
    case cons lead unit =>
      have stops : continues (lead :: unit) a = false := by
        simpa using mt later_of_continues first
      simp only [run, step_of_not_continues stops]
  rw [afresh, run_utf8EncodeChar]

theorem run_encode (unit : List UInt8) {s : String} (ne : s ≠ "") : run unit (encode s) = (s.toList, []) := by
  have ⟨c, cs, eq⟩ := List.exists_cons_of_ne_nil (mt String.toList_eq_nil_iff.mp ne)
  rw [encode_eq_flatMap, eq, List.flatMap_cons, run_utf8EncodeChar_behind]
  have rest := repair_encode (String.ofList cs)
  rw [repair_eq_run, encode_eq_flatMap, String.toList_ofList] at rest
  rw [rest]

theorem repair_append_encode (octets : List UInt8) {s : String} (ne : s ≠ "") :
    repair (octets ++ encode s) = ((repair octets).1 ++ s.toList, []) := by
  rw [repair_eq_run, run_append, run_encode _ ne, repair_eq_run]

end Utf8

namespace Decoder

open Utf8 (encode)

variable {d : Decoder}

theorem characters_append_encode (d : Decoder) (octets : List UInt8) (s : String) :
    d.characters (octets ++ encode s) = d.characters octets ++ s.toList := by
  by_cases ne : s = ""
  case pos => simp [ne, Utf8.encode_eq_flatMap]
  case neg => rw [characters, ← List.append_assoc, Utf8.repair_append_encode _ ne, characters]

theorem characters_encode (h : Utf8.Kept d.tail) (s : String) : d.characters (encode s) = s.toList := by
  simpa [characters_nil h] using d.characters_append_encode [] s

theorem tail_feed_encode (d : Decoder) (octets : List UInt8) {s : String} (ne : s ≠ "") (now : Nat) :
    (d.feed (octets ++ encode s) now).1.tail = [] := by
  rw [tail_feed, ← List.append_assoc, Utf8.repair_append_encode _ ne]

theorem recovers_text :
    (∀ octets rounds, octets.length < rounds → Utf8.repairWithin rounds octets = some (Utf8.repair octets)) ∧
    (∀ (d : Decoder) (octets : List UInt8) (s : String) (now : Nat),
      d.characters (octets ++ encode s) = d.characters octets ++ s.toList ∧
      (d.feed (octets ++ encode s) now).2 = (d.forgetReturn.readAll now (d.characters octets ++ s.toList)).2 ∧
      (s ≠ "" → (d.feed (octets ++ encode s) now).1.tail = [])) ∧
    ∀ (timeout : Nat) (reads : List (List UInt8 × Nat)) (s : String) (now : Nat),
      let fresh : Decoder := { timeout }
      let earlier := reads.map fun (octets, now) => .octets octets now
      let d := fresh.receiveAll earlier
      (fresh.decodedAll earlier).map Prod.fst = fresh.characters (reads.flatMap Prod.fst) ∧
      d.characters (encode s) = s.toList ∧
      (s ≠ "" → (d.feed (encode s) now).1.tail = []) := by
  refine ⟨fun _ _ => Utf8.repairWithin_eq, fun d octets s now => ?read, fun timeout reads s now => ?reads⟩
  case read =>
    refine ⟨d.characters_append_encode octets s, ?_, fun ne => d.tail_feed_encode octets ne now⟩
    rw [feed_eq, characters_append_encode]
  case reads =>
    intro fresh earlier d
    have kept : Utf8.Kept d.tail := kept_receiveAll earlier Utf8.kept_nil
    exact ⟨decodedAll_octets reads Utf8.kept_nil, characters_encode kept s, fun ne => d.tail_feed_encode [] ne now⟩

theorem recovers_text_broken_off :
    let fresh : Decoder := { timeout := 50 }
    let octets : List UInt8 := [0xFF, 0x61, 0xE2, 0x82]
    let cut := fresh.receiveAll [.octets [0xFF, 0x61, 0xE2] 0, .octets [0x82] 7]
    (octets.length < 5 ∧ Utf8.repairWithin 5 octets = some (['a'], [0xE2, 0x82])) ∧
      "é€" ≠ "" ∧ fresh.characters (octets ++ encode "é€") = ['a', 'é', '€'] ∧
      (fresh.feed (octets ++ encode "é€") 7).1.tail = [] ∧
      cut.characters (encode "é€") = ['é', '€'] ∧ (cut.feed (encode "é€") 9).1.tail = [] := by
  intro fresh octets cut
  have ⟨rounds, read, reads⟩ := recovers_text
  have repaired : Utf8.repair octets = (['a'], [0xE2, 0x82]) := by
    rw [Utf8.repair_eq_run]
    decide
  have ne : "é€" ≠ "" := by decide
  have ⟨whole, _, tail⟩ := read fresh octets "é€" 7
  have ⟨_, behind, kept⟩ := reads 50 [([0xFF, 0x61, 0xE2], 0), ([0x82], 7)] "é€" 9
  have front : fresh.characters octets = ['a'] := congrArg Prod.fst repaired
  rw [front] at whole
  refine ⟨⟨by decide, ?_⟩, ne, whole, tail ne, behind, kept ne⟩
  rw [rounds octets 5 (by decide), repaired]

end Decoder

end VirtualShell
