import VirtualShell.Proofs.Utf8

namespace VirtualShell.Utf8

def encode (s : String) : List UInt8 := s.toUTF8.data.toList

theorem encode_eq_flatMap (s : String) : encode s = s.toList.flatMap String.utf8EncodeChar := by
  have : s.toByteArray = s.toList.utf8Encode := by
    rw [← String.toByteArray_ofList, String.ofList_toList]
  rw [encode, String.toUTF8_eq_toByteArray, this]
  exact List.toList_data_toByteArray

theorem encode_append (a b : String) : encode (a ++ b) = encode a ++ encode b := by
  simp [encode_eq_flatMap]

-- Each octet may come next behind those in front of it.
def Fits (front : List UInt8) : List UInt8 → Prop
  | [] => True
  | b :: octets => continues front b ∧ Fits (front ++ [b]) octets

theorem not_isWhole_of_append {front octets : List UInt8} (hf : front ≠ []) (ho : octets ≠ [])
    (h : isWhole (front ++ octets)) : isWhole front = false := by
  cases front
  case nil => contradiction
  case cons a front =>
    have := List.length_pos_iff.mpr ho
    simp [isWhole] at h ⊢
    omega

theorem run_of_fits {front octets : List UInt8} (rest : List UInt8) (ne : octets ≠ [])
    (fits : Fits front octets) (whole : isWhole (front ++ octets)) :
    run front (octets ++ rest) =
      (Char.ofNat (codePoint (front ++ octets)) :: (run [] rest).1, (run [] rest).2) := by
  induction octets generalizing front
  case nil => contradiction
  case cons b octets hi =>
    have ⟨hb, fits⟩ := fits
    -- the last octet completes the character, and none before it does
    by_cases last : octets = []
    case pos => simp [last, run, step, push, hb, last ▸ whole]
    case neg =>
      rw [List.append_cons] at whole ⊢
      have part : isWhole (front ++ [b]) = false := not_isWhole_of_append (by simp) last whole
      have later := hi last fits whole
      simp [run, step, push, hb, part, later]

def Later (b : UInt8) : Prop := 0x80 ≤ b.toNat ∧ b.toNat ≤ 0xBF

theorem spanOf_eq (b : UInt8) : spanOf b =
    if b.toNat < 0x80 then 1
    else if 0xC2 ≤ b.toNat ∧ b.toNat ≤ 0xDF then 2
    else if 0xE0 ≤ b.toNat ∧ b.toNat ≤ 0xEF then 3
    else if 0xF0 ≤ b.toNat ∧ b.toNat ≤ 0xF4 then 4
    else 0 := by
  simp only [spanOf, UInt8.lt_iff_toNat_lt, UInt8.le_iff_toNat_le]
  rfl

theorem continues_second_iff {lead b : UInt8} : continues [lead] b ↔ Later b ∧
    ((lead.toNat = 0xE0 → 0xA0 ≤ b.toNat) ∧ (lead.toNat = 0xF0 → 0x90 ≤ b.toNat)) ∧
      (lead.toNat = 0xED → b.toNat ≤ 0x9F) ∧ (lead.toNat = 0xF4 → b.toNat ≤ 0x8F) := by
  simp only [continues, secondRange, Bool.and_eq_true, decide_eq_true_eq, UInt8.le_iff_toNat_le, ← UInt8.toNat_inj,
    apply_ite Prod.fst, apply_ite Prod.snd, apply_ite UInt8.toNat]
  unfold Later
  grind

theorem continues_later_iff {first second b : UInt8} {more : List UInt8} :
    continues (first :: second :: more) b ↔ Later b := by
  simp [continues, Later, UInt8.le_iff_toNat_le]

structure Spells (unit : List UInt8) (v : Nat) : Prop where
  fits      : Fits [] unit
  isWhole   : isWhole unit
  codePoint : codePoint unit = v

inductive Written : List UInt8 → Nat → Prop
  | one {v : Nat} {a : UInt8} (high : v ≤ 0x7F) (ha : a.toNat = v) : Written [a] v
  | two {v : Nat} {a b : UInt8} (low : 0x80 ≤ v) (high : v ≤ 0x7FF) (ha : a.toNat = v / 64 % 32 + 192)
    (hb : b.toNat = v % 64 + 128) : Written [a, b] v
  | three {v : Nat} {a b c : UInt8} (low : 0x800 ≤ v) (high : v ≤ 0xFFFF)
    (valid : v < 0xD800 ∨ 0xDFFF < v) (ha : a.toNat = v / 4096 % 16 + 224)
    (hb : b.toNat = v / 64 % 64 + 128) (hc : c.toNat = v % 64 + 128) : Written [a, b, c] v
  | four {v : Nat} {a b c d : UInt8} (low : 0x10000 ≤ v) (high : v < 0x110000)
    (ha : a.toNat = v / 262144 % 8 + 240) (hb : b.toNat = v / 4096 % 64 + 128)
    (hc : c.toNat = v / 64 % 64 + 128) (hd : d.toNat = v % 64 + 128) : Written [a, b, c, d] v

theorem written_utf8EncodeChar (c : Char) : Written (String.utf8EncodeChar c) c.toNat := by
  have valid : c.toNat < 0xD800 ∨ 0xDFFF < c.toNat ∧ c.toNat < 0x110000 := c.valid
  have toNat : c.val.toNat = c.toNat := rfl
  have octet {n : Nat} (h : n < 256) : (UInt8.ofNat n).toNat = n := by
    rw [UInt8.toNat_ofNat', Nat.mod_eq_of_lt h]
  simp only [String.utf8EncodeChar, toNat]
  split
  case isTrue => exact .one (by omega) (octet (by omega))
  case isFalse =>
    split
    case isTrue => exact .two (by omega) (by omega) (octet (by omega)) (octet (by omega))
    case isFalse =>
      split
      case isTrue =>
        exact .three (by omega) (by omega) (by omega) (octet (by omega)) (octet (by omega))
          (octet (by omega))
      case isFalse =>
        exact .four (by omega) (by omega) (octet (by omega)) (octet (by omega))
          (octet (by omega)) (octet (by omega))

theorem Written.spells {unit : List UInt8} {v : Nat} (h : Written unit v) : Spells unit v := by
  cases h
  case one a high ha =>
    have span : spanOf a = 1 := by rw [spanOf_eq]; grind
    exact ⟨by simp [Fits, continues, span], by simp [Utf8.isWhole, span], ha⟩
  case two a b low high ha hb =>
    have span : spanOf a = 2 := by rw [spanOf_eq]; grind
    have first : continues [] a := by simp [continues, span]
    have second : continues [a] b := continues_second_iff.mpr ⟨⟨by omega, by omega⟩, by omega, by omega⟩
    refine ⟨by simp [Fits, first, second], by simp [Utf8.isWhole, span], ?_⟩
    simp only [Utf8.codePoint]
    omega
  case three a b c low high valid ha hb hc =>
    have span : spanOf a = 3 := by rw [spanOf_eq]; grind
    have first : continues [] a := by simp [continues, span]
    have second : continues [a] b := continues_second_iff.mpr ⟨⟨by omega, by omega⟩, by omega, by omega⟩
    have third : continues [a, b] c := continues_later_iff.mpr ⟨by omega, by omega⟩
    refine ⟨by simp [Fits, first, second, third], by simp [Utf8.isWhole, span], ?_⟩
    simp only [Utf8.codePoint]
    omega
  case four a b c d low high ha hb hc hd =>
    have span : spanOf a = 4 := by rw [spanOf_eq]; grind
    have first : continues [] a := by simp [continues, span]
    have second : continues [a] b := continues_second_iff.mpr ⟨⟨by omega, by omega⟩, by omega, by omega⟩
    have third : continues [a, b] c := continues_later_iff.mpr ⟨by omega, by omega⟩
    have fourth : continues [a, b, c] d := continues_later_iff.mpr ⟨by omega, by omega⟩
    refine ⟨by simp [Fits, first, second, third, fourth], by simp [Utf8.isWhole, span], ?_⟩
    simp only [Utf8.codePoint]
    omega

theorem run_utf8EncodeChar (c : Char) (rest : List UInt8) :
    run [] (String.utf8EncodeChar c ++ rest) = (c :: (run [] rest).1, (run [] rest).2) := by
  have h := (written_utf8EncodeChar c).spells
  rw [run_of_fits rest String.utf8EncodeChar_ne_nil h.fits h.isWhole, List.nil_append, h.codePoint,
    Char.ofNat_toNat]

theorem repair_encode (s : String) : repair (encode s) = (s.toList, []) := by
  rw [repair_eq_run, encode_eq_flatMap]
  induction s.toList
  case nil => rfl
  case cons c cs hi => rw [List.flatMap_cons, run_utf8EncodeChar, hi]

end VirtualShell.Utf8
