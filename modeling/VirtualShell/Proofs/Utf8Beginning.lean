import Mathlib.Data.List.Induction
import VirtualShell.Proofs.Utf8Text

namespace VirtualShell.Utf8

variable {unit front a b : List UInt8} {v : Nat}

theorem fits_append : Fits front (a ++ b) ↔ Fits front a ∧ Fits (front ++ a) b := by
  induction a generalizing front
  case nil => simp [Fits]
  case cons x a hi => simp [Fits, hi, and_assoc]

theorem spanOf_le (lead : UInt8) : spanOf lead ≤ 4 := by
  unfold spanOf
  grind

theorem secondRange_le (lead : UInt8) : (secondRange lead).1 ≤ (secondRange lead).2 := by
  unfold secondRange
  grind

theorem exists_continues (lead : UInt8) (unit : List UInt8) : ∃ b, continues (lead :: unit) b := by
  cases unit
  case nil => exact ⟨(secondRange lead).1, by simpa [continues] using secondRange_le lead⟩
  case cons => exact ⟨0x80, rfl⟩

theorem written_of_whole (fits : Fits [] unit) (whole : isWhole unit) : Written unit (codePoint unit) := by
  match unit with
  | [] => exact absurd whole (by decide)
  | [a] =>
    have span : 1 = spanOf a := by simpa [isWhole] using whole
    have lead : a.toNat < 0x80 := by rw [spanOf_eq] at span; grind
    exact .one (Nat.le_of_lt_succ lead) rfl
  | [a, b] =>
    have span : 2 = spanOf a := by simpa [isWhole] using whole
    have lead : 0xC2 ≤ a.toNat ∧ a.toNat ≤ 0xDF := by rw [spanOf_eq] at span; grind
    obtain ⟨_, second, _⟩ := fits
    obtain ⟨⟨_, _⟩, _⟩ := continues_second_iff.mp second
    simp only [codePoint]
    exact .two (by omega) (by omega) (by omega) (by omega)
  | [a, b, c] =>
    have span : 3 = spanOf a := by simpa [isWhole] using whole
    have lead : 0xE0 ≤ a.toNat ∧ a.toNat ≤ 0xEF := by rw [spanOf_eq] at span; grind
    obtain ⟨_, second, third, _⟩ := fits
    obtain ⟨⟨_, _⟩, _, _⟩ := continues_second_iff.mp second
    obtain ⟨_, _⟩ := continues_later_iff.mp third
    simp only [codePoint]
    exact .three (by omega) (by omega) (by omega) (by omega) (by omega) (by omega)
  | [a, b, c, d] =>
    have span : 4 = spanOf a := by simpa [isWhole] using whole
    have lead : 0xF0 ≤ a.toNat ∧ a.toNat ≤ 0xF4 := by rw [spanOf_eq] at span; grind
    obtain ⟨_, second, third, fourth, _⟩ := fits
    obtain ⟨⟨_, _⟩, _, _⟩ := continues_second_iff.mp second
    obtain ⟨_, _⟩ := continues_later_iff.mp third
    obtain ⟨_, _⟩ := continues_later_iff.mp fourth
    simp only [codePoint]
    exact .four (by omega) (by omega) (by omega) (by omega) (by omega) (by omega)
  | a :: _ :: _ :: _ :: _ :: rest =>
    have span : rest.length + 5 = spanOf a := by simpa [isWhole] using whole
    have := spanOf_le a
    omega

namespace Written

theorem unique (ha : Written a v) (hb : Written b v) : a = b := by
  cases ha <;> cases hb
  case one.one => simp only [List.cons.injEq, ← UInt8.toNat_inj, and_true]; omega
  case two.two => simp only [List.cons.injEq, ← UInt8.toNat_inj, and_true]; omega
  case three.three => simp only [List.cons.injEq, ← UInt8.toNat_inj, and_true]; omega
  case four.four => simp only [List.cons.injEq, ← UInt8.toNat_inj, and_true]; omega
  -- a code point is written with one number of octets only
  all_goals omega

theorem isValidChar (h : Written unit v) : v.isValidChar := by
  unfold Nat.isValidChar
  cases h <;> omega

theorem exists_char (h : Written unit v) : ∃ c : Char, String.utf8EncodeChar c = unit :=
  have spelled : Written (String.utf8EncodeChar (.ofNatAux v h.isValidChar)) v := written_utf8EncodeChar _
  ⟨_, spelled.unique h⟩

end Written

namespace Begun

theorem fits (h : Begun unit) : Fits [] unit := by
  induction h
  case nil => trivial
  case octet fits _ hi => exact fits_append.mpr ⟨hi, fits, trivial⟩

theorem length_lt (h : Begun unit) : unit.length < spanOf (unit.headD 0) := by
  induction h
  case nil => decide
  case octet unit b _ fits part hi =>
    have ne : (unit ++ [b]).length ≠ spanOf ((unit ++ [b]).headD 0) := by
      simpa only [isWhole, decide_eq_false_iff_not] using part
    cases unit
    case nil =>
      have : spanOf b ≠ 0 := by simpa [continues] using fits
      simp only [List.nil_append, List.length_singleton, List.headD_cons] at ne ⊢
      omega
    case cons lead unit =>
      simp only [List.cons_append, List.length_cons, List.length_append, List.length_nil,
        List.headD_cons] at hi ne ⊢
      omega

theorem exists_whole (h : Begun unit) (ne : unit ≠ []) :
    ∃ rest, rest ≠ [] ∧ Fits unit rest ∧ isWhole (unit ++ rest) := by
  -- by the number of octets that are missing
  induction missing : spanOf (unit.headD 0) - unit.length generalizing unit
  case zero =>
    have := h.length_lt
    omega
  case succ n hi =>
    have ⟨lead, more, eq⟩ := List.exists_cons_of_ne_nil ne
    have ⟨b, hb⟩ : ∃ b, continues unit b := eq ▸ exists_continues lead more
    by_cases whole : isWhole (unit ++ [b])
    case pos => exact ⟨[b], List.cons_ne_nil _ _, ⟨hb, trivial⟩, whole⟩
    case neg =>
      have next : Begun (unit ++ [b]) := h.octet hb (by simpa using whole)
      have fewer : spanOf ((unit ++ [b]).headD 0) - (unit ++ [b]).length = n := by
        simp only [eq, List.cons_append, List.headD_cons, List.length_cons, List.length_append,
          List.length_nil] at missing ⊢
        omega
      have ⟨rest, _, fits, whole⟩ := hi next (by simp) fewer
      exact ⟨b :: rest, List.cons_ne_nil _ _, ⟨hb, fits⟩, by rwa [List.append_cons]⟩

theorem of_fits {rest : List UInt8} (fits : Fits [] (unit ++ rest)) (whole : isWhole (unit ++ rest))
    (ne : rest ≠ []) : Begun unit := by
  induction unit using List.reverseRecOn generalizing rest
  case nil => exact .nil
  case append_singleton unit b hi =>
    have part : isWhole (unit ++ [b]) = false := not_isWhole_of_append (by simp) ne whole
    rw [← List.append_cons] at fits whole
    have front : Begun unit := hi fits whole (List.cons_ne_nil _ _)
    exact front.octet (fits_append.mp fits).right.left part

end Begun

structure BreaksOff (unit : List UInt8) : Prop where
  nonempty : unit ≠ []
  short    : unit.length ≤ 3
  resumes  : ∃ (c : Char) (rest : List UInt8), rest ≠ [] ∧ String.utf8EncodeChar c = unit ++ rest

theorem Begun.breaksOff (h : Begun unit) (ne : unit ≠ []) : BreaksOff unit := by
  have ⟨rest, more, fits, whole⟩ := h.exists_whole ne
  have ⟨c, eq⟩ := (written_of_whole (fits_append.mpr ⟨h.fits, fits⟩) whole).exists_char
  have short : unit.length < 4 := Nat.lt_of_lt_of_le h.length_lt (spanOf_le _)
  exact ⟨ne, Nat.le_of_lt_succ short, c, rest, more, eq⟩

theorem BreaksOff.begun (h : BreaksOff unit) : Begun unit := by
  have ⟨c, rest, more, eq⟩ := h.resumes
  have spelled := (written_utf8EncodeChar c).spells
  rw [eq] at spelled
  exact .of_fits spelled.fits spelled.isWhole more

theorem kept_iff : Kept unit ↔ unit = [] ∨ BreaksOff unit := by
  rw [kept_iff_begun]
  constructor
  case mp =>
    intro h
    by_cases ne : unit = []
    case pos => exact .inl ne
    case neg => exact .inr (h.breaksOff ne)
  case mpr =>
    rintro (rfl | h)
    · exact .nil
    · exact h.begun

theorem repair_encode_append (s : String) (h : Kept unit) : repair (encode s ++ unit) = (s.toList, unit) := by
  have kept : repair unit = ([], unit) := (repair_eq_run unit).trans h
  rw [repair_append, repair_encode, List.nil_append, kept, List.append_nil]

end VirtualShell.Utf8
