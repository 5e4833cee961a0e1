import Mathlib.Data.List.Lex
import VirtualShell.NameTable
import VirtualShell.Proofs.Utf8Text

namespace VirtualShell

namespace Utf8

theorem cons_lt_cons {a b : UInt8} {s t : List UInt8} (h : a.toNat < b.toNat) : a :: s < b :: t :=
  List.cons_lt_cons_iff.mpr (.inl (UInt8.lt_iff_toNat_lt.mpr h))

theorem cons_lt_cons_of_le {x y : Nat} {a b : UInt8} {s t : List UInt8} (le : x ≤ y)
    (less : x < y → a.toNat < b.toNat) (same : x = y → a.toNat = b.toNat ∧ s < t) : a :: s < b :: t := by
  rcases Nat.lt_or_eq_of_le le with lt | eq
  case inl => exact cons_lt_cons (less lt)
  case inr =>
    have ⟨octet, rest⟩ := same eq
    exact List.cons_lt_cons_iff.mpr (.inr ⟨UInt8.toNat_inj.mp octet, rest⟩)

-- Of two code points the lesser one has the lesser octet where they part, whatever follows.
theorem Written.append_lt {unit other : List UInt8} {v w : Nat} (h : Written unit v) (ho : Written other w)
    (lt : v < w) (s t : List UInt8) : unit ++ s < other ++ t := by
  cases h
  case one => cases ho <;> exact cons_lt_cons (by omega)
  case two =>
    cases ho
    case one => omega
    case two =>
      refine cons_lt_cons_of_le (x := v / 64) (y := w / 64) (by omega) (by omega) fun _ => ⟨by omega, ?_⟩
      exact cons_lt_cons (by omega)
    all_goals exact cons_lt_cons (by omega)
  case three =>
    cases ho
    case three =>
      refine cons_lt_cons_of_le (x := v / 4096) (y := w / 4096) (by omega) (by omega) fun _ => ⟨by omega, ?_⟩
      refine cons_lt_cons_of_le (x := v / 64) (y := w / 64) (by omega) (by omega) fun _ => ⟨by omega, ?_⟩
      exact cons_lt_cons (by omega)
    case four => exact cons_lt_cons (by omega)
    all_goals omega
  case four =>
    cases ho
    case four =>
      refine cons_lt_cons_of_le (x := v / 262144) (y := w / 262144) (by omega) (by omega) fun _ => ⟨by omega, ?_⟩
      refine cons_lt_cons_of_le (x := v / 4096) (y := w / 4096) (by omega) (by omega) fun _ => ⟨by omega, ?_⟩
      refine cons_lt_cons_of_le (x := v / 64) (y := w / 64) (by omega) (by omega) fun _ => ⟨by omega, ?_⟩
      exact cons_lt_cons (by omega)
    all_goals omega

theorem flatMap_lt_flatMap {cs ds : List Char} (h : cs < ds) :
    cs.flatMap String.utf8EncodeChar < ds.flatMap String.utf8EncodeChar := by
  induction h
  case nil d ds =>
    have ⟨b, octets, eq⟩ := List.exists_cons_of_ne_nil (String.utf8EncodeChar_ne_nil (c := d))
    simp [eq]
  case rel c _ d _ lt => exact (written_utf8EncodeChar c).append_lt (written_utf8EncodeChar d) lt _ _
  case cons c _ _ _ hi => exact List.Lex.append_left (· < ·) hi (String.utf8EncodeChar c)

theorem encode_lt_encode {a b : String} (h : a < b) : encode a < encode b := by
  rw [encode_eq_flatMap, encode_eq_flatMap]
  exact flatMap_lt_flatMap h

end Utf8

theorem NameTable.Ordered.octets {α : Type} {t : NameTable α} (h : t.Ordered) :
    t.Pairwise fun p q => Utf8.encode p.1 < Utf8.encode q.1 :=
  h.imp Utf8.encode_lt_encode

end VirtualShell
