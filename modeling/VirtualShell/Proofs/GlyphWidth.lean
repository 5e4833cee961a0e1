import VirtualShell.Proofs.Terminal
import VirtualShell.Text.Width

namespace VirtualShell.Text

open Terminal

variable {c : Char}

theorem followerOf_glyph (h : glyphs.Has c) : followerOf c = .plain := by
  have feed : c ≠ '\n' := by
    intro eq
    subst eq
    simp [glyphs, IsIdeograph] at h
  cases h
  case inl h =>
    have ascii : c.toNat ≤ 0xA0 := by omega
    simp [followerOf, feed, ascii]
  case inr h =>
    have lo : 0x4E00 ≤ c.toNat := h.left
    have hi : c.toNat ≤ 0x9FFF := h.right
    have apart {ranges : Ranges} (h : ∀ r ∈ ranges, r.2 < 0x4E00 ∨ 0x9FFF < r.1) : ranges.has c = false :=
      Ranges.not_has_of_apart h lo hi
    have single {n : Nat} (h : n < 0x4E00 ∨ 0x9FFF < n) : c.toNat ≠ n := by omega
    have ascii : ¬c.toNat ≤ 0xA0 := by omega
    have alef : isAlef c = false := apart (by decide)
    have coeng : isCoengLetter c = false := apart (by decide)
    have tifinagh : isTifinagh c = false := apart (by decide)
    have emoji : emojiRanges.has c = false := apart (by decide +kernel)
    have within {a b : Nat} (h : b < 0x4E00 ∨ 0x9FFF < a) : within c a b = false := by
      simp only [within, Bool.and_eq_false_iff, decide_eq_false_iff_not]
      omega
    simp [followerOf, feed, ascii, alef, coeng, tifinagh, emoji, isRegion, isSkinTone, within, single]

theorem charWidth_glyph (h : glyphs.Has c) : charWidth c = breadth c := by
  cases h
  case inl h =>
    have narrow : ¬IsIdeograph c := by
      unfold IsIdeograph
      omega
    have ascii : c.toNat ≤ 0xA0 := by omega
    simp [charWidth, breadth, narrow, ascii]
  case inr h =>
    have ⟨lo, hi⟩ := h
    have zero : zeroRanges.has c = false := Ranges.not_has_of_apart (by decide +kernel) lo hi
    have wide : wideRanges.has c := Ranges.has_iff.mpr ⟨(0x3250, 0xA48C), by decide, by omega⟩
    have ascii : ¬c.toNat ≤ 0xA0 := by omega
    have other : c.toNat ≠ 0x17D8 := by omega
    simp [charWidth, breadth, h, zero, wide, ascii, other]

theorem place_glyph (h : glyphs.Has c) : place c {} = ((breadth c : Int), {}) := by
  have wide := charWidth_glyph h
  have plain := followerOf_glyph h
  cases h
  case inl h =>
    have narrow : ¬IsIdeograph c := by
      unfold IsIdeograph
      omega
    have ascii : c.toNat ≤ 0xA0 := by omega
    simp [place, breadth, narrow, ascii, plain]
  case inr h =>
    have ⟨lo, hi⟩ := h
    have ascii : ¬c.toNat ≤ 0xA0 := by omega
    have selector {d : Char} (h : 0x9FFF < d.toNat) : c ≠ d := by
      intro eq
      subst eq
      omega
    have joined : joined? c .plain = none := rfl
    simp [place, placeWide, ascii, selector, joined, wide, plain]

theorem measure_glyphs {s : List Char} (h : ∀ c ∈ s, glyphs.Has c) :
    measure s = ((columns s : Int), {}) := by
  induction s
  case nil => rfl
  case cons c s hi =>
    have ⟨hc, h⟩ := List.forall_mem_cons.mp h
    simp [measure, hi h, place_glyph hc, columns]

theorem width_glyphs {s : List Char} (h : ∀ c ∈ s, glyphs.Has c) : width s = columns s := by
  simp [width, measure_glyphs h]

end VirtualShell.Text
