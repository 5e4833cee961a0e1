namespace VirtualShell.Text

-- A set of characters as closed ranges, ascending and apart.
abbrev Ranges := List (Nat × Nat)

namespace Ranges

def has (ranges : Ranges) (c : Char) : Bool :=
  ranges.any fun r => r.1 ≤ c.toNat && c.toNat ≤ r.2

theorem has_iff {ranges : Ranges} {c : Char} :
    ranges.has c ↔ ∃ r ∈ ranges, r.1 ≤ c.toNat ∧ c.toNat ≤ r.2 := by
  simp [has]

theorem not_has_of_apart {ranges : Ranges} {lo hi : Nat} {c : Char}
    (apart : ∀ r ∈ ranges, r.2 < lo ∨ hi < r.1) (hl : lo ≤ c.toNat) (hh : c.toNat ≤ hi) :
    ranges.has c = false := by
  apply Bool.eq_false_iff.mpr
  intro h
  have ⟨r, hr, _⟩ := has_iff.mp h
  have := apart r hr
  omega

end Ranges

end VirtualShell.Text
