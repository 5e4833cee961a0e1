import VirtualShell.Text.Ranges

namespace VirtualShell.Text

-- The Unicode general category Cc.
def controlRanges : Ranges := [(0x0000, 0x001F), (0x007F, 0x009F)]

def isControl (c : Char) : Bool := controlRanges.has c

theorem isControl_iff {c : Char} :
    isControl c ↔ c.toNat < 0x20 ∨ 0x7F ≤ c.toNat ∧ c.toNat < 0xA0 := by
  simp only [isControl, controlRanges, Ranges.has_iff, List.mem_cons, exists_eq_or_imp]
  simp
  omega

end VirtualShell.Text
