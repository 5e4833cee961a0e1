namespace VirtualShell.Utf8

def spanOf (lead : UInt8) : Nat :=
  if lead < 0x80 then 1
  else if 0xC2 ≤ lead ∧ lead ≤ 0xDF then 2
  else if 0xE0 ≤ lead ∧ lead ≤ 0xEF then 3
  else if 0xF0 ≤ lead ∧ lead ≤ 0xF4 then 4
  else 0

-- The second octet is narrower after four leads, so that no code point has two spellings and no
-- surrogate has one.
def secondRange (lead : UInt8) : UInt8 × UInt8 :=
  if lead = 0xE0 then (0xA0, 0xBF)
  else if lead = 0xED then (0x80, 0x9F)
  else if lead = 0xF0 then (0x90, 0xBF)
  else if lead = 0xF4 then (0x80, 0x8F)
  else (0x80, 0xBF)

def continues : List UInt8 → UInt8 → Bool
  | [], b => spanOf b != 0
  | [lead], b => (secondRange lead).1 ≤ b && b ≤ (secondRange lead).2
  | _, b => 0x80 ≤ b && b ≤ 0xBF

def codePoint : List UInt8 → Nat
  | [a] => a.toNat
  | [a, b] => (a.toNat % 32) * 64 + b.toNat % 64
  | [a, b, c] => ((a.toNat % 16) * 64 + b.toNat % 64) * 64 + c.toNat % 64
  | [a, b, c, d] => (((a.toNat % 8) * 64 + b.toNat % 64) * 64 + c.toNat % 64) * 64 + d.toNat % 64
  | _ => 0

def isWhole (unit : List UInt8) : Bool := unit.length = spanOf (unit.headD 0)

def takeUnit (unit : List UInt8) : List UInt8 → List UInt8 × List UInt8
  | [] => (unit, [])
  | b :: rest =>
    if isWhole unit || !continues unit b then (unit, b :: rest) else takeUnit (unit ++ [b]) rest

theorem takeUnit_append (unit octets : List UInt8) :
    (takeUnit unit octets).1 ++ (takeUnit unit octets).2 = unit ++ octets := by
  induction octets generalizing unit
  case nil => rfl
  case cons b rest hi =>
    rw [takeUnit]
    split
    case isTrue => rfl
    case isFalse => rw [hi, List.append_assoc, List.singleton_append]

def character? (octets : List UInt8) : Option (Char × List UInt8) :=
  let (unit, rest) := takeUnit [] octets
  if isWhole unit then some (Char.ofNat (codePoint unit), rest) else none

theorem eq_of_character? {octets rest : List UInt8} {c : Char}
    (h : character? octets = some (c, rest)) : isWhole (takeUnit [] octets).1 ∧
      Char.ofNat (codePoint (takeUnit [] octets).1) = c ∧ (takeUnit [] octets).2 = rest := by
  simpa [character?] using h

theorem length_character? {octets rest : List UInt8} {c : Char}
    (h : character? octets = some (c, rest)) : rest.length < octets.length := by
  have ⟨whole, _, hr⟩ := eq_of_character? h
  have split := congrArg List.length (takeUnit_append [] octets)
  simp only [List.length_append, List.nil_append] at split
  cases hu : (takeUnit [] octets).1
  case nil => simp [hu, isWhole, spanOf] at whole
  case cons => simp [hu, hr] at split; omega

def validPart (octets : List UInt8) : List Char × List UInt8 :=
  match h : character? octets with
  | none => ([], octets)
  | some (c, rest) =>
    have := length_character? h
    let (cs, rest) := validPart rest
    (c :: cs, rest)
termination_by octets.length

theorem length_validPart (octets : List UInt8) : (validPart octets).2.length ≤ octets.length := by
  fun_induction validPart octets
  case case1 => exact Nat.le_refl _
  case case2 h _ _ _ _ hi =>
    have := length_character? h
    simp_all
    omega

-- How many octets in front of the next character belong to none, unless the octets only break off.
-- It is asked behind a valid part, where no character stands at the front.
def flaw? (octets : List UInt8) : Option Nat :=
  let (unit, rest) := takeUnit [] octets
  if rest.isEmpty then none else some (max unit.length 1)

theorem length_sub_flaw {octets : List UInt8} {n : Nat} (h : flaw? octets = some n) :
    octets.length - n < octets.length := by
  simp only [flaw?, Option.ite_none_left_eq_some, Option.some.injEq] at h
  have ⟨more, hn⟩ := h
  have ne : octets ≠ [] := by
    rintro rfl
    simp [takeUnit] at more
  have := List.length_pos_iff.mpr ne
  omega

-- Octets that belong to no character are passed over. Those of a character that breaks off at the end
-- are handed back, for more octets may complete it.
def repair (octets : List UInt8) : List Char × List UInt8 :=
  match h : flaw? (validPart octets).2 with
  | none => validPart octets
  | some n =>
    have := Nat.lt_of_lt_of_le (length_sub_flaw h) (length_validPart octets)
    let (cs, tail) := repair ((validPart octets).2.drop n)
    ((validPart octets).1 ++ cs, tail)
termination_by octets.length

end VirtualShell.Utf8
