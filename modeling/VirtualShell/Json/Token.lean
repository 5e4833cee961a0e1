import VirtualShell.Json.Basic
import VirtualShell.Text.Hex

namespace VirtualShell.Json

inductive Token
  | openBrace
  | closeBrace
  | openBracket
  | closeBracket
  | colon
  | comma
  | scalar (value : Json)
  | string (s : String)

def isSpace (c : Char) : Bool := c = ' ' || c = '\t' || c = '\n' || c = '\r'

def unit? (a b c d : Char) : Option Nat :=
  if [a, b, c, d].all fun c => (Text.hexValue? c).isSome then some (Text.number 16 [a, b, c, d])
  else none

def isHighSurrogate (n : Nat) : Bool := 0xD800 ≤ n && n ≤ 0xDBFF

def isLowSurrogate (n : Nat) : Bool := 0xDC00 ≤ n && n ≤ 0xDFFF

def unescape? : Char → Option Char
  | '"' => some '"'
  | '\\' => some '\\'
  | '/' => some '/'
  | 'b' => some '\x08'
  | 'f' => some '\x0c'
  | 'n' => some '\n'
  | 'r' => some '\r'
  | 't' => some '\t'
  | _ => none

-- The text up to the closing quote, and the rest behind it. Surrogates must come in pairs.
def readString : List Char → Option (List Char × List Char)
  | [] => none
  | '"' :: rest => some ([], rest)
  | '\\' :: 'u' :: a :: b :: c :: d :: rest =>
    match unit? a b c d with
    | none => none
    | some high =>
      if isHighSurrogate high then
        match rest with
        | '\\' :: 'u' :: a :: b :: c :: d :: rest =>
          match unit? a b c d with
          | none => none
          | some low =>
            if isLowSurrogate low then
              (readString rest).map fun (s, rest) =>
                (Char.ofNat (0x10000 + (high - 0xD800) * 0x400 + (low - 0xDC00)) :: s, rest)
            else none
        | _ => none
      else if isLowSurrogate high then none
      else (readString rest).map fun (s, rest) => (Char.ofNat high :: s, rest)
  | '\\' :: c :: rest =>
    match unescape? c with
    | none => none
    | some c => (readString rest).map fun (s, rest) => (c :: s, rest)
  | c :: rest =>
    if c.toNat < 0x20 ∨ c = '\\' then none
    else (readString rest).map fun (s, rest) => (c :: s, rest)

def word? : List Char → List Char → Option (List Char)
  | [], s => some s
  | c :: w, d :: s => if c = d then word? w s else none
  | _ :: _, [] => none

def digitValue (c : Char) : Nat := c.toNat - '0'.toNat

def digits (s : List Char) : List Char := s.takeWhile Char.isDigit

def afterDigits (s : List Char) : List Char := s.dropWhile Char.isDigit

structure Decimal where
  significand : Nat := 0
  exponent : Int := 0
  -- a digit was dropped for want of room
  full : Bool := false

namespace Decimal

def room (d : Decimal) (c : Char) : Bool := d.significand * 10 + digitValue c < UInt64.size

-- One more digit before the point. Without room it only raises the power.
def wholeDigit (d : Decimal) (c : Char) : Decimal :=
  if d.full || !d.room c then { d with exponent := d.exponent + 1, full := true }
  else { d with significand := d.significand * 10 + digitValue c }

def fractionDigit (d : Decimal) (c : Char) : Decimal :=
  if d.full || !d.room c then { d with full := true }
  else { d with significand := d.significand * 10 + digitValue c, exponent := d.exponent - 1 }

def isHuge (d : Decimal) : Bool :=
  d.significand != 0 && 0 ≤ d.exponent &&
    (308 < d.exponent ||
      (Float.ofScientific d.significand false 0
        * Float.ofScientific 1 false d.exponent.toNat).isInf)

end Decimal

def readFraction : List Char → Option (Option (List Char) × List Char)
  | '.' :: s => if (digits s).isEmpty then none else some (some (digits s), afterDigits s)
  | s => some (none, s)

def readSign : List Char → Int × List Char
  | '+' :: s => (1, s)
  | '-' :: s => (-1, s)
  | s => (1, s)

def readExponent : List Char → Option (Option Int × List Char)
  | [] => some (none, [])
  | e :: s =>
    if e = 'e' ∨ e = 'E' then
      let (sign, s) := readSign s
      if (digits s).isEmpty then none
      else some (some (sign * Text.number 10 (digits s)), afterDigits s)
    else some (none, e :: s)

-- What follows the whole digits of a number, and the rest. A number that is too large for a double
-- is refused.
def readScale (negative : Bool) (d : Decimal) (s : List Char) : Option (Json × List Char) := do
  let (fraction, rest) ← readFraction s
  let (exponent, rest) ← readExponent rest
  if fraction.isNone && exponent.isNone && !d.full then
    some (if negative then .number else .natural d.significand, rest)
  else
    let d := (fraction.getD []).foldl Decimal.fractionDigit { d with full := false }
    if { d with exponent := d.exponent + exponent.getD 0 }.isHuge then none else some (.number, rest)

def isWhole : List Char → Bool
  | [] => false
  | ['0'] => true
  | c :: _ => c != '0'

def readNumber (negative : Bool) (s : List Char) : Option (Json × List Char) :=
  if isWhole (digits s) then
    readScale negative ((digits s).foldl Decimal.wholeDigit {}) (afterDigits s)
  else none

def token? (c : Char) (s : List Char) : Option (Token × List Char) :=
  match c with
  | '\x7b' => some (.openBrace, s)
  | '\x7d' => some (.closeBrace, s)
  | '[' => some (.openBracket, s)
  | ']' => some (.closeBracket, s)
  | ':' => some (.colon, s)
  | ',' => some (.comma, s)
  | '"' => (readString s).map fun (t, rest) => (.string (String.ofList t), rest)
  | 'n' => (word? "ull".toList s).map (.scalar .null, ·)
  | 't' => (word? "rue".toList s).map (.scalar (.bool true), ·)
  | 'f' => (word? "alse".toList s).map (.scalar (.bool false), ·)
  | '-' => (readNumber true s).map fun (v, rest) => (.scalar v, rest)
  | c => if c.isDigit then (readNumber false (c :: s)).map fun (v, rest) => (.scalar v, rest) else none

theorem length_readString {s t rest : List Char} (h : readString s = some (t, rest)) :
    rest.length < s.length := by
  fun_induction readString s generalizing t rest <;> simp_all
  case case5 ih => obtain ⟨_, h, _⟩ := h; have := ih h; omega
  case case9 ih => obtain ⟨_, h, _⟩ := h; have := ih h; omega
  case case11 ih => obtain ⟨_, h, _⟩ := h; have := ih h; omega
  case case13 ih => obtain ⟨_, h, _⟩ := h; have := ih h; omega

theorem length_word? {w s rest : List Char} (h : word? w s = some rest) :
    rest.length ≤ s.length := by
  fun_induction word? w s <;> simp_all
  omega

theorem length_afterDigits (s : List Char) : (afterDigits s).length ≤ s.length :=
  (List.dropWhile_sublist _).length_le

theorem length_readFraction {s rest : List Char} {f : Option (List Char)}
    (h : readFraction s = some (f, rest)) : rest.length ≤ s.length := by
  unfold readFraction at h
  split at h
  case h_1 s =>
    have := length_afterDigits s
    split at h <;> simp_all
    omega
  case h_2 => simp_all

theorem length_readSign (s : List Char) : (readSign s).2.length ≤ s.length := by
  unfold readSign
  split <;> simp

theorem length_readExponent {s rest : List Char} {e : Option Int}
    (h : readExponent s = some (e, rest)) : rest.length ≤ s.length := by
  cases s with
  | nil => simp_all [readExponent]
  | cons c s =>
    have := length_readSign s
    have := length_afterDigits (readSign s).2
    simp only [readExponent] at h
    split at h
    · split at h
      · simp at h
      · simp at h; rw [← h.2]; simp; omega
    · simp_all

theorem length_readScale {negative : Bool} {d : Decimal} {s rest : List Char} {v : Json}
    (h : readScale negative d s = some (v, rest)) : rest.length ≤ s.length := by
  simp only [readScale, bind, Option.bind_eq_some_iff] at h
  obtain ⟨⟨f, r⟩, hf, ⟨e, r'⟩, he, h⟩ := h
  have hf := length_readFraction hf
  have he := length_readExponent he
  suffices r' = rest by subst this; exact Nat.le_trans he hf
  split at h
  · simp at h; exact h.2
  · split at h
    · simp at h
    · simp at h; exact h.2

theorem length_readNumber {negative : Bool} {s rest : List Char} {v : Json}
    (h : readNumber negative s = some (v, rest)) : rest.length ≤ (afterDigits s).length := by
  unfold readNumber at h
  split at h
  case isTrue => exact length_readScale h
  case isFalse => contradiction

theorem length_token? {c : Char} {s rest : List Char} {t : Token} (h : token? c s = some (t, rest)) :
    rest.length ≤ s.length := by
  unfold token? at h
  split at h <;> simp at h
  case h_7 => obtain ⟨_, h, -⟩ := h; exact Nat.le_of_lt (length_readString h)
  case h_8 => exact length_word? h.1
  case h_9 => exact length_word? h.1
  case h_10 => exact length_word? h.1
  case h_11 => obtain ⟨_, h, -⟩ := h; exact Nat.le_trans (length_readNumber h) (length_afterDigits s)
  case h_12 =>
    obtain ⟨digit, _, h, -⟩ := h
    refine Nat.le_trans (length_readNumber h) ?_
    rw [afterDigits, List.dropWhile_cons_of_pos digit]
    exact length_afterDigits s
  all_goals simp_all

def tokens? : List Char → Option (List Token)
  | [] => some []
  | c :: s =>
    if isSpace c then tokens? s
    else
      match h : token? c s with
      | none => none
      | some (t, rest) =>
        have := length_token? h
        (tokens? rest).map (t :: ·)
termination_by s => s.length

end VirtualShell.Json
