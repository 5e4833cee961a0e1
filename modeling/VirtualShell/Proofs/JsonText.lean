import VirtualShell.Json.Quoted
import VirtualShell.Json.Token

namespace VirtualShell.Json

theorem unit?_of_lt {n : Nat} (h : n < 0x20) :
    unit? '0' '0' (Text.hexDigit (n / 16)) (Text.hexDigit (n % 16)) = some n := by
  revert n
  decide

theorem readString_escape (c : Char) (rest : List Char) :
    readString (escape c ++ rest) = (readString rest).map fun (s, rest) => (c :: s, rest) := by
  unfold escape
  split
  case h_8 quote backslash _ _ _ _ _ =>
    split
    case isTrue h =>
      have control : ¬isHighSurrogate c.toNat ∧ ¬isLowSurrogate c.toNat := by
        simp only [isHighSurrogate, isLowSurrogate, Bool.and_eq_true, decide_eq_true_eq]
        omega
      simp [readString, unit?_of_lt h, control, Char.ofNat_toNat]
    case isFalse h =>
      rw [List.singleton_append, readString]
      · exact if_neg (not_or.mpr ⟨h, backslash⟩)
      · exact quote
      · exact fun _ _ _ _ _ hc _ => backslash hc
      · exact fun _ _ hc _ => backslash hc
  all_goals rfl

theorem readString_quote (s rest : List Char) :
    readString (s.flatMap escape ++ '"' :: rest) = some (s, rest) := by
  induction s
  case nil => rfl
  case cons c s hi => simp [readString_escape, hi]

theorem tokens?_cons (c : Char) (s : List Char) :
    tokens? (c :: s) =
      if isSpace c then tokens? s
      else (token? c s).bind fun (t, rest) => (tokens? rest).map (t :: ·) := by
  rw [tokens?]
  split
  case isTrue => rfl
  case isFalse => split <;> simp_all

-- A text whose tokens are the given ones, whatever stands behind it.
def Writes (text : List Char) (ts : List Token) : Prop :=
  ∀ rest, tokens? (text ++ rest) = (tokens? rest).map (ts ++ ·)

namespace Writes

theorem tokens {text : List Char} {ts : List Token} (h : Writes text ts) : tokens? text = some ts := by
  simpa [tokens?] using h []

theorem nil : Writes [] [] := by
  intro rest
  simp

theorem append {text text' : List Char} {ts ts' : List Token} (h : Writes text ts)
    (h' : Writes text' ts') : Writes (text ++ text') (ts ++ ts') := by
  intro rest
  rw [List.append_assoc, h, h', Option.map_map]
  simp [Function.comp_def]

theorem space {c : Char} (h : isSpace c) : Writes [c] [] := by
  intro rest
  simp [tokens?_cons, h]

theorem spaces {text : List Char} (h : ∀ c ∈ text, isSpace c) : Writes text [] := by
  induction text
  case nil => exact nil
  case cons c text hi => exact (space (h c (.head _))).append (hi fun c hc => h c (.tail _ hc))

theorem mark {c : Char} {t : Token} (hs : ¬isSpace c) (ht : ∀ rest, token? c rest = some (t, rest)) :
    Writes [c] [t] := by
  intro rest
  simp [tokens?_cons, hs, ht]

theorem openBrace : Writes ['\x7b'] [.openBrace] := mark (by decide) fun _ => rfl

theorem closeBrace : Writes ['\x7d'] [.closeBrace] := mark (by decide) fun _ => rfl

theorem colon : Writes [':'] [.colon] := mark (by decide) fun _ => rfl

theorem comma : Writes [','] [.comma] := mark (by decide) fun _ => rfl

theorem separator (last : Bool) : Writes (if last then [] else [',']) (if last then [] else [.comma]) := by
  cases last
  case true => exact nil
  case false => exact comma

theorem quote (s : String) : Writes (quote s) [.string s] := by
  intro rest
  have h := readString_quote s.toList rest
  simp [Json.quote, tokens?_cons, isSpace, token?, h]

end Writes

end VirtualShell.Json
