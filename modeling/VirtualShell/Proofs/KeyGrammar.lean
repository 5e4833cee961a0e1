import Mathlib.Data.List.Basic
import VirtualShell.Key.Decoder
import VirtualShell.Proofs.Utf8Text
import VirtualShell.Text.Control

namespace VirtualShell.Key

def isParam (c : Char) : Bool := c.isDigit || c = ';'

structure Params where
  chars : List Char
  short : chars.length ≤ 8
  made  : ∀ c ∈ chars, isParam c

namespace Params

def empty : Params := ⟨[], Nat.zero_le _, nofun⟩

def TakesIn (p : Params) (c : Char) : Prop := isParam c ∧ p.chars.length < 8

instance (p : Params) (c : Char) : Decidable (p.TakesIn c) := by
  unfold TakesIn
  infer_instance

def add (p : Params) (c : Char) (h : p.TakesIn c) : Params where
  chars := p.chars ++ [c]
  short := Nat.le_trans (Nat.le_of_eq List.length_append) h.right
  made  := List.forall_mem_append.mpr ⟨p.made, List.forall_mem_singleton.mpr h.left⟩

end Params

-- A character by itself or a whole escape sequence. A sequence begins with an escape character and
-- however many more.
inductive Token
  | plain (c : Char) (h : c ≠ '\x1b')
  | single (more : Nat) (c : Char)
  | control (more : Nat) (p : Params) (c : Char) (h : ¬p.TakesIn c)
  | other (more : Nat) (c : Char) (h : c ≠ '[' ∧ c ≠ 'O' ∧ c ≠ '\x1b')

inductive Fragment
  | escape (more : Nat)
  | single (more : Nat)
  | control (more : Nat) (p : Params)

-- The tokens of a text. Only the last one may break off, so that every text is a row of tokens in
-- exactly one way.
structure Tokens where
  whole  : List Token
  broken : Option Fragment

def escapes (more : Nat) : List Char := List.replicate (more + 1) '\x1b'

def Token.text : Token → List Char
  | plain c _ => [c]
  | single more c => escapes more ++ ['O', c]
  | control more p c _ => escapes more ++ '[' :: p.chars ++ [c]
  | other more c _ => escapes more ++ [c]

def Fragment.text : Fragment → List Char
  | escape more => escapes more
  | single more => escapes more ++ ['O']
  | control more p => escapes more ++ '[' :: p.chars

def Tokens.text (ts : Tokens) : List Char :=
  ts.whole.flatMap Token.text ++ ts.broken.elim [] Fragment.text

def controlKeys : List (Char × Key) :=
  [('\r', .enter), ('\n', .enter), ('\t', .tab), ('\x7f', .backspace), ('\x08', .backspace),
   ('\x01', .home), ('\x03', .interrupt), ('\x04', .endOfInput), ('\x05', .endOfLine),
   ('\x0c', .clearScreen), ('\x15', .killLine)]

def cursorKeys : List (Char × Key) :=
  [('A', .up), ('B', .down), ('C', .right), ('D', .left), ('H', .home), ('F', .endOfLine)]

def paramKeys : List (List Char × Key) :=
  [(['1'], .home), (['7'], .home), (['4'], .endOfLine), (['8'], .endOfLine), (['3'], .delete)]

namespace Token

def key? : Token → Option Key
  | plain c _ => (controlKeys.lookup c).or (if Text.isControl c then none else some (.char c))
  | single _ c => cursorKeys.lookup c
  | control _ p c _ => if c = '~' then paramKeys.lookup p.chars else cursorKeys.lookup c
  | other .. => none

-- A line feed right behind a carriage return is one with it.
def keyBehind? (before : Option Token) (t : Token) : Option Key :=
  if before.map text = some ['\r'] ∧ t.text = ['\n'] then none else t.key?

def keysBehind (before : Option Token) : List Token → List Key
  | [] => []
  | t :: ts => (t.keyBehind? before).toList ++ keysBehind (some t) ts

end Token

def Tokens.keys (ts : Tokens) : List Key := Token.keysBehind none ts.whole

theorem ofFinal?_eq (c : Char) : ofFinal? c = cursorKeys.lookup c := by
  unfold ofFinal?
  split
  case h_7 => exact (List.lookup_eq_none_iff.mpr (by simp_all [cursorKeys])).symm
  all_goals rfl

theorem ofParams?_eq (params : List Char) : ofParams? params = paramKeys.lookup params := by
  unfold ofParams?
  split
  case h_6 => exact (List.lookup_eq_none_iff.mpr (by simp_all [paramKeys])).symm
  all_goals rfl

theorem ofChar?_eq {c : Char} (h : c ≠ '\x1b') : ofChar? c = (Token.plain c h).key? := by
  unfold ofChar?
  split
  case h_12 =>
    have : controlKeys.lookup c = none := List.lookup_eq_none_iff.mpr (by simp_all [controlKeys])
    simp [Token.key?, this, Text.isControl_iff]
  all_goals rfl

-- What a fragment, or nothing, becomes with one more character.
def extend : Option Fragment → Char → Token ⊕ Fragment
  | none, c => if h : c = '\x1b' then .inr (.escape 0) else .inl (.plain c h)
  | some (.escape more), c =>
    if hb : c = '[' then .inr (.control more .empty)
    else if hs : c = 'O' then .inr (.single more)
    else if he : c = '\x1b' then .inr (.escape (more + 1))
    else .inl (.other more c ⟨hb, hs, he⟩)
  | some (.single more), c => .inl (.single more c)
  | some (.control more p), c =>
    if h : p.TakesIn c then .inr (.control more (p.add c h)) else .inl (.control more p c h)

theorem escapes_succ (more : Nat) : escapes (more + 1) = escapes more ++ ['\x1b'] :=
  List.replicate_succ'

theorem text_extend (f : Option Fragment) (c : Char) :
    (extend f c).elim Token.text Fragment.text = f.elim [] Fragment.text ++ [c] := by
  unfold extend
  split
  case h_1 => split <;> simp [Token.text, Fragment.text, escapes, *]
  case h_2 =>
    split
    case isTrue h => simp [Fragment.text, Params.empty, h]
    case isFalse =>
      split
      case isTrue h => simp [Fragment.text, h]
      case isFalse => split <;> simp [Token.text, Fragment.text, escapes_succ, *]
  case h_3 => simp [Token.text, Fragment.text]
  case h_4 => split <;> simp [Token.text, Fragment.text, Params.add]

theorem exists_extend (next : Token ⊕ Fragment) : ∃ f c, extend f c = next := by
  rcases next with (⟨c, h⟩ | ⟨more, c⟩ | ⟨more, p, c, h⟩ | ⟨more, c, h⟩) | (more | more | ⟨more, p⟩)
  · exact ⟨none, c, dif_neg h⟩
  · exact ⟨some (.single more), c, rfl⟩
  · exact ⟨some (.control more p), c, dif_neg h⟩
  · exact ⟨some (.escape more), c, by simp [extend, h]⟩
  · cases more
    case zero => exact ⟨none, '\x1b', rfl⟩
    case succ more => exact ⟨some (.escape more), '\x1b', rfl⟩
  · exact ⟨some (.escape more), 'O', rfl⟩
  · obtain ⟨chars, short, made⟩ := p
    rcases List.eq_nil_or_concat' chars with rfl | ⟨front, c, rfl⟩
    · exact ⟨some (.escape more), '[', rfl⟩
    -- the last parameter came behind a sequence that holds the others
    · have ⟨made, last⟩ := List.forall_mem_append.mp made
      rw [List.length_append] at short
      let p : Params := ⟨front, Nat.le_of_succ_le short, made⟩
      exact ⟨some (.control more p), c, dif_pos ⟨last c (.head _), short⟩⟩

namespace Tokens

def empty : Tokens := ⟨[], none⟩

def put (whole : List Token) : Token ⊕ Fragment → Tokens
  | .inl t => ⟨whole ++ [t], none⟩
  | .inr f => ⟨whole, some f⟩

def push (ts : Tokens) (c : Char) : Tokens := put ts.whole (extend ts.broken c)

def ofText (s : List Char) : Tokens := s.foldl push empty

theorem text_push (ts : Tokens) (c : Char) : (ts.push c).text = ts.text ++ [c] := by
  have text_put (whole : List Token) (next : Token ⊕ Fragment) :
      (put whole next).text = whole.flatMap Token.text ++ next.elim Token.text Fragment.text := by
    cases next <;> simp [put, text]
  rw [push, text_put, text_extend, text, List.append_assoc]

theorem text_ofText (s : List Char) : (ofText s).text = s := by
  suffices ∀ ts : Tokens, (s.foldl push ts).text = ts.text ++ s from this empty
  induction s
  case nil => simp
  case cons c s hi =>
    intro ts
    rw [List.foldl_cons, hi, text_push, List.append_assoc, List.singleton_append]

theorem exists_push (ts : Tokens) : ts = empty ∨ ∃ (front : Tokens) (c : Char), ts = front.push c := by
  have of_put (whole : List Token) (next : Token ⊕ Fragment) :
      ∃ (front : Tokens) (c : Char), put whole next = front.push c :=
    have ⟨f, c, h⟩ := exists_extend next
    ⟨⟨whole, f⟩, c, congrArg (put whole) h.symm⟩
  obtain ⟨whole, broken⟩ := ts
  cases broken
  case some f => exact .inr (of_put whole (.inr f))
  case none =>
    rcases List.eq_nil_or_concat' whole with rfl | ⟨front, t, rfl⟩
    · exact .inl rfl
    · exact .inr (of_put front (.inl t))

theorem ofText_text (ts : Tokens) : ofText ts.text = ts := by
  induction hn : ts.text.length generalizing ts
  case zero =>
    rcases ts.exists_push with rfl | ⟨front, c, rfl⟩
    · rfl
    · simp [text_push] at hn
  case succ n hi =>
    rcases ts.exists_push with rfl | ⟨front, c, rfl⟩
    · rfl
    · rw [text_push, List.length_append] at hn
      rw [text_push, ofText, List.foldl_append, ← ofText, hi front (Nat.succ.inj hn)]
      rfl

example : (ofText "\x1b\x1b[1;5Ca\x1bO\r\n".toList).keys = [.right, .char 'a', .enter] := by decide

end Tokens

end VirtualShell.Key
