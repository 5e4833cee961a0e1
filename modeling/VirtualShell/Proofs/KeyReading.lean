import VirtualShell.Proofs.KeyGrammar

namespace VirtualShell

open Key

namespace Key

def Fragment.sequence : Fragment → Sequence
  | escape _ => .escape
  | single _ => .single
  | control _ p => .control p.chars

def Token.IsSequence : Token → Prop
  | plain .. => False
  | _ => True

theorem Token.text_ne_of_isSequence {t : Token} (h : t.IsSequence) (c : Char) : t.text ≠ [c] := by
  intro eq
  have length := congrArg List.length eq
  cases t
  case plain => exact h
  case single => simp [text, escapes] at length
  case control => simp [text, escapes] at length; omega
  case other => simp [text, escapes] at length

theorem Token.keyBehind?_of_isSequence {t : Token} (h : t.IsSequence) (before : Option Token) :
    t.keyBehind? before = t.key? :=
  if_neg fun ⟨_, eq⟩ => text_ne_of_isSequence h _ eq

theorem Token.keysBehind_concat (before : Option Token) (ts : List Token) (t : Token) :
    keysBehind before (ts ++ [t]) =
      keysBehind before ts ++ (t.keyBehind? (ts.getLast?.or before)).toList := by
  induction ts generalizing before
  case nil => simp [keysBehind]
  case cons u ts hi => simp [keysBehind, hi, List.getLast?_cons]

def Tokens.nextKey? (ts : Tokens) (c : Char) : Option Key :=
  (extend ts.broken c).elim (·.keyBehind? ts.whole.getLast?) fun _ => none

theorem Tokens.keys_push (ts : Tokens) (c : Char) : (ts.push c).keys = ts.keys ++ (ts.nextKey? c).toList := by
  unfold push nextKey?
  cases extend ts.broken c
  case inl t => simp [put, keys, Token.keysBehind_concat]
  case inr f => simp [put, keys]

end Key

namespace Decoder

variable {d : Decoder} {now : Nat} {ts : Tokens} {whole : List Token}

-- Where a decoder is when it has read some tokens at an instant.
structure Stands (now : Nat) (d : Decoder) (ts : Tokens) : Prop where
  sequence    : d.sequence = ts.broken.elim .idle Fragment.sequence
  started     : ∀ start ∈ d.started, start = now
  afterReturn : d.afterReturn ↔ ts.broken = none ∧ ts.whole.getLast?.map Token.text = some ['\r']

-- One more character has made a token or a fragment of what stood open.
structure Makes (now : Nat) (r : Decoder × Option Key) (whole : List Token) (next : Token ⊕ Fragment) :
    Prop where
  stands : Stands now r.1 (.put whole next)
  key    : r.2 = next.elim (·.keyBehind? whole.getLast?) fun _ => none

theorem makes_fragment {f : Fragment} (sequence : d.sequence = f.sequence)
    (started : ∀ start ∈ d.started, start = now) (afterReturn : d.afterReturn = false) :
    Makes now (d, none) whole (.inr f) :=
  ⟨⟨sequence, started, by simp [Tokens.put, afterReturn]⟩, rfl⟩

theorem makes_token {t : Token} {key : Option Key} (sequence : d.sequence = .idle)
    (started : ∀ start ∈ d.started, start = now) (afterReturn : d.afterReturn ↔ t.text = ['\r'])
    (hk : key = t.keyBehind? whole.getLast?) : Makes now (d, key) whole (.inl t) :=
  ⟨⟨sequence, started, by simp [Tokens.put, afterReturn]⟩, hk⟩

theorem makes_beginSequence (hd : d.afterReturn = false) (more : Nat) :
    Makes now (d.beginSequence now, none) whole (.inr (.escape more)) :=
  makes_fragment rfl (fun _ eq => (Option.some.inj eq).symm) hd

theorem makes_finish {t : Token} {key : Option Key} (ht : t.IsSequence) (hk : key = t.key?)
    (hd : d.afterReturn = false) (text : List Char) :
    Makes now ((d.finish text key).1, (d.finish text key).2.toOption.join) whole (.inl t) := by
  rw [fst_finish, join_finish]
  refine makes_token rfl nofun ?_ ?_
  · simp [reset, hd, Token.text_ne_of_isSequence ht]
  · rw [hk, Token.keyBehind?_of_isSequence ht]

namespace Stands

theorem expire_eq (h : Stands now d ts) : d.expire now = d := by
  unfold expire
  split
  case h_1 start hs => simp [h.started start hs]
  case h_2 => rfl

theorem makes_none (h : Stands now d ⟨whole, none⟩) (c : Char) :
    Makes now (d.read c now) whole (extend none c) := by
  have idle : d.sequence = .idle := h.sequence
  simp only [read, h.expire_eq, step, idle, stepIdle, extend]
  by_cases he : c = '\x1b'
  case pos =>
    rw [if_pos he, dif_pos he]
    exact makes_beginSequence rfl 0
  case neg =>
    rw [if_neg he, dif_neg he]
    by_cases hl : c = '\n' ∧ d.afterReturn
    case pos =>
      rw [if_pos hl]
      have joined := (h.afterReturn.mp hl.right).right
      refine makes_token rfl h.started (by simp [Token.text, hl.left]) ?_
      exact (if_pos ⟨joined, congrArg (fun c => [c]) hl.left⟩).symm
    case neg =>
      rw [if_neg hl]
      refine makes_token rfl h.started (by simp [Token.text]) ?_
      have apart : ¬(whole.getLast?.map Token.text = some ['\r'] ∧ [c] = ['\n']) := fun both =>
        hl ⟨List.singleton_inj.mp both.right, h.afterReturn.mpr ⟨rfl, both.left⟩⟩
      exact (ofChar?_eq he).trans (if_neg apart).symm

theorem makes_escape {more : Nat} (h : Stands now d ⟨whole, some (.escape more)⟩) (c : Char) :
    Makes now (d.read c now) whole (extend (some (.escape more)) c) := by
  have escape : d.sequence = .escape := h.sequence
  simp only [read, h.expire_eq, step, escape, extend]
  split
  case isTrue => exact makes_fragment rfl h.started rfl
  case isFalse =>
    split
    case isTrue => exact makes_fragment rfl h.started rfl
    case isFalse =>
      split
      case isTrue => exact makes_beginSequence rfl (more + 1)
      case isFalse => exact makes_finish (t := .other more c _) trivial rfl rfl _

theorem makes_single {more : Nat} (h : Stands now d ⟨whole, some (.single more)⟩) (c : Char) :
    Makes now (d.read c now) whole (extend (some (.single more)) c) := by
  have single : d.sequence = .single := h.sequence
  simp only [read, h.expire_eq, step, single, extend]
  exact makes_finish (t := .single more c) trivial (ofFinal?_eq c) rfl _

theorem makes_control {more : Nat} {p : Params} (h : Stands now d ⟨whole, some (.control more p)⟩)
    (c : Char) : Makes now (d.read c now) whole (extend (some (.control more p)) c) := by
  have control : d.sequence = .control p.chars := h.sequence
  simp only [read, h.expire_eq, step, control, extend]
  have takes : p.TakesIn c ↔ (c.isDigit ∨ c = ';') ∧ p.chars.length < Sequence.maxParams := by
    simp [Params.TakesIn, isParam, Sequence.maxParams]
  by_cases hp : p.TakesIn c
  case pos =>
    rw [if_pos (takes.mp hp), dif_pos hp]
    exact makes_fragment rfl h.started rfl
  case neg =>
    rw [if_neg fun h => hp (takes.mpr h), dif_neg hp]
    refine makes_finish (t := .control more p c hp) trivial ?_ rfl _
    simp only [Token.key?, ofParams?_eq, ofFinal?_eq]

theorem makes (h : Stands now d ts) (c : Char) : Makes now (d.read c now) ts.whole (extend ts.broken c) := by
  obtain ⟨whole, broken⟩ := ts
  rcases broken with _ | (more | more | ⟨more, p⟩)
  · exact h.makes_none c
  · exact h.makes_escape c
  · exact h.makes_single c
  · exact h.makes_control c

theorem readAll (h : Stands now d ts) (s : List Char) :
    Stands now (d.readAll now s).1 (s.foldl Tokens.push ts) ∧
      (s.foldl Tokens.push ts).keys = ts.keys ++ (d.readAll now s).2 := by
  induction s generalizing d ts
  case nil => exact ⟨h, (List.append_nil _).symm⟩
  case cons c s hi =>
    have next : Stands now (d.read c now).1 (ts.push c) := (h.makes c).stands
    have key : (d.read c now).2 = ts.nextKey? c := (h.makes c).key
    have ⟨stands, keys⟩ := hi next
    refine ⟨stands, ?_⟩
    rw [List.foldl_cons, keys, Tokens.keys_push, ← key, List.append_assoc]
    rfl

end Stands

theorem stands_fresh (timeout now : Nat) : Stands now { timeout } .empty :=
  ⟨rfl, nofun, by simp [Tokens.empty]⟩

theorem isPending_iff (h : Stands now d ts) : d.isPending ↔ ts.broken.isSome := by
  rw [isPending, h.sequence]
  rcases ts.broken with _ | (more | more | ⟨more, p⟩)
  all_goals simp [Fragment.sequence]

theorem feed_eq_tokens (timeout now : Nat) (s : String) :
    ∃ ts : Tokens, ts.text = s.toList ∧ (∀ other : Tokens, other.text = s.toList → other = ts) ∧
      (Decoder.feed { timeout } (Utf8.encode s) now).2 = ts.keys ∧
      ((Decoder.feed { timeout } (Utf8.encode s) now).1.isPending ↔ ts.broken.isSome) := by
  refine ⟨.ofText s.toList, Tokens.text_ofText _, ?_, ?_⟩
  · intro other ho
    rw [← ho, Tokens.ofText_text]
  · have fed : Decoder.feed { timeout } (Utf8.encode s) now = readAll { timeout } now s.toList := by
      simp [feed, Utf8.repair_encode]
    have ⟨stands, keys⟩ := (stands_fresh timeout now).readAll s.toList
    rw [fed]
    exact ⟨keys.symm, isPending_iff stands⟩

end Decoder

end VirtualShell
