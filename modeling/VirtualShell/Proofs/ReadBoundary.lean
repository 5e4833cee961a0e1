import VirtualShell.Proofs.Utf8
import VirtualShell.Session.Basic

namespace VirtualShell

namespace Decoder

variable {d : Decoder} {now : Nat}

def characters (d : Decoder) (octets : List UInt8) : List Char := (Utf8.repair (d.tail ++ octets)).1

-- Every read begins by forgetting a carriage return that the last one ended in.
def forgetReturn (d : Decoder) : Decoder := { d with afterReturn := false }

def withTail (d : Decoder) (tail : List UInt8) : Decoder := { d with tail }

theorem forgetReturn_of_false (h : d.afterReturn = false) : d.forgetReturn = d := by
  cases d
  simp_all [forgetReturn]

theorem expire_forgetReturn (d : Decoder) (now : Nat) :
    d.forgetReturn.expire now = (d.expire now).forgetReturn := by
  have ⟨_, started, timeout, _, _⟩ := d
  cases started
  case none => rfl
  case some start => by_cases h : timeout < now - start <;> simp [expire, forgetReturn, reset, h]

theorem step_forgetReturn {c : Char} (h : c ≠ '\n') : d.forgetReturn.step c now = d.step c now := by
  simp only [step, forgetReturn]
  split
  · simp [stepIdle, h]
  all_goals rfl

theorem read_forgetReturn {c : Char} (h : c = '\n' → d.afterReturn = false) :
    d.forgetReturn.read c now = d.read c now := by
  by_cases hc : c = '\n'
  case pos => rw [forgetReturn_of_false (h hc)]
  case neg => simp only [read, expire_forgetReturn, step_forgetReturn hc]

theorem afterReturn_finish (text : List Char) (key : Option Key) :
    (d.finish text key).1.afterReturn = d.afterReturn := by
  cases key <;> rfl

theorem eq_return_of_step {c : Char} (h : (d.step c now).1.afterReturn) : c = '\r' := by
  simp only [step] at h
  split at h
  case h_1 =>
    simp only [stepIdle] at h
    split at h
    · simp [beginSequence] at h
    · split at h <;> simp_all
  case h_2 =>
    split at h
    · simp at h
    · split at h
      · simp at h
      · split at h <;> simp [beginSequence, afterReturn_finish] at h
  case h_3 => split at h <;> simp [afterReturn_finish] at h
  case h_4 => simp [afterReturn_finish] at h

theorem eq_return_of_readAll {cs : List Char} (h : (d.readAll now cs).1.afterReturn) :
    cs.getLast? = some '\r' ∨ cs = [] ∧ d.afterReturn := by
  induction cs generalizing d
  case nil => exact .inr ⟨rfl, h⟩
  case cons c cs hi =>
    refine .inl ?_
    cases hi h
    case inl hl => simp [List.getLast?_cons, hl]
    case inr hr =>
      have hc : c = '\r' := eq_return_of_step hr.right
      simp [hr.left, hc]

theorem readAll_append (d : Decoder) (now : Nat) (a b : List Char) :
    d.readAll now (a ++ b) =
      (((d.readAll now a).1.readAll now b).1,
        (d.readAll now a).2 ++ ((d.readAll now a).1.readAll now b).2) := by
  induction a generalizing d
  case nil => rfl
  case cons c a hi => simp [readAll, hi]

theorem readAll_forgetReturn (now : Nat) {cs : List Char} (h : cs.head? = some '\n' → d.afterReturn = false) :
    (d.forgetReturn.readAll now cs).2 = (d.readAll now cs).2 ∧
      (d.forgetReturn.readAll now cs).1.forgetReturn = (d.readAll now cs).1.forgetReturn := by
  cases cs
  case nil => exact ⟨rfl, rfl⟩
  case cons c cs =>
    have : d.forgetReturn.read c now = d.read c now := read_forgetReturn fun hc => h (by simp [hc])
    simp [readAll, this]

theorem expire_withTail (d : Decoder) (now : Nat) (tail : List UInt8) :
    (d.withTail tail).expire now = (d.expire now).withTail tail := by
  have ⟨_, started, timeout, _, _⟩ := d
  cases started
  case none => rfl
  case some start => by_cases h : timeout < now - start <;> simp [expire, withTail, reset, h]

theorem step_withTail (d : Decoder) (c : Char) (now : Nat) (tail : List UInt8) :
    (d.withTail tail).step c now = ((d.step c now).1.withTail tail, (d.step c now).2) := by
  have ⟨sequence, _, _, afterReturn, _⟩ := d
  cases sequence <;> simp only [step, withTail]
  case idle =>
    simp only [stepIdle]
    split
    · rfl
    · split <;> rfl
  case escape =>
    split
    · rfl
    · split
      · rfl
      · split <;> rfl
  case control params =>
    split
    · rfl
    · split
      · cases Key.ofParams? params <;> rfl
      · cases Key.ofFinal? c <;> rfl
  case single => cases Key.ofFinal? c <;> rfl

theorem read_withTail (d : Decoder) (c : Char) (now : Nat) (tail : List UInt8) :
    (d.withTail tail).read c now = ((d.read c now).1.withTail tail, (d.read c now).2) := by
  simp only [read, expire_withTail, step_withTail]

theorem readAll_withTail (d : Decoder) (now : Nat) (cs : List Char) (tail : List UInt8) :
    (d.withTail tail).readAll now cs = ((d.readAll now cs).1.withTail tail, (d.readAll now cs).2) := by
  induction cs generalizing d
  case nil => rfl
  case cons c cs hi => simp only [readAll, read_withTail, hi]

theorem tail_feed (d : Decoder) (octets : List UInt8) (now : Nat) :
    (d.feed octets now).1.tail = (Utf8.repair (d.tail ++ octets)).2 := by
  have : (d.feed octets now).1 = ((d.forgetReturn.withTail _).readAll now _).1 := rfl
  rw [this, readAll_withTail]
  rfl

theorem feed_eq (d : Decoder) (octets : List UInt8) (now : Nat) :
    d.feed octets now =
      ((d.forgetReturn.readAll now (d.characters octets)).1.withTail
        (Utf8.repair (d.tail ++ octets)).2, (d.forgetReturn.readAll now (d.characters octets)).2) :=
  readAll_withTail d.forgetReturn now (d.characters octets) _

theorem repair_feed (d : Decoder) (a b : List UInt8) (now : Nat) :
    Utf8.repair (d.tail ++ (a ++ b)) =
      (d.characters a ++ (d.feed a now).1.characters b,
        (Utf8.repair ((d.feed a now).1.tail ++ b)).2) := by
  rw [← List.append_assoc, Utf8.repair_append]
  simp only [characters, tail_feed]

theorem feed_append {a b : List UInt8}
    (h : ¬((d.characters a).getLast? = some '\r' ∧
      ((d.feed a now).1.characters b).head? = some '\n')) :
    (d.feed (a ++ b) now).2 = (d.feed a now).2 ++ ((d.feed a now).1.feed b now).2 ∧
      (d.feed (a ++ b) now).1.forgetReturn = ((d.feed a now).1.feed b now).1.forgetReturn := by
  let d₁ := (d.feed a now).1
  -- where one read goes on with `e`, two reads go on with what `e` has forgotten
  let e := (d.forgetReturn.readAll now (d.characters a)).1
  have hd : d₁ = e.withTail (Utf8.repair (d.tail ++ a)).2 := congrArg Prod.fst (d.feed_eq a now)
  have he : (d₁.characters b).head? = some '\n' → e.afterReturn = false := by
    intro hb
    cases hr : e.afterReturn
    case false => rfl
    case true =>
      have ha := (eq_return_of_readAll hr).resolve_right fun ha => nomatch ha.right
      exact absurd ⟨ha, hb⟩ h
  have ⟨hk, hs⟩ := readAll_forgetReturn now he
  have two : d₁.forgetReturn.readAll now (d₁.characters b) =
      ((e.forgetReturn.readAll now (d₁.characters b)).1.withTail d₁.tail,
        (e.forgetReturn.readAll now (d₁.characters b)).2) := by
    rw [hd]
    exact readAll_withTail e.forgetReturn now _ _
  have one : d.forgetReturn.readAll now (d.characters (a ++ b)) =
      ((e.readAll now (d₁.characters b)).1, (d.feed a now).2 ++ (e.readAll now (d₁.characters b)).2) := by
    have hc : d.characters (a ++ b) = d.characters a ++ d₁.characters b :=
      congrArg Prod.fst (d.repair_feed a b now)
    rw [hc, readAll_append, congrArg Prod.snd (d.feed_eq a now)]
  rw [feed_eq, feed_eq d₁ b, one, two]
  constructor
  case left => rw [hk]
  case right =>
    rw [repair_feed d a b now]
    exact congrArg (withTail · (Utf8.repair (d₁.tail ++ b)).2) hs.symm

end Decoder

namespace Session

def forgetReturn (s : Session) : Session := { s with decoder := s.decoder.forgetReturn }

def withDecoder (s : Session) (decoder : Decoder) : Session := { s with decoder }

theorem edit_withDecoder (s : Session) (op : Line → Bool × Line) (d : Decoder) :
    (s.withDecoder d).edit op = ((s.edit op).1.withDecoder d, (s.edit op).2) := by
  simp only [edit, withDecoder]
  split <;> rfl

theorem move_withDecoder (s : Session) (op : Line → Bool × Line) (d : Decoder) :
    (s.withDecoder d).move op = ((s.move op).1.withDecoder d, (s.move op).2) := by
  simp only [move, withDecoder]
  split <;> rfl

theorem browse_withDecoder (s : Session) (step : History → Option String × History) (d : Decoder) :
    (s.withDecoder d).browse step = ((s.browse step).1.withDecoder d, (s.browse step).2) := by
  simp only [browse, withDecoder]
  split <;> rfl

theorem complete_withDecoder (s : Session) (d : Decoder) :
    (s.withDecoder d).complete = (s.complete.1.withDecoder d, s.complete.2) := by
  simp only [complete, withDecoder]
  split <;> rfl

theorem apply_withDecoder (s : Session) (o : Outcome) (d : Decoder) :
    (s.withDecoder d).apply o = (s.apply o).withDecoder d := by
  simp only [apply, withDecoder]
  split <;> split <;> rfl

theorem dispatch_withDecoder (s : Session) (line : String) (d : Decoder) :
    (s.withDecoder d).dispatch line = ((s.dispatch line).1.withDecoder d, (s.dispatch line).2) := by
  simp only [dispatch]
  exact congrArg (·, _) (apply_withDecoder { s with env := _ } _ d)

theorem run_withDecoder (s : Session) (line : String) (d : Decoder) :
    (s.withDecoder d).run line = ((s.run line).1.withDecoder d, (s.run line).2) :=
  dispatch_withDecoder { s with history := s.history.add line } line d

theorem submit_withDecoder (s : Session) (d : Decoder) :
    (s.withDecoder d).submit = (s.submit.1.withDecoder d, s.submit.2) := by
  have h := run_withDecoder { s with line := s.line.take.2 } s.line.take.1 d
  simp only [submit]
  exact congrArg (fun r => (r.1, Chunk.plain newLine :: r.1.finish r.2)) h

theorem hangUp_withDecoder (s : Session) (d : Decoder) :
    (s.withDecoder d).hangUp = (s.hangUp.1.withDecoder d, s.hangUp.2) := by
  have h := s.dispatch_withDecoder "exit" d
  simp only [hangUp]
  exact congrArg (fun r => (r.1, Chunk.plain newLine :: r.1.finish r.2)) h

theorem press_withDecoder (s : Session) (key : Key) (d : Decoder) :
    (s.withDecoder d).press key = ((s.press key).1.withDecoder d, (s.press key).2) := by
  cases key
  case backspace => exact s.edit_withDecoder _ d
  case delete => exact s.edit_withDecoder _ d
  case enter => exact s.submit_withDecoder d
  case tab => exact s.complete_withDecoder d
  case up => exact s.browse_withDecoder History.previous d
  case down => exact s.browse_withDecoder History.next d
  case left => exact s.move_withDecoder _ d
  case right => exact s.move_withDecoder _ d
  case home => exact s.move_withDecoder _ d
  case endOfLine => exact s.move_withDecoder _ d
  case killLine =>
    cases he : s.line.isEmpty <;> simp only [press, withDecoder, he]
    case true => rfl
    case false => rfl
  case endOfInput =>
    cases he : s.line.isEmpty
    case true => simpa [press, withDecoder, he] using s.hangUp_withDecoder d
    case false => simpa [press, withDecoder, he] using s.edit_withDecoder Line.delete d
  all_goals rfl

theorem feedKey_withDecoder (s : Session) (key : Key) (d : Decoder) :
    (s.withDecoder d).feedKey key = ((s.feedKey key).1.withDecoder d, (s.feedKey key).2) := by
  cases hc : s.closed
  case true => simp [feedKey, withDecoder, hc]
  case false => simpa [feedKey, withDecoder, hc] using s.press_withDecoder key d

theorem feedKeys_withDecoder (s : Session) (keys : List Key) (d : Decoder) :
    (s.withDecoder d).feedKeys keys = ((s.feedKeys keys).1.withDecoder d, (s.feedKeys keys).2) := by
  induction keys generalizing s
  case nil => rfl
  case cons key keys hi => simp only [feedKeys, feedKey_withDecoder, hi]

theorem feedKeys_append (s : Session) (a b : List Key) :
    s.feedKeys (a ++ b) =
      (((s.feedKeys a).1.feedKeys b).1, (s.feedKeys a).2 ++ ((s.feedKeys a).1.feedKeys b).2) := by
  induction a generalizing s
  case nil => rfl
  case cons key a hi => simp [feedKeys, hi]

theorem feed_eq (s : Session) (octets : List UInt8) (now : Nat) :
    s.feed octets now =
      ((s.feedKeys (s.decoder.feed octets now).2).1.withDecoder (s.decoder.feed octets now).1,
        (s.feedKeys (s.decoder.feed octets now).2).2) :=
  s.feedKeys_withDecoder _ _

theorem decoder_feed (s : Session) (octets : List UInt8) (now : Nat) :
    (s.feed octets now).1.decoder = (s.decoder.feed octets now).1 := by
  rw [feed_eq]
  rfl

-- The one exception is a carriage return that ends the first part, with a line feed behind it.
theorem feed_in_two_reads (s : Session) (a b : List UInt8) (now : Nat)
    (h : ¬((s.decoder.characters a).getLast? = some '\r' ∧
      ((s.feed a now).1.decoder.characters b).head? = some '\n')) :
    let first := s.feed a now
    let second := first.1.feed b now
    let whole := s.feed (a ++ b) now
    whole.2 = first.2 ++ second.2 ∧
      (∀ color, Screen.render whole.2 color = Screen.render first.2 color ++ Screen.render second.2 color) ∧
      whole.1.forgetReturn = second.1.forgetReturn := by
  intro first second whole
  rw [decoder_feed] at h
  have ⟨hk, hd⟩ := Decoder.feed_append h
  have hf : first = _ := s.feed_eq a now
  have hw : whole = _ := s.feed_eq (a ++ b) now
  have hs : second = _ := first.1.feed_eq b now
  rw [hk, feedKeys_append] at hw
  rw [decoder_feed, hf, feedKeys_withDecoder] at hs
  have hc : whole.2 = first.2 ++ second.2 := by rw [hw, hf, hs]
  refine ⟨hc, fun color => ?_, ?_⟩
  · rw [hc, Screen.render_append]
  · rw [hw, hs]
    exact congrArg (withDecoder _) hd

theorem feed_in_two_reads_euro :
    let s := new {}
    let whole := s.feed ([0x0D, 0xE2, 0x82] ++ [0xAC, 0x0A]) 5
    let first := s.feed [0x0D, 0xE2, 0x82] 5
    let second := first.1.feed [0xAC, 0x0A] 5
    first.1.decoder.characters [0xAC, 0x0A] = ['€', '\n'] ∧
      whole.2 = first.2 ++ second.2 ∧ whole.1.forgetReturn = second.1.forgetReturn := by
  intro s whole first second
  have hb : first.1.decoder.characters [0xAC, 0x0A] = ['€', '\n'] := by
    rw [Decoder.characters, decoder_feed, Decoder.tail_feed, Utf8.repair_eq_run, Utf8.repair_eq_run]
    decide
  have h := s.feed_in_two_reads [0x0D, 0xE2, 0x82] [0xAC, 0x0A] 5 (by
    rw [hb]
    exact fun h => nomatch h.right)
  exact ⟨hb, h.left, h.right.right⟩

end Session

end VirtualShell
