import VirtualShell.Proofs.Call

namespace VirtualShell

-- Does the call press keys, if any? A line that is run directly shows nothing, not even an end.
def Call.IsFeed : Call → Prop
  | .run _ => False
  | _ => True

namespace Session

variable {s : Session} {r : Session × List Chunk}

theorem exit_not_mem_renderLines (lines : List OutputLine) : .exit ∉ renderLines lines := by
  simp [renderLines]

-- An answer with regard to the end of the session. A closed session says nothing and stays what it
-- is; an open one says at the very end, and nowhere else, that it has closed.
structure Ends (s : Session) (r : Session × List Chunk) : Prop where
  closed : s.closed = true → r.2 = [] ∧ ∃ decoder clock, r.1 = { s with decoder, clock }
  isOpen : s.closed = false →
    ∃ shown, .exit ∉ shown ∧ r.2 = shown ++ if r.1.closed then [.exit] else []

namespace Ends

theorem refl (s : Session) : Ends s (s, []) where
  closed _ := ⟨rfl, s.decoder, s.clock, rfl⟩
  isOpen h := ⟨[], List.not_mem_nil, by simp [h]⟩

theorem trans {next : Session × List Chunk} (h : Ends s r) (hn : Ends r.1 next) :
    Ends s (next.1, r.2 ++ next.2) where
  closed hc := by
    have ⟨silent, decoder, clock, eq⟩ := h.closed hc
    have ⟨silent', decoder', clock', eq'⟩ := hn.closed (by rw [eq]; exact hc)
    rw [eq] at eq'
    exact ⟨by simp [silent, silent'], decoder', clock', eq'⟩
  isOpen ho := by
    have ⟨shown, unsaid, eq⟩ := h.isOpen ho
    cases hc : r.1.closed
    case true =>
      have ⟨silent, decoder, clock, same⟩ := hn.closed hc
      refine ⟨shown, unsaid, ?_⟩
      simp [eq, silent, same, hc]
    case false =>
      have ⟨shown', unsaid', eq'⟩ := hn.isOpen hc
      refine ⟨shown ++ shown', by simp [unsaid, unsaid'], ?_⟩
      simp [eq, eq', hc]

theorem of_withDecoder {decoder : Decoder} (h : Ends { s with decoder } r) : Ends s r :=
  ⟨h.closed, h.isOpen⟩

theorem respond (ho : s.closed = false) (text : String) : Ends s (s.respond text) where
  closed hc := absurd hc (by simp [ho])
  isOpen _ := by
    have closed : (s.dispatch text).1.closed = (s.dispatch text).2.exit := by simp [closed_dispatch, ho]
    have output := exit_not_mem_renderLines (s.dispatch text).2.output
    simp only [Session.respond, finish, closed]
    split
    case isTrue => exact ⟨_ :: renderLines _, by simp [output, Chunk.plain], rfl⟩
    case isFalse =>
      refine ⟨_, ?_, (List.append_nil _).symm⟩
      split <;> simp [output, exit_not_mem_promptChunks, Chunk.plain]

theorem feedKey (s : Session) (key : Key) : Ends s (s.feedKey key) := by
  cases hs : s.closed
  case true =>
    rw [feedKey_of_closed hs]
    exact .refl s
  case false =>
    rw [feedKey_of_open hs]
    cases hc : s.carried? key
    case none =>
      obtain ⟨cursor, edits, _⟩ := press_of_not_carried hc
      obtain ⟨line, eq⟩ := edits.state
      have stays : (s.press key).1.closed = false := by rw [eq]; exact hs
      exact ⟨fun h => absurd h (by simp [hs]), fun _ => ⟨_, edits.stays, by simp [stays]⟩⟩
    case some carried =>
      obtain ⟨line, history, eq⟩ := carried?_state hc
      have ends := respond (s := { s with line, history }) hs carried.2
      rw [press_of_carried hc, eq]
      exact ⟨fun h => absurd h (by simp [hs]), ends.isOpen⟩

theorem feedKeys (s : Session) (keys : List Key) : Ends s (s.feedKeys keys) := by
  induction keys generalizing s
  case nil => exact .refl s
  case cons key keys hi => exact (feedKey s key).trans (hi _)

theorem answer (s : Session) {call : Call} (hc : call.IsFeed) : Ends s (s.answer call) := by
  cases call
  case key key => exact feedKey s key
  case char c now => exact of_withDecoder (feedKeys { s with decoder := _ } _)
  case octets octets now => exact of_withDecoder (feedKeys { s with decoder := _ } _)
  case run => contradiction
  case clock time => exact ⟨fun _ => ⟨rfl, s.decoder, time, rfl⟩, (refl s).isOpen⟩

theorem answerAll (s : Session) {calls : List Call} (hc : ∀ call ∈ calls, call.IsFeed) :
    Ends s (s.answerAll calls) := by
  induction calls generalizing s
  case nil => exact .refl s
  case cons call calls hi =>
    have ⟨first, rest⟩ := List.forall_mem_cons.mp hc
    exact (answer s first).trans (hi _ rest)

end Ends

theorem closes_once_for_good (s : Session) {calls : List Call} (hc : ∀ call ∈ calls, call.IsFeed) :
    let r := s.answerAll calls
    (s.closed = false →
      r.2.count .exit ≤ 1 ∧ (.exit ∈ r.2 ↔ r.1.closed) ∧ (.exit ∈ r.2 → r.2.getLast? = some .exit)) ∧
    (s.closed = true →
      r.2 = [] ∧ r.1.env = s.env ∧ r.1.cwd = s.cwd ∧ r.1.history = s.history ∧ r.1.line = s.line ∧
        r.1.closed = true) := by
  intro r
  have ends : Ends s r := .answerAll s hc
  constructor
  case left =>
    intro ho
    have ⟨shown, unsaid, eq⟩ := ends.isOpen ho
    have count : shown.count .exit = 0 := List.count_eq_zero.mpr unsaid
    cases hr : r.1.closed
    case true => simp [eq, hr, count]
    case false => simp [eq, hr, unsaid, count]
  case right =>
    intro hs
    have ⟨silent, decoder, clock, eq⟩ := ends.closed hs
    rw [eq]
    exact ⟨silent, rfl, rfl, rfl, rfl, hs⟩

theorem closes_once_for_good_read :
    let s := new { historyCapacity := 2 }
    let calls := [.key (.char 'l'), .key .interrupt, .octets [0x65, 0x78, 0x69, 0x74, 0x0D, 0x6C, 0x73, 0x0D] 0]
    let more := [.char 'x' 3, .key .enter, .key .endOfInput]
    let r := s.answerAll calls
    let later := r.1.answerAll more
    s.closed = false ∧ (∀ call ∈ calls, call.IsFeed) ∧ r.1.closed = true ∧ r.2.count .exit = 1 ∧
      r.2.getLast? = some .exit ∧ r.1.history.all = ["exit"] ∧ (∀ call ∈ more, call.IsFeed) ∧
      later.2 = [] ∧ later.1.history = r.1.history ∧ later.1.line = r.1.line ∧ later.1.closed = true := by
  intro s calls more r later
  have feeds : ∀ call ∈ calls, call.IsFeed := by simp [calls, Call.IsFeed]
  have closed : r.1.closed = true := by decide +kernel
  have history : r.1.history.all = ["exit"] := by decide +kernel
  have ⟨once, said, last⟩ := (closes_once_for_good s feeds).left rfl
  have announced : .exit ∈ r.2 := said.mpr closed
  have count : r.2.count .exit = 1 := Nat.le_antisymm once (List.count_pos_iff.mpr announced)
  have feedsMore : ∀ call ∈ more, call.IsFeed := by simp [more, Call.IsFeed]
  have ⟨silent, _, _, kept, line, still⟩ := (closes_once_for_good r.1 feedsMore).right closed
  exact ⟨rfl, feeds, closed, count, last announced, history, feedsMore, silent, kept, line, still⟩

end Session

end VirtualShell
