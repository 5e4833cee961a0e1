import VirtualShell.Proofs.Expiry
import VirtualShell.Proofs.KeyReading
import VirtualShell.Proofs.Utf8Beginning

namespace VirtualShell

open Key

def Sequence.Bounded : Sequence → Prop
  | .control params => params.length ≤ 8 ∧ ∀ c ∈ params, c.isDigit ∨ c = ';'
  | _ => True

namespace Decoder

variable {d e : Decoder} {now : Nat} {ts : Tokens}

-- A start is known of a sequence that is pending and of no other, a carriage return is remembered only
-- outside of sequences, and the octets that wait for more belong to one character.
structure Sound (d : Decoder) : Prop where
  started     : d.started.isSome ↔ d.isPending
  sequence    : d.sequence.Bounded
  afterReturn : d.afterReturn → d.isPending = false
  tail        : d.tail = [] ∨ Utf8.BreaksOff d.tail

theorem bounded_step (h : d.sequence.Bounded) (c : Char) (now : Nat) : (d.step c now).1.sequence.Bounded := by
  cases hs : d.sequence <;> simp only [step, hs]
  case idle =>
    simp only [stepIdle]
    split
    case isTrue => trivial
    case isFalse => split <;> exact h
  case escape =>
    split
    case isTrue => exact ⟨Nat.zero_le _, List.forall_mem_nil _⟩
    case isFalse =>
      split
      case isTrue => trivial
      case isFalse => split <;> trivial
  case control params =>
    obtain ⟨short, made⟩ : (Sequence.control params).Bounded := hs ▸ h
    split
    case isTrue param =>
      have longer : (params ++ [c]).length ≤ 8 := Nat.le_trans (Nat.le_of_eq List.length_append) param.right
      exact ⟨longer, List.forall_mem_append.mpr ⟨made, List.forall_mem_singleton.mpr param.left⟩⟩
    case isFalse =>
      rw [fst_finish]
      trivial
  case single =>
    rw [fst_finish]
    trivial

theorem bounded_read (h : d.sequence.Bounded) (c : Char) (now : Nat) : (d.read c now).1.sequence.Bounded :=
  bounded_step (expire_keeps (P := (·.sequence.Bounded)) h trivial now) c now

theorem sequence_step_return (d : Decoder) (now : Nat) : (d.step '\r' now).1.sequence = .idle := by
  cases hs : d.sequence <;> simp only [step, hs]
  case idle => exact hs
  case escape => rfl
  case control params =>
    rw [if_neg (fun param => absurd param.left (by decide)), fst_finish]
    rfl
  case single =>
    rw [fst_finish]
    rfl

theorem isPending_of_afterReturn_read (d : Decoder) (c : Char) (now : Nat) (h : (d.read c now).1.afterReturn) :
    (d.read c now).1.isPending = false := by
  obtain rfl : c = '\r' := eq_return_of_step h
  have idle : (d.read '\r' now).1.sequence = .idle := sequence_step_return (d.expire now) now
  simp [isPending, idle]

theorem Timed.started_iff {past : List (Char × Nat)} (h : Timed d past) : d.started.isSome ↔ d.isPending := by
  cases h
  case idle sequence started => simp [isPending, sequence, started]
  case pending began started => simp [isPending, began.left, started]

theorem sound_receiveAll (timeout : Nat) (arrivals : List Arrival) : (receiveAll { timeout } arrivals).Sound where
  started     := (Timed.receiveAll timeout arrivals).started_iff
  sequence    := decodedAll_keeps (P := fun d _ => d.sequence.Bounded) (fun _ h => h)
    (fun c now h => bounded_read h c now) arrivals trivial
  afterReturn := decodedAll_keeps (P := fun d _ => d.afterReturn → d.isPending = false) (fun _ _ => nofun)
    (fun c now _ => isPending_of_afterReturn_read _ c now) arrivals nofun
  tail        := Utf8.kept_iff.mp (kept_receiveAll arrivals Utf8.kept_nil)

theorem Stands.withTail (h : Stands now d ts) (tail : List UInt8) : Stands now (d.withTail tail) ts :=
  ⟨h.sequence, h.started, h.afterReturn⟩

theorem exists_fragment {s : Sequence} (h : s.Bounded) (pending : s ≠ .idle) : ∃ f : Fragment, s = f.sequence := by
  cases s
  case idle => contradiction
  case escape => exact ⟨.escape 0, rfl⟩
  case single => exact ⟨.single 0, rfl⟩
  case control params =>
    have ⟨short, made⟩ := h
    exact ⟨.control 0 ⟨params, short, fun c hc => by simpa [isParam] using made c hc⟩, rfl⟩

namespace Sound

theorem exists_stands (h : d.Sound) : ∃ now ts, Stands now d ts := by
  have started : ∀ start ∈ d.started, start = d.started.getD 0 := by
    intro start hs
    exact (congrArg (Option.getD · 0) hs).symm
  -- of all that was read, an open sequence and a last carriage return are what can still be told
  refine ⟨d.started.getD 0, ?_⟩
  by_cases idle : d.sequence = .idle
  case pos =>
    cases hr : d.afterReturn
    case false => exact ⟨.empty, idle, started, by simp [hr, Tokens.empty]⟩
    case true => exact ⟨⟨[.plain '\r' (by decide)], none⟩, idle, started, by simp [hr, Token.text]⟩
  case neg =>
    have unmarked : d.afterReturn = false := by simpa [isPending, idle] using h.afterReturn
    obtain ⟨f, sequence⟩ := exists_fragment h.sequence idle
    have makes : Makes _ (d, none) [] (.inr f) := makes_fragment sequence started unmarked
    exact ⟨_, makes.stands⟩

theorem eq_of_stands (hd : d.Sound) (he : e.Sound) (sd : Stands now d ts) (se : Stands now e ts)
    (timeout : d.timeout = e.timeout) (tail : d.tail = e.tail) : d = e := by
  have sequence : d.sequence = e.sequence := sd.sequence.trans se.sequence.symm
  have afterReturn : d.afterReturn = e.afterReturn := Bool.eq_iff_iff.mpr (sd.afterReturn.trans se.afterReturn.symm)
  have both : d.started.isSome ↔ e.started.isSome := by
    rw [hd.started, he.started, isPending, isPending, sequence]
  have started : d.started = e.started := by
    cases h : d.started <;> cases h' : e.started
    case none.none => rfl
    case some.some => rw [sd.started _ h, se.started _ h']
    all_goals simp [h, h'] at both
  obtain ⟨_, _, _, _, _⟩ := d
  obtain ⟨_, _, _, _, _⟩ := e
  simp_all

theorem reached (h : d.Sound) : ∃ arrivals, receiveAll { timeout := d.timeout } arrivals = d := by
  have ⟨now, ts, stands⟩ := h.exists_stands
  let fresh : Decoder := { timeout := d.timeout }
  -- the text of tokens that lead there, with the kept octets behind it, all read at one instant
  let octets := Utf8.encode (.ofList ts.text) ++ d.tail
  have repaired : Utf8.repair (fresh.tail ++ octets) = (ts.text, d.tail) := by
    rw [List.nil_append, Utf8.repair_encode_append _ (Utf8.kept_iff.mpr h.tail), String.toList_ofList]
  have characters : fresh.characters octets = ts.text := congrArg Prod.fst repaired
  have tail : (fresh.feed octets now).1.tail = d.tail := (tail_feed ..).trans (congrArg Prod.snd repaired)
  have same : Stands now (fresh.feed octets now).1 ts := by
    have ⟨read, _⟩ := (stands_fresh d.timeout now).readAll ts.text
    rw [← Tokens.ofText, Tokens.ofText_text] at read
    rw [feed_eq, characters]
    exact read.withTail _
  have sound : (receiveAll fresh [.octets octets now]).Sound := sound_receiveAll ..
  have timeout : (receiveAll fresh [.octets octets now]).timeout = d.timeout := timeout_receiveAll ..
  exact ⟨[.octets octets now], sound.eq_of_stands h same stands timeout tail⟩

end Sound

theorem reached_iff_sound (timeout : Nat) (d : Decoder) :
    (∃ arrivals, receiveAll { timeout } arrivals = d) ↔ d.timeout = timeout ∧ d.Sound where
  mp := by
    rintro ⟨arrivals, rfl⟩
    exact ⟨timeout_receiveAll timeout arrivals, sound_receiveAll timeout arrivals⟩
  mpr := by
    rintro ⟨rfl, sound⟩
    exact sound.reached

end Decoder

end VirtualShell
