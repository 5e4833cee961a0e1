import VirtualShell.Proofs.Arrival

namespace VirtualShell

namespace Sequence

def rest : Sequence → List Char
  | .idle => []
  | .escape => []
  | .control params => '[' :: params
  | .single => ['O']

-- What was read ends in the sequence, whose escape character came at the start. Later characters of
-- the sequence may have come at any instant.
def BeganAt (s : Sequence) (past : List (Char × Nat)) (start : Nat) : Prop :=
  s ≠ .idle ∧ ∃ front later, past = front ++ ('\x1b', start) :: later ∧
    later.map Prod.fst = s.rest ∧ ∀ p ∈ later, p.1 ≠ '\x1b'

theorem ne_idle_of_rest_ne_nil {s : Sequence} (h : s.rest ≠ []) : s ≠ .idle := by
  rintro rfl
  exact h rfl

end Sequence

namespace Decoder

variable {d e : Decoder} {now : Nat} {past : List (Char × Nat)}

inductive Moves (now : Nat) (d : Decoder) (c : Char) (e : Decoder) : Prop
  | begun (escape : c = '\x1b') (sequence : e.sequence = .escape) (started : e.started = some now)
  | grown (inside : d.sequence ≠ .idle) (plain : c ≠ '\x1b') (rest : e.sequence.rest = d.sequence.rest ++ [c])
    (started : e.started = d.started)
  | passed (outside : d.sequence = .idle) (sequence : e.sequence = .idle) (started : e.started = d.started)
  | ended (sequence : e.sequence = .idle) (started : e.started = none)

theorem moves (d : Decoder) (c : Char) (now : Nat) : Moves now d c (d.step c now).1 := by
  cases hs : d.sequence
  case idle =>
    simp only [step, hs, stepIdle]
    split
    case isTrue escape => exact .begun escape rfl rfl
    case isFalse => split <;> exact .passed hs rfl rfl
  case escape =>
    simp only [step, hs]
    split
    case isTrue bracket => exact .grown (by simp [hs]) (by simp [bracket]) (by simp [hs, Sequence.rest, bracket]) rfl
    case isFalse =>
      split
      case isTrue letter => exact .grown (by simp [hs]) (by simp [letter]) (by simp [hs, Sequence.rest, letter]) rfl
      case isFalse =>
        split
        case isTrue escape => exact .begun escape rfl rfl
        case isFalse => exact .ended rfl rfl
  case control params =>
    simp only [step, hs]
    split
    case isTrue param =>
      have plain : c ≠ '\x1b' := by
        rintro rfl
        exact absurd param.left (by decide)
      exact .grown (by simp [hs]) plain (by simp [hs, Sequence.rest]) rfl
    case isFalse =>
      rw [fst_finish]
      exact .ended rfl rfl
  case single =>
    simp only [step, hs, fst_finish]
    exact .ended rfl rfl

theorem timeout_step (d : Decoder) (c : Char) (now : Nat) : (d.step c now).1.timeout = d.timeout := by
  cases hs : d.sequence <;> simp only [step, hs]
  case idle =>
    simp only [stepIdle]
    split
    · rfl
    · split <;> rfl
  case escape =>
    split
    · rfl
    · split
      · rfl
      · split <;> rfl
  case control =>
    split
    · rfl
    · rw [fst_finish]
      rfl
  case single =>
    rw [fst_finish]
    rfl

def Unexpired (now : Nat) (d : Decoder) : Prop := ∀ start, d.started = some start → now ≤ start + d.timeout

theorem expire_of_unexpired (h : Unexpired now d) : d.expire now = d := by
  unfold expire
  split
  case h_1 start hs =>
    have within := h start hs
    rw [if_neg (by omega)]
  case h_2 => rfl

theorem expire_of_stale {start : Nat} (hs : d.started = some start) (old : start + d.timeout < now) :
    d.expire now = d.reset := by
  simp only [expire, hs]
  rw [if_pos (by omega)]

theorem expire_cases (d : Decoder) (now : Nat) : Unexpired now d ∧ d.expire now = d ∨
    ∃ start, d.started = some start ∧ start + d.timeout < now ∧ d.expire now = d.reset := by
  by_cases h : Unexpired now d
  case pos => exact .inl ⟨h, expire_of_unexpired h⟩
  case neg =>
    simp only [Unexpired, Classical.not_forall, Nat.not_le, exists_prop] at h
    have ⟨start, hs, old⟩ := h
    exact .inr ⟨start, hs, old, expire_of_stale hs old⟩

theorem timeout_read (d : Decoder) (c : Char) (now : Nat) : (d.read c now).1.timeout = d.timeout :=
  (timeout_step ..).trans (expire_keeps (P := (·.timeout = d.timeout)) rfl rfl now)

theorem unexpired_expire (d : Decoder) (now : Nat) : Unexpired now (d.expire now) := by
  rcases d.expire_cases now with ⟨h, eq⟩ | ⟨_, _, _, eq⟩ <;> rw [eq]
  · exact h
  · nofun

theorem unexpired_step (c : Char) (h : Unexpired now d) : Unexpired now (d.step c now).1 := by
  intro start hs
  rw [timeout_step]
  cases d.moves c now
  case begun started =>
    cases started.symm.trans hs
    omega
  case grown started => exact h start (started ▸ hs)
  case passed started => exact h start (started ▸ hs)
  case ended started => exact nomatch started.symm.trans hs

theorem unexpired_read (d : Decoder) (c : Char) (now : Nat) : Unexpired now (d.read c now).1 :=
  unexpired_step c (d.unexpired_expire now)

theorem unexpired_readAll (cs : List Char) (h : Unexpired now d) : Unexpired now (d.readAll now cs).1 := by
  induction cs generalizing d
  case nil => exact h
  case cons c cs hi => exact hi (d.unexpired_read c now)

-- Behind the first character of a read nothing expires any more.
theorem expire_readAll {cs : List Char} (ne : cs ≠ []) :
    (d.readAll now cs).1.expire now = (d.readAll now cs).1 := by
  cases cs
  case nil => contradiction
  case cons c cs => exact expire_of_unexpired (unexpired_readAll cs (d.unexpired_read c now))

def readUntimed (d : Decoder) (c : Char) (now : Nat) : Decoder × Option Key :=
  let (d, result) := d.step c now
  (d, result.toOption.join)

def readAllUntimed (d : Decoder) (now : Nat) : List Char → Decoder × List Key
  | [] => (d, [])
  | c :: cs =>
    let (d, key) := d.readUntimed c now
    let (d, keys) := readAllUntimed d now cs
    (d, key.toList ++ keys)

-- What a decoder does with octets if no sequence is ever too old.
def feedUntimed (d : Decoder) (octets : List UInt8) (now : Nat) : Decoder × List Key :=
  let (cs, tail) := Utf8.repair (d.tail ++ octets)
  { d with afterReturn := false, tail }.readAllUntimed now cs

theorem readAll_eq_untimed (cs : List Char) (h : Unexpired now d) : d.readAll now cs = d.readAllUntimed now cs := by
  induction cs generalizing d
  case nil => rfl
  case cons c cs hi =>
    have first : d.read c now = d.readUntimed c now := by rw [read, expire_of_unexpired h, readUntimed]
    simp only [readAll, readAllUntimed, ← first, hi (d.unexpired_read c now)]

theorem feed_eq_untimed (octets : List UInt8) (h : Unexpired now d) : d.feed octets now = d.feedUntimed octets now :=
  readAll_eq_untimed _ h

structure Alike (d e : Decoder) : Prop where
  sequence    : d.sequence = e.sequence
  afterReturn : d.afterReturn = e.afterReturn

namespace Alike

theorem finish (h : Alike d e) (text : List Char) (key : Option Key) :
    Alike (d.finish text key).1 (e.finish text key).1 ∧ (d.finish text key).2 = (e.finish text key).2 := by
  cases key <;> exact ⟨⟨rfl, h.afterReturn⟩, rfl⟩

theorem stepIdle (h : Alike d e) (c : Char) (now now' : Nat) :
    Alike (d.stepIdle c now).1 (e.stepIdle c now').1 ∧ (d.stepIdle c now).2 = (e.stepIdle c now').2 := by
  simp only [Decoder.stepIdle, h.afterReturn]
  split
  · exact ⟨⟨rfl, rfl⟩, rfl⟩
  · split <;> exact ⟨⟨h.sequence, rfl⟩, rfl⟩

theorem step (h : Alike d e) (c : Char) (now now' : Nat) :
    Alike (d.step c now).1 (e.step c now').1 ∧ (d.step c now).2 = (e.step c now').2 := by
  cases hs : e.sequence <;> simp only [Decoder.step, h.sequence.trans hs, hs]
  case idle =>
    obtain ⟨next, key⟩ := h.stepIdle c now now'
    exact ⟨next, congrArg _ key⟩
  case escape =>
    split
    · exact ⟨⟨rfl, rfl⟩, rfl⟩
    · split
      · exact ⟨⟨rfl, rfl⟩, rfl⟩
      · split <;> exact ⟨⟨rfl, rfl⟩, rfl⟩
  case control params =>
    split
    · exact ⟨⟨rfl, rfl⟩, rfl⟩
    · refine finish ?_ _ _
      exact ⟨rfl, rfl⟩
  case single =>
    refine finish ?_ _ _
    exact ⟨rfl, rfl⟩

theorem keys_readAllUntimed (h : Alike d e) (cs : List Char) (now now' : Nat) :
    (d.readAllUntimed now cs).2 = (e.readAllUntimed now' cs).2 := by
  induction cs generalizing d e
  case nil => rfl
  case cons c cs hi =>
    have ⟨next, result⟩ := h.step c now now'
    simp only [readAllUntimed, readUntimed, result, hi next]

end Alike

theorem keys_feedUntimed (sequence : d.sequence = e.sequence) (tail : d.tail = e.tail) (octets : List UInt8)
    (now now' : Nat) : (d.feedUntimed octets now).2 = (e.feedUntimed octets now').2 := by
  simp only [feedUntimed, tail]
  refine Alike.keys_readAllUntimed ?_ _ now now'
  exact ⟨sequence, rfl⟩

inductive Timed (d : Decoder) (past : List (Char × Nat)) : Prop
  | idle (sequence : d.sequence = .idle) (started : d.started = none)
  | pending (start : Nat) (began : d.sequence.BeganAt past start) (started : d.started = some start)

namespace Timed

theorem expire (h : Timed d past) (now : Nat) : Timed (d.expire now) past :=
  expire_keeps (P := (Timed · past)) h (.idle rfl rfl) now

theorem step (h : Timed d past) (c : Char) (now : Nat) : Timed (d.step c now).1 (past ++ [(c, now)]) := by
  cases d.moves c now
  case begun escape sequence started =>
    refine .pending now ⟨by simp [sequence], past, [], by rw [escape], by rw [sequence]; rfl, nofun⟩ started
  case grown inside plain rest started =>
    cases h
    case idle outside _ => exact absurd outside inside
    case pending start began hs =>
      -- the sequence grows by a character that is no escape, so it still began where it did
      have ⟨_, front, later, eq, text, unbroken⟩ := began
      have longer : (d.step c now).1.sequence ≠ .idle := Sequence.ne_idle_of_rest_ne_nil (by simp [rest])
      have unbroken : ∀ p ∈ later ++ [(c, now)], p.1 ≠ '\x1b' :=
        List.forall_mem_append.mpr ⟨unbroken, by simpa using plain⟩
      refine .pending start ⟨longer, front, later ++ [(c, now)], ?_, ?_, unbroken⟩ (started.trans hs)
      · rw [eq, List.append_assoc, List.cons_append]
      · rw [List.map_append, text, rest, List.map_singleton]
  case passed outside sequence started =>
    cases h
    case idle none => exact .idle sequence (started.trans none)
    case pending began _ => exact absurd outside began.left
  case ended sequence started => exact .idle sequence started

theorem read (h : Timed d past) (c : Char) (now : Nat) : Timed (d.read c now).1 (past ++ [(c, now)]) :=
  (h.expire now).step c now

theorem start (h : Timed d past) (tail : List UInt8) : Timed { d with afterReturn := false, tail } past := by
  cases h
  case idle sequence started => exact .idle sequence started
  case pending start began started => exact .pending start began started

theorem receiveAll (timeout : Nat) (arrivals : List Arrival) :
    Timed (Decoder.receiveAll { timeout } arrivals) (decodedAll { timeout } arrivals) :=
  decodedAll_keeps (fun tail h => h.start tail) (fun c now h => h.read c now) arrivals (.idle rfl rfl)

end Timed

theorem timeout_receiveAll (timeout : Nat) (arrivals : List Arrival) :
    (Decoder.receiveAll { timeout } arrivals).timeout = timeout :=
  decodedAll_keeps (P := fun d _ => d.timeout = timeout) (fun _ h => h)
    (fun c now h => (timeout_read _ c now).trans h) arrivals rfl

section

variable {start : Nat} (hs : d.started = some start) (old : start + d.timeout < now)
include hs old

theorem readAll_of_stale {cs : List Char} (ne : cs ≠ []) : d.readAll now cs = d.reset.readAll now cs := by
  cases cs
  case nil => contradiction
  case cons c cs =>
    have gone : d.reset.expire now = d.reset := rfl
    have first : d.read c now = d.reset.read c now := by rw [read, read, expire_of_stale hs old, gone]
    simp only [readAll, first]

theorem feed_of_stale {octets : List UInt8} (ne : d.characters octets ≠ []) :
    d.feed octets now = d.reset.feed octets now :=
  readAll_of_stale (d := { d with afterReturn := false, tail := _ }) hs old ne

theorem keys_feed_of_stale (octets : List UInt8) : (d.feed octets now).2 = (d.reset.feed octets now).2 := by
  by_cases ne : d.characters octets = []
  case pos =>
    have same : d.reset.characters octets = [] := ne
    rw [feed_eq, feed_eq, ne, same]
    rfl
  case neg => rw [feed_of_stale hs old ne]

end

section

variable {start : Nat} (hs : d.started = some start)
include hs

theorem unexpired_of_started (within : now ≤ start + d.timeout) : Unexpired now d := by
  intro first hf
  cases hs.symm.trans hf
  exact within

theorem feed_of_within (within : now ≤ start + d.timeout) (octets : List UInt8) :
    d.feed octets now = d.feedUntimed octets now :=
  feed_eq_untimed octets (unexpired_of_started hs within)

theorem keys_feed_of_within {long : Nat} (within : now ≤ start + d.timeout) (unspent : now ≤ start + long)
    (octets : List UInt8) : ({ d with timeout := long }.feed octets now).2 = (d.feed octets now).2 := by
  rw [feed_of_within hs within, feed_of_within (d := { d with timeout := long }) hs unspent]
  exact keys_feedUntimed (d := { d with timeout := long }) (e := d) rfl rfl octets now now

end

-- An instant before the start counts as no time that has passed, and so does one at the start.
theorem time_acts_by_expiry (timeout : Nat) (arrivals : List Arrival) (octets : List UInt8) (now : Nat) :
    let fresh : Decoder := { timeout }
    let d := fresh.receiveAll arrivals
    let past := fresh.decodedAll arrivals
    (d.isPending = false → d.feed octets now = d.feedUntimed octets now) ∧
    (d.isPending → ∃ start, d.sequence.BeganAt past start ∧ d.started = some start ∧
      (start + timeout < now →
        (d.feed octets now).2 = (d.reset.feed octets now).2 ∧
        (d.characters octets ≠ [] → (d.feed octets now).1 = (d.reset.feed octets now).1)) ∧
      (now ≤ start + timeout →
        d.feed octets now = d.feedUntimed octets now ∧
        ∀ long, now ≤ start + long → ({ d with timeout := long }.feed octets now).2 = (d.feed octets now).2)) ∧
    (∀ later, (d.feedUntimed octets later).2 = (d.feedUntimed octets now).2) ∧
    ∀ front rest, d.characters octets = front ++ rest → front ≠ [] →
      let mid := (d.forgetReturn.readAll now front).1
      mid.expire now = mid := by
  intro fresh d past
  have timed : Timed d past := .receiveAll timeout arrivals
  have same : d.timeout = timeout := timeout_receiveAll timeout arrivals
  refine ⟨fun idle => ?idle, fun waits => ?pending, fun later => keys_feedUntimed rfl rfl octets later now,
    fun front rest _ ne => expire_readAll ne⟩
  case idle =>
    cases timed
    case idle none => exact feed_eq_untimed octets fun start hs => nomatch none.symm.trans hs
    case pending began _ => simp [isPending, began.left] at idle
  case pending =>
    cases timed
    case idle outside _ => simp [isPending, outside] at waits
    case pending start began hs =>
      refine ⟨start, began, hs, fun old => ?old, fun within => ?within⟩
      case old =>
        rw [← same] at old
        exact ⟨keys_feed_of_stale hs old octets, fun ne => by rw [feed_of_stale hs old ne]⟩
      case within =>
        rw [← same] at within
        exact ⟨feed_of_within hs within octets, fun long unspent => keys_feed_of_within hs within unspent octets⟩

theorem time_acts_by_expiry_arrow :
    let d := Decoder.receiveAll { timeout := 50 } [.char '\x1b' 10, .char '[' 60]
    d.isPending ∧ d.sequence.BeganAt [('\x1b', 10), ('[', 60)] 10 ∧ d.characters [0x41] = ['A'] ++ [] ∧
      (10 + 50 < 61 ∧ d.feed [0x41] 61 = d.reset.feed [0x41] 61 ∧ (d.feed [0x41] 61).2 = [.char 'A']) ∧
      (60 ≤ 10 + 50 ∧ d.feed [0x41] 60 = d.feedUntimed [0x41] 60 ∧ (d.feed [0x41] 60).2 = [.up] ∧
        ({ d with timeout := 1000 }.feed [0x41] 60).2 = [.up]) ∧
      (3 ≤ 10 + 50 ∧ d.feed [0x41] 3 = d.feedUntimed [0x41] 3) ∧
      (d.forgetReturn.readAll 61 ['A']).1.expire 61 = (d.forgetReturn.readAll 61 ['A']).1 := by
  intro d
  have waits : d.isPending ∧ d.started = some 10 := by decide
  have letter : d.characters [0x41] = ['A'] ++ [] := by
    rw [characters, Utf8.repair_eq_run]
    decide
  have ne : d.characters [0x41] ≠ [] := by simp [letter]
  have ends (now : Nat) : d.sequence.BeganAt [('\x1b', 10), ('[', 60)] 10 ∧
      (10 + 50 < now → d.feed [0x41] now = d.reset.feed [0x41] now) ∧
      (now ≤ 10 + 50 → d.feed [0x41] now = d.feedUntimed [0x41] now ∧
        ∀ long, now ≤ 10 + long → ({ d with timeout := long }.feed [0x41] now).2 = (d.feed [0x41] now).2) := by
    obtain ⟨_, pending, _⟩ := time_acts_by_expiry 50 [.char '\x1b' 10, .char '[' 60] [0x41] now
    obtain ⟨_, began, started, old, young⟩ := pending waits.left
    cases waits.right.symm.trans started
    exact ⟨began, fun h => Prod.ext ((old h).right ne) (old h).left, young⟩
  obtain ⟨_, _, _, behind⟩ := time_acts_by_expiry 50 [.char '\x1b' 10, .char '[' 60] [0x41] 61
  have typed : (d.feed [0x41] 61).2 = [.char 'A'] := by
    rw [feed_eq, letter]
    decide
  have moved : (d.feed [0x41] 60).2 = [.up] := by
    rw [feed_eq, letter]
    decide
  obtain ⟨began, old, _⟩ := ends 61
  obtain ⟨_, _, young⟩ := ends 60
  obtain ⟨_, _, early⟩ := ends 3
  obtain ⟨untimed, patient⟩ := young (by decide)
  exact ⟨waits.left, began, letter, ⟨by decide, old (by decide), typed⟩,
    ⟨by decide, untimed, moved, (patient 1000 (by decide)).trans moved⟩,
    ⟨by decide, (early (by decide)).left⟩, behind ['A'] [] letter (by decide)⟩

end Decoder

end VirtualShell
