import VirtualShell.Proofs.SessionText

namespace VirtualShell

open Alphabet

def Alphabet.printable : Alphabet where
  Has c := Text.isControl c = false
  ascii c h := by
    apply Bool.eq_false_iff.mpr
    rw [ne_eq, Text.isControl_iff]
    omega

namespace Key

theorem over_ofChar? {c : Char} : ∀ key ∈ ofChar? c, key.Over .printable := by
  intro key hk
  cases key
  case char d =>
    have ⟨eq, plain⟩ := ofChar?_eq_char_iff.mp hk
    exact eq ▸ plain
  all_goals trivial

theorem over_ofFinal? {c : Char} : ∀ key ∈ ofFinal? c, key.Over .printable := by
  unfold ofFinal?
  split <;> simp [Key.Over]

theorem over_ofParams? {params : List Char} : ∀ key ∈ ofParams? params, key.Over .printable := by
  unfold ofParams?
  split <;> simp [Key.Over]

end Key

namespace Decoder

variable {d : Decoder} {now : Nat}

theorem over_stepIdle {c : Char} : ∀ key ∈ (d.stepIdle c now).2, key.Over .printable := by
  unfold stepIdle
  split
  · nofun
  · split
    · nofun
    · exact Key.over_ofChar?

theorem over_finish {text : List Char} {key? : Option Key} (h : ∀ key ∈ key?, key.Over .printable) :
    ∀ key ∈ (d.finish text key?).2.toOption.join, key.Over .printable := by
  rwa [join_finish]

-- Inside an escape sequence no character is a key by itself.
theorem over_read (d : Decoder) (c : Char) (now : Nat) : ∀ key ∈ (d.read c now).2, key.Over .printable := by
  simp only [read, step]
  split
  case h_1 => exact over_stepIdle
  case h_2 =>
    split
    · nofun
    · split
      · nofun
      · split
        · nofun
        · exact over_finish nofun
  case h_3 =>
    split
    · nofun
    · apply over_finish
      split
      · exact Key.over_ofParams?
      · exact Key.over_ofFinal?
  case h_4 => exact over_finish Key.over_ofFinal?

theorem over_readAll (d : Decoder) (now : Nat) (s : List Char) :
    ∀ key ∈ (d.readAll now s).2, key.Over .printable := by
  induction s generalizing d
  case nil => nofun
  case cons c s hi =>
    have first : ∀ key ∈ (d.read c now).2.toList, key.Over .printable := fun key hk =>
      over_read d c now key (Option.mem_toList.mp hk)
    exact List.forall_mem_append.mpr ⟨first, hi _⟩

end Decoder

def Call.IsInput : Call → Prop
  | .char .. | .octets .. | .clock _ => True
  | .key _ | .run _ => False

namespace Session

variable {A : Alphabet} {s : Session}

theorem Over.answer (h : s.Over .printable) {call : Call} (hc : call.IsInput) :
    (s.answer call).1.Over .printable := by
  cases call
  case key => contradiction
  case char c now =>
    have key := Decoder.over_read { s.decoder with afterReturn := false } c now
    exact (h.withDecoder _).feedKeys fun k hk => key k (Option.mem_toList.mp hk)
  case octets octets now => exact (h.withDecoder _).feedKeys (Decoder.over_readAll _ now _)
  case run => contradiction
  case clock time => exact h.withClock time

theorem Over.answerAll (h : s.Over .printable) {calls : List Call} (hc : ∀ call ∈ calls, call.IsInput) :
    (s.answerAll calls).1.Over .printable := by
  induction calls generalizing s
  case nil => exact h
  case cons call calls hi =>
    have ⟨first, rest⟩ := List.forall_mem_cons.mp hc
    exact hi (h.answer first) rest

def midway (s : Session) (octets : List UInt8) (now pressed : Nat) : Session :=
  let (decoder, keys) := s.decoder.feed octets now
  ({ s with decoder }.feedKeys (keys.take pressed)).1

-- A state that a session is in, or passes through at the next read.
def Passes (s t : Session) : Prop := t = s ∨ ∃ octets now pressed, t = s.midway octets now pressed

theorem Over.passes (h : s.Over .printable) {t : Session} (ht : s.Passes t) : t.Over .printable := by
  rcases ht with rfl | ⟨octets, now, pressed, rfl⟩
  · exact h
  · refine (h.withDecoder _).feedKeys fun key hk => ?_
    exact Decoder.over_readAll _ now _ key (List.mem_of_mem_take hk)

def painted (s : Session) : List Chunk :=
  s.promptChunks ++ if s.line.isEmpty then [] else [.plain s.line.text]

theorem Over.painted (h : s.Over A) :
    ∀ chunk ∈ s.painted, ∃ text color, chunk = .text text color ∧ A.Spells text := by
  have user : A.Spells (s.user ++ "@" ++ s.host) := (h.user.append (spells_ascii rfl)).append h.host
  have colon : A.Spells ":" := spells_ascii rfl
  have sign : A.Spells "$ " := spells_ascii rfl
  have prompt : ∀ chunk ∈ s.promptChunks, ∃ text color, chunk = .text text color ∧ A.Spells text := by
    simp only [promptChunks, List.forall_mem_cons]
    exact ⟨⟨_, _, rfl, user⟩, ⟨_, _, rfl, colon⟩, ⟨_, _, rfl, h.shortCwd⟩, ⟨_, _, rfl, sign⟩, List.forall_mem_nil _⟩
  refine List.forall_mem_append.mpr ⟨prompt, ?_⟩
  split
  · exact List.forall_mem_nil _
  · exact List.forall_mem_singleton.mpr ⟨_, _, rfl, h.line⟩

theorem redraw_eq (s : Session) :
    ∃ back, s.redraw = .plain "\r\x1b[2K" :: s.painted ++ back ∧
      (back = [] ∨ ∃ columns : Nat, back = [.plain ("\x1b[" ++ toString columns ++ "D")]) := by
  refine ⟨if s.line.columnsAfter = 0 then [] else [.plain (cursorLeft s.line.columnsAfter)], ?_, ?_⟩
  · simp [redraw, painted, eraseLine]
  · split
    · exact .inl rfl
    · exact .inr ⟨_, rfl⟩

theorem no_control_enters {o : Options} (h : o.Over .printable) {calls : List Call}
    (hc : ∀ call ∈ calls, call.IsInput) {s : Session} (hs : ((new o).answerAll calls).1.Passes s) :
    printable.Spells s.line.text ∧ (∀ entry ∈ s.history.all, printable.Spells entry) ∧
      (∀ p ∈ s.env.all, printable.Spells p.1 ∧ printable.Spells p.2) ∧
      printable.Spells s.cwd ∧ printable.Spells s.prompt ∧
      ∃ painted back, s.redraw = .plain "\r\x1b[2K" :: painted ++ back ∧
        (∀ chunk ∈ painted, ∃ text color, chunk = .text text color ∧ printable.Spells text) ∧
        (back = [] ∨ ∃ columns : Nat, back = [.plain ("\x1b[" ++ toString columns ++ "D")]) := by
  have spelled : s.Over .printable := ((over_new h).answerAll hc).passes hs
  have ⟨back, eq, moves⟩ := s.redraw_eq
  exact ⟨spelled.line, spelled.history.all, spelled.env, spelled.cwd, spelled.prompt, s.painted, back, eq,
    spelled.painted, moves⟩

def hostileOptions : Options where
  cwd := "/"
  fs  := ⟨.directory [("\x1b[2J", .file "\x07")], rfl, List.pairwise_singleton .., trivial, trivial⟩
  historyCapacity := 2

def hostileCalls : List Call :=
  ['l', 's', '\r', '\x1b', 'O', '\x07', 'x', '\x1b', '[', '1', '\x1b', 'y'].map (.char · 0)

theorem no_control_enters_hostile :
    let s := ((new hostileOptions).answerAll hostileCalls).1
    let t := s.midway [0x1B, 0xC2, 0x9B, 0x7A] 9 1
    hostileOptions.Over printable ∧ (∀ call ∈ hostileCalls, call.IsInput) ∧ s.Passes t ∧
      s.line.text = "xy" ∧ s.history.all = ["ls"] ∧ printable.Spells t.line.text ∧
      ∃ painted back, t.redraw = .plain "\r\x1b[2K" :: painted ++ back ∧
        (∀ chunk ∈ painted, ∃ text color, chunk = .text text color ∧ printable.Spells text) ∧
        (back = [] ∨ ∃ columns : Nat, back = [.plain ("\x1b[" ++ toString columns ++ "D")]) := by
  intro s t
  have given : hostileOptions.Over printable :=
    ⟨spells_ascii rfl, spells_ascii rfl, spells_ascii rfl, spells_ascii rfl, nofun⟩
  have input : ∀ call ∈ hostileCalls, call.IsInput := by simp [hostileCalls, Call.IsInput]
  have passes : s.Passes t := .inr ⟨_, _, _, rfl⟩
  have line : s.line.text = "xy" := by decide +kernel
  have history : s.history.all = ["ls"] := by decide +kernel
  have ⟨typed, _, _, _, _, redrawn⟩ := no_control_enters given input passes
  exact ⟨given, input, passes, line, history, typed, redrawn⟩

end Session

end VirtualShell
