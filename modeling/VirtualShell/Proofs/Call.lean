import VirtualShell.Proofs.Keystroke

namespace VirtualShell

inductive Call
  | key (key : Key)
  | char (c : Char) (now : Nat)
  | octets (octets : List UInt8) (now : Nat)
  | run (line : String)
  | clock (time : LocalTime)
  deriving DecidableEq, Repr

namespace Session

-- The session after a call, and what it shows. A line that is run shows nothing by itself.
def answer (s : Session) : Call → Session × List Chunk
  | .key key => s.feedKey key
  | .char c now => s.feedChar c now
  | .octets octets now => s.feed octets now
  | .run line => ((s.run line).1, [])
  | .clock time => ({ s with clock := time }, [])

def answerAll (s : Session) : List Call → Session × List Chunk
  | [] => (s, [])
  | call :: calls =>
    let (s, chunks) := s.answer call
    let (s, more) := answerAll s calls
    (s, chunks ++ more)

theorem answerAll_nil (s : Session) : s.answerAll [] = (s, []) :=
  rfl

theorem answerAll_cons (s : Session) (call : Call) (calls : List Call) : (s.answerAll (call :: calls)).1 =
    ((s.answer call).1.answerAll calls).1 :=
  rfl

theorem answer_run (s : Session) (line : String) : s.answer (.run line) = ((s.run line).1, []) :=
  rfl

theorem fs_apply (s : Session) (o : Outcome) : (s.apply o).fs = s.fs := by
  unfold apply
  split <;> split <;> rfl

theorem cwd_apply (s : Session) (o : Outcome) : (s.apply o).cwd = o.newCwd.getD s.cwd := by
  unfold apply
  split <;> split <;> simp [*]

theorem env_apply (s : Session) (o : Outcome) :
    (s.apply o).env = o.newCwd.elim s.env (s.env.insert "PWD") := by
  have set (path : String) : s.env.set "PWD" path = .ok (s.env.insert "PWD" path) := if_neg (by decide)
  unfold apply
  cases o.exit <;> cases o.newCwd <;> simp [set, Except.toOption]

theorem line_apply (s : Session) (o : Outcome) : (s.apply o).line = s.line := by
  unfold apply
  split <;> split <;> rfl

theorem closed_apply (s : Session) (o : Outcome) : (s.apply o).closed = (s.closed || o.exit) := by
  unfold apply
  cases o.exit <;> cases o.newCwd <;> simp

theorem fs_dispatch (s : Session) (line : String) : (s.dispatch line).1.fs = s.fs :=
  fs_apply ..

theorem cwd_dispatch (s : Session) (line : String) :
    (s.dispatch line).1.cwd = (s.dispatch line).2.newCwd.getD s.cwd :=
  cwd_apply ..

theorem env_dispatch (s : Session) (line : String) :
    let env := ((Command.parseLine line).execute s.context s.env).1
    (s.dispatch line).1.env = (s.dispatch line).2.newCwd.elim env (env.insert "PWD") :=
  env_apply ..

theorem line_dispatch (s : Session) (line : String) : (s.dispatch line).1.line = s.line :=
  line_apply ..

theorem closed_dispatch (s : Session) (line : String) :
    (s.dispatch line).1.closed = (s.closed || (s.dispatch line).2.exit) :=
  closed_apply ..

-- The part of a session that its commands share.
structure Shell where
  fs : FileSystem
  env : Environment
  cwd : String

def shell (s : Session) : Shell := ⟨s.fs, s.env, s.cwd⟩

section

variable {P : Shell → Prop} (dispatch : ∀ (s : Session) line, P s.shell → P (s.dispatch line).1.shell)
include dispatch

theorem shell_feedKey {s : Session} (key : Key) (h : P s.shell) : P (s.feedKey key).1.shell := by
  unfold feedKey
  split
  case isTrue => exact h
  case isFalse =>
    cases hc : s.carried? key
    case none =>
      have ⟨cursor, edits, _⟩ := press_of_not_carried hc
      have ⟨line, eq⟩ := edits.state
      exact eq ▸ h
    case some carried =>
      have ⟨line, history, eq⟩ := carried?_state hc
      rw [press_of_carried hc, eq]
      exact dispatch { s with line, history } carried.2 h

theorem shell_feedKeys {s : Session} (keys : List Key) (h : P s.shell) :
    P (s.feedKeys keys).1.shell := by
  induction keys generalizing s
  case nil => exact h
  case cons key keys hi => exact hi (shell_feedKey dispatch key h)

theorem shell_answer {s : Session} (call : Call) (h : P s.shell) : P (s.answer call).1.shell := by
  cases call
  case key key => exact shell_feedKey dispatch key h
  case char c now => exact shell_feedKeys dispatch (s := { s with decoder := _ }) _ h
  case octets octets now => exact shell_feedKeys dispatch (s := { s with decoder := _ }) _ h
  case run line => exact dispatch { s with history := _ } line h
  case clock time => exact h

theorem shell_answerAll {s : Session} (calls : List Call) (h : P s.shell) :
    P (s.answerAll calls).1.shell := by
  induction calls generalizing s
  case nil => exact h
  case cons call calls hi => exact hi (shell_answer dispatch call h)

end

theorem fs_feedKey (s : Session) (key : Key) : (s.feedKey key).1.fs = s.fs :=
  shell_feedKey (P := (·.fs = s.fs)) (fun t line h => (t.fs_dispatch line).trans h) key rfl

end Session

end VirtualShell
