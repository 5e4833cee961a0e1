import VirtualShell.Proofs.WorkingDirectory

namespace VirtualShell

namespace Command

variable {ctx : Context} {env : Environment} {name : String}

def Names (name : String) : Command → Prop
  | .exportVars args => ∃ arg ∈ args, ∃ value, Text.around? '=' arg = some (name, value)
  | .unsetVars names => name ∈ names
  | _ => False

theorem get?_assign {arg : String} (h : ∀ value, Text.around? '=' arg ≠ some (name, value)) :
    (assign env arg).1.get? name = env.get? name := by
  unfold assign
  split
  case h_1 => rfl
  case h_2 other value eq =>
    have ne : name ≠ other := fun same => h value (same ▸ eq)
    have kept := env.get?_set_of_ne ne value
    cases hs : env.set other value
    case error => rfl
    case ok => simpa [hs, Except.toOption] using kept

theorem get?_assignAll {args : List String}
    (h : ∀ arg ∈ args, ∀ value, Text.around? '=' arg ≠ some (name, value)) :
    (assignAll env args).1.get? name = env.get? name := by
  induction args generalizing env
  case nil => rfl
  case cons arg args hi =>
    have ⟨first, rest⟩ := List.forall_mem_cons.mp h
    exact (hi rest).trans (get?_assign first)

theorem get?_execute {command : Command} (h : ¬command.Names name) :
    (command.execute ctx env).1.get? name = env.get? name := by
  cases command
  case exportVars args =>
    have unnamed : ∀ arg ∈ args, ∀ value, Text.around? '=' arg ≠ some (name, value) :=
      fun arg ha value eq => h ⟨arg, ha, value, eq⟩
    cases args
    case nil => rfl
    case cons arg args => exact get?_assignAll unnamed
  case unsetVars names => exact (env.get?_foldl_unset names name).trans (if_neg h)
  all_goals rfl

end Command

structure Submission where
  line    : String
  outcome : Outcome
  deriving DecidableEq

namespace Submission

def Touches (e : Submission) : Prop := (Command.parseLine e.line).Names "PWD"

def Moves (e : Submission) : Prop :=
  (∃ operand, Command.parseLine e.line = .cd operand) ∧ e.outcome.newCwd.isSome

-- Since the last successful `cd`, or from the start, no line has touched the variable: one that has
-- is followed by a successful `cd`.
def Untouched : List Submission → Prop
  | [] => True
  | e :: log => (e.Touches → ∃ later ∈ log, later.Moves) ∧ Untouched log

theorem Untouched.of_concat {log : List Submission} {e : Submission} (h : Untouched (log ++ [e]))
    (stays : ¬e.Moves) : Untouched log ∧ ¬e.Touches := by
  induction log
  case nil => exact ⟨trivial, fun touches => nomatch h.left touches⟩
  case cons first log hi =>
    have ⟨before, untouched⟩ := hi h.right
    refine ⟨⟨fun touches => ?_, before⟩, untouched⟩
    have ⟨later, mem, moves⟩ := h.left touches
    cases List.mem_append.mp mem
    case inl mem => exact ⟨later, mem, moves⟩
    case inr mem => exact absurd (List.mem_singleton.mp mem ▸ moves) stays

end Submission

namespace Session

def submitted (s : Session) (line : String) : Submission := ⟨line, (s.dispatch line).2⟩

def submittedByKey (s : Session) (key : Key) : List Submission :=
  if s.closed then [] else (s.carried? key).toList.map fun (t, line) => t.submitted line

def submittedByKeys (s : Session) : List Key → List Submission
  | [] => []
  | key :: keys => s.submittedByKey key ++ (s.feedKey key).1.submittedByKeys keys

def submittedBy (s : Session) : Call → List Submission
  | .key key => s.submittedByKey key
  | .char c now => { s with decoder := (s.decoder.feedChar c now).1 }.submittedByKeys (s.decoder.feedChar c now).2.toList
  | .octets octets now =>
    { s with decoder := (s.decoder.feed octets now).1 }.submittedByKeys (s.decoder.feed octets now).2
  | .run line => [{ s with history := s.history.add line }.submitted line]
  | .clock _ => []

def submittedByAll (s : Session) : List Call → List Submission
  | [] => []
  | call :: calls => s.submittedBy call ++ (s.answer call).1.submittedByAll calls

variable {s : Session}

theorem dispatch_moved {line path : String} (h : (s.dispatch line).2.newCwd = some path) :
    (s.dispatch line).1.cwd = path ∧ (s.dispatch line).1.env.get? "PWD" = some path := by
  constructor
  · rw [cwd_dispatch, h]
    rfl
  · rw [env_dispatch, h]
    exact (Environment.get?_insert ..).trans (if_pos rfl)

theorem dispatch_stayed {line : String} (h : (s.dispatch line).2.newCwd = none) :
    (s.dispatch line).1.cwd = s.cwd ∧
      (s.dispatch line).1.env = ((Command.parseLine line).execute s.context s.env).1 := by
  constructor
  · rw [cwd_dispatch, h]
    rfl
  · rw [env_dispatch, h]
    rfl

def Agrees (log : List Submission) (shell : Shell) : Prop :=
  Submission.Untouched log → shell.env.get? "PWD" = some shell.cwd

namespace Agrees

variable {log : List Submission}

theorem dispatch (h : Agrees log s.shell) (line : String) :
    Agrees (log ++ [s.submitted line]) (s.dispatch line).1.shell := by
  intro untouched
  cases hn : (s.dispatch line).2.newCwd
  case some path =>
    have ⟨cwd, pwd⟩ := dispatch_moved hn
    exact pwd.trans (congrArg some cwd.symm)
  case none =>
    have ⟨cwd, env⟩ := dispatch_stayed hn
    have stays : ¬(s.submitted line).Moves := fun moves => by simp [submitted, Submission.Moves, hn] at moves
    have ⟨before, unnamed⟩ := untouched.of_concat stays
    have kept : (s.dispatch line).1.env.get? "PWD" = s.env.get? "PWD" := by
      rw [env]
      exact Command.get?_execute unnamed
    exact (kept.trans (h before)).trans (congrArg some cwd.symm)

theorem feedKey (h : Agrees log s.shell) (key : Key) :
    Agrees (log ++ s.submittedByKey key) (s.feedKey key).1.shell := by
  unfold submittedByKey Session.feedKey
  split
  case isTrue => simpa using h
  case isFalse =>
    cases hc : s.carried? key
    case none =>
      have ⟨cursor, edits, _⟩ := press_of_not_carried hc
      have ⟨line, eq⟩ := edits.state
      rw [eq, Option.toList_none, List.map_nil, List.append_nil]
      exact h
    case some carried =>
      have ⟨line, history, eq⟩ := carried?_state hc
      have agrees : Agrees log carried.1.shell := by
        rw [eq]
        exact h
      rw [press_of_carried hc]
      exact agrees.dispatch carried.2

theorem feedKeys (h : Agrees log s.shell) (keys : List Key) :
    Agrees (log ++ s.submittedByKeys keys) (s.feedKeys keys).1.shell := by
  induction keys generalizing s log
  case nil => exact (List.append_nil log).symm ▸ h
  case cons key keys hi =>
    have agrees := hi (h.feedKey key)
    rw [List.append_assoc] at agrees
    exact agrees

theorem answer (h : Agrees log s.shell) (call : Call) :
    Agrees (log ++ s.submittedBy call) (s.answer call).1.shell := by
  cases call
  case key key => exact h.feedKey key
  case char c now => exact feedKeys (s := { s with decoder := (s.decoder.feedChar c now).1 }) h _
  case octets octets now => exact feedKeys (s := { s with decoder := (s.decoder.feed octets now).1 }) h _
  case run line => exact dispatch (s := { s with history := s.history.add line }) h line
  case clock time => exact (List.append_nil log).symm ▸ h

theorem answerAll (h : Agrees log s.shell) (calls : List Call) :
    Agrees (log ++ s.submittedByAll calls) (s.answerAll calls).1.shell := by
  induction calls generalizing s log
  case nil => exact (List.append_nil log).symm ▸ h
  case cons call calls hi =>
    have agrees := hi (h.answer call)
    rw [List.append_assoc] at agrees
    exact agrees

theorem new {o : Options} (h : ∀ p ∈ o.env, p.1 ≠ "PWD") : Agrees [] (Session.new o).shell := by
  intro _
  have seeded := Environment.get?_seeded_pwd o.user o.host o.home o.startDirectory
  have overlaid := Environment.get?_overlay_of_forall_ne (.seeded o.user o.host o.home o.startDirectory) h
  dsimp only [shell, Session.new]
  exact overlaid.trans seeded

end Agrees

theorem dispatch_cd {line : String} {operand : Option String} (h : Command.parseLine line = .cd operand)
    (s : Session) :
    let r := s.dispatch line
    (∃ path, r.2 = { newCwd := some path } ∧ r.1.cwd = path ∧ r.1.env.get? "PWD" = some path) ∨
      ∃ message, r.2 = .fail message ∧ r.1.cwd = s.cwd ∧ r.1.env.get? "PWD" = s.env.get? "PWD" := by
  have executed : (Command.parseLine line).execute s.context s.env = (s.env, Command.runCd s.context s.env operand) := by
    rw [h]
    rfl
  have outcome : (s.dispatch line).2 = Command.runCd s.context s.env operand := congrArg Prod.snd executed
  rcases Command.runCd_cases s.context s.env operand with ⟨path, moved⟩ | ⟨message, failed⟩
  case inl =>
    have moved := outcome.trans moved
    exact .inl ⟨path, moved, dispatch_moved (congrArg Outcome.newCwd moved)⟩
  case inr =>
    have failed := outcome.trans failed
    have ⟨cwd, env⟩ := dispatch_stayed (congrArg Outcome.newCwd failed)
    rw [executed] at env
    exact .inr ⟨message, failed, cwd, congrArg (·.get? "PWD") env⟩

theorem pwd_follows_directory (o : Options) (calls : List Call) :
    let s := ((new o).answerAll calls).1
    ((∀ p ∈ o.env, p.1 ≠ "PWD") → Submission.Untouched ((new o).submittedByAll calls) →
      s.env.get? "PWD" = some s.cwd) ∧
    ∀ line operand, Command.parseLine line = .cd operand →
      ∀ t : Session, t = (s.run line).1 ∨ s.closed = false ∧ s.line.text = line ∧ t = (s.feedKey .enter).1 →
        (∃ path, (s.run line).2 = { newCwd := some path } ∧ t.cwd = path ∧ t.env.get? "PWD" = some path) ∨
          ∃ message, (s.run line).2 = .fail message ∧ t.cwd = s.cwd ∧
            t.env.get? "PWD" = s.env.get? "PWD" := by
  intro s
  refine ⟨fun unnamed => (Agrees.new unnamed).answerAll calls, fun line operand cd t ht => ?_⟩
  rcases ht with rfl | ⟨isOpen, rfl, rfl⟩
  case inl => exact dispatch_cd cd { s with history := s.history.add line }
  case inr =>
    rw [feedKey_of_open isOpen]
    exact dispatch_cd cd { s with line := .empty, history := s.history.add s.line.text }

theorem pwd_follows_directory_mended :
    let o : Options := { historyCapacity := 3, env := [("LANG", "C")] }
    let calls := [.run "export PWD=x", .key .tab, .octets [0x63, 0x64, 0x20, 0x2E, 0x2E, 0x0D] 0]
    let s := ((new o).answerAll calls).1
    let failed := s.run "cd nowhere"
    (∀ p ∈ o.env, p.1 ≠ "PWD") ∧
      (new o).submittedByAll calls = [⟨"export PWD=x", {}⟩, ⟨"cd ..", { newCwd := some "/project" }⟩] ∧
      Submission.Untouched ((new o).submittedByAll calls) ∧
      s.env.get? "PWD" = some s.cwd ∧ s.cwd = "/project" ∧
      Command.parseLine "cd nowhere" = .cd (some "nowhere") ∧
      failed.2 = .fail "cd: nowhere: No such file or directory" ∧ failed.1.env.get? "PWD" = some "/project" := by
  intro o calls s failed
  have unnamed : ∀ p ∈ o.env, p.1 ≠ "PWD" := by simp [o]
  have log : (new o).submittedByAll calls =
      [⟨"export PWD=x", {}⟩, ⟨"cd ..", { newCwd := some "/project" }⟩] := by decide +kernel
  have up : Command.parseLine "cd .." = .cd (some "..") := by decide +kernel
  have untouched : Submission.Untouched ((new o).submittedByAll calls) := by
    rw [log]
    refine ⟨fun _ => ⟨_, .head _, ⟨some "..", up⟩, rfl⟩, ?_, trivial⟩
    simp [Submission.Touches, up, Command.Names]
  have cwd : s.cwd = "/project" := by decide +kernel
  have nowhere : Command.parseLine "cd nowhere" = .cd (some "nowhere") := by decide +kernel
  have message : failed.2 = .fail "cd: nowhere: No such file or directory" := by decide +kernel
  have ⟨follows, cds⟩ := pwd_follows_directory o calls
  have pwd : s.env.get? "PWD" = some s.cwd := follows unnamed untouched
  rcases cds "cd nowhere" (some "nowhere") nowhere failed.1 (.inl rfl) with ⟨path, moved, _⟩ | ⟨_, _, _, kept⟩
  case inl => exact absurd (message.symm.trans moved) (by simp [Outcome.fail, Outcome.lines])
  case inr => exact ⟨unnamed, log, untouched, pwd, cwd, nowhere, message, kept.trans (pwd.trans (congrArg some cwd))⟩

end Session

end VirtualShell
