import VirtualShell.Proofs.Call

namespace VirtualShell

-- How a listing shows an entry of that name. Names that start with a dot are hidden, but for directories.
def Entry.style (name : String) : Entry → EntryStyle
  | .directory _ => .directory
  | .file _ => if name.toList.head? = some '.' then .hidden else .file

namespace Command

variable {ctx : Context} {env : Environment} {path : String}

theorem listed_eq (name : String) (e : Entry) : listed name e.isDirectory = .entry name (e.style name) := by
  cases e <;> rfl

theorem runLs_prints (ctx : Context) (env : Environment) (operand : Option String) :
    ∃ output, runLs ctx env operand = .lines output := by
  simp only [runLs]
  split <;> exact ⟨_, rfl⟩

theorem runLs_of_directory (operand : Option String) {children : NameTable Entry}
    (h : ctx.fs.resolve ((operand.map (target ctx env)).getD ctx.cwd) = some (.directory children)) :
    runLs ctx env operand = .lines (children.map fun (name, e) => .entry name (e.style name)) := by
  have list : ctx.fs.list ((operand.map (target ctx env)).getD ctx.cwd) =
      .ok (children.map fun (name, e) => (name, e.isDirectory)) := by rw [FileSystem.list, h]
  unfold runLs
  dsimp only
  rw [list]
  simp [Function.comp_def, listed_eq]

theorem newCwd_runLs (operand : Option String) : (runLs ctx env operand).newCwd = none := by
  have ⟨output, eq⟩ := runLs_prints ctx env operand
  rw [eq, Outcome.newCwd_lines]

theorem runCd_cases (ctx : Context) (env : Environment) (operand : Option String) :
    (∃ path, runCd ctx env operand = { newCwd := some path }) ∨
      ∃ message, runCd ctx env operand = .fail message := by
  unfold runCd
  cases operand <;> dsimp only
  case none =>
    split
    · exact .inl ⟨_, rfl⟩
    · exact .inr ⟨_, rfl⟩
  case some =>
    split
    · exact .inl ⟨_, rfl⟩
    all_goals exact .inr ⟨_, rfl⟩

theorem runCd_newCwd {operand : Option String} (h : (runCd ctx env operand).newCwd = some path) :
    Path.Canonical path ∧ ctx.fs.isDirectory path := by
  unfold runCd at h
  cases operand
  case none =>
    dsimp only at h
    split at h
    case isTrue hd =>
      have eq := Option.some.inj h
      subst eq
      exact ⟨Path.canonical_canonicalize .., hd⟩
    case isFalse => simp at h
  case some operand =>
    dsimp only at h
    split at h
    case h_1 hd =>
      have eq := Option.some.inj h
      subst eq
      exact ⟨Path.canonical_canonicalize .., FileSystem.isDirectory_iff.mpr ⟨_, hd⟩⟩
    all_goals simp at h

theorem execute_newCwd {command : Command} (h : (command.execute ctx env).2.newCwd = some path) :
    Path.Canonical path ∧ ctx.fs.isDirectory path := by
  cases command <;> simp only [execute] at h
  case cd operand => exact runCd_newCwd h
  case ls operand => simp [newCwd_runLs] at h
  case exportVars args => cases args <;> simp at h
  all_goals simp at h

end Command

namespace Session

structure Shell.Placed (fs : FileSystem) (shell : Shell) : Prop where
  fs_eq       : shell.fs = fs
  canonical   : Path.Canonical shell.cwd
  isDirectory : fs.isDirectory shell.cwd

namespace Shell.Placed

variable {fs : FileSystem} {s : Session}

theorem new (o : Options) : Placed o.fs (Session.new o).shell where
  fs_eq := rfl
  canonical := by
    simp only [shell, Session.new, Options.startDirectory]
    split
    · exact Path.canonical_canonicalize ..
    · exact Path.canonical_root
  isDirectory := by
    simp only [shell, Session.new, Options.startDirectory]
    split
    case isTrue h => exact h
    case isFalse => exact o.fs.isDirectory_root

theorem dispatch (line : String) (h : Placed fs s.shell) : Placed fs (s.dispatch line).1.shell := by
  have hf : s.fs = fs := h.fs_eq
  suffices Path.Canonical (s.dispatch line).1.cwd ∧ fs.isDirectory (s.dispatch line).1.cwd from
    { fs_eq := (s.fs_dispatch line).trans hf, canonical := this.left, isDirectory := this.right }
  rw [cwd_dispatch]
  cases ho : (s.dispatch line).2.newCwd
  case none => exact ⟨h.canonical, h.isDirectory⟩
  case some path =>
    have ⟨hc, hd⟩ := Command.execute_newCwd ho
    exact ⟨hc, hf ▸ hd⟩

theorem answerAll (calls : List Call) (h : Placed fs s.shell) :
    Placed fs (s.answerAll calls).1.shell :=
  shell_answerAll (fun _ line => dispatch line) calls h

end Shell.Placed

theorem run_pwd (s : Session) : (s.run "pwd").2 = .lines [.text s.cwd] :=
  rfl

theorem run_ls {s : Session} {children : NameTable Entry}
    (h : s.fs.resolve s.cwd = some (.directory children)) :
    (s.run "ls").2 = .lines (children.map fun (name, e) => .entry name (e.style name)) :=
  Command.runLs_of_directory none h

end Session

end VirtualShell
