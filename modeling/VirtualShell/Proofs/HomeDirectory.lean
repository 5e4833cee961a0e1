import VirtualShell.Proofs.CanonicalPath
import VirtualShell.Proofs.Operand

namespace VirtualShell

namespace FileSystem

variable {fs : FileSystem} {path other : String}

theorem enter_of_isDirectory (h : fs.isDirectory path) : fs.enter path = .ok path := by
  have ⟨children, hr⟩ := isDirectory_iff.mp h
  rw [enter, hr]

theorem eq_of_enter (h : fs.enter path = .ok other) : other = path := by
  unfold enter at h
  split at h
  · cases h
  · cases h
  · exact (Except.ok.inj h).symm

theorem exists_enter_error (h : fs.isDirectory path = false) : ∃ e, fs.enter path = .error e := by
  unfold enter
  split
  case h_1 => exact ⟨_, rfl⟩
  case h_2 => exact ⟨_, rfl⟩
  case h_3 children hr => simp [isDirectory, hr, Entry.isDirectory] at h

theorem enter_eq_notFound_iff : fs.enter path = .error .notFound ↔ fs.resolve path = none := by
  unfold enter
  split
  case h_1 hr => simp [hr]
  case h_2 hr => simp [hr]
  case h_3 hr => simp [hr]

-- One reason for every failure is the right one only where nothing is found.
theorem mapError_enter_eq_iff : (fs.enter path).mapError (fun _ => .notFound) = fs.enter other ↔
    fs.isDirectory path ∧ path = other ∨ fs.isDirectory path = false ∧ fs.resolve other = none := by
  cases hd : fs.isDirectory path
  case true =>
    rw [enter_of_isDirectory hd]
    constructor
    case mp => exact fun same => .inl ⟨rfl, eq_of_enter same.symm⟩
    case mpr =>
      intro there
      have ⟨_, same⟩ := there.resolve_right nofun
      exact same ▸ (enter_of_isDirectory hd).symm
  case false =>
    have ⟨e, eq⟩ := exists_enter_error hd
    rw [eq, ← enter_eq_notFound_iff]
    constructor
    case mp => exact fun same => .inr ⟨rfl, same.symm⟩
    case mpr => exact fun there => (there.resolve_left nofun).right.symm

end FileSystem

theorem FileError.message_injective {e e' : FileError} (h : e.message = e'.message) : e = e' := by
  cases e <;> cases e' <;> first | rfl | exact absurd h (by decide)

namespace Command

theorem arrival_injective {name : String} {r r' : Except FileError String} (h : arrival name r = arrival name r') :
    r = r' := by
  cases r
  case ok path =>
    cases r'
    case ok => exact congrArg _ (Option.some.inj (congrArg Outcome.newCwd h))
    case error => exact nomatch congrArg Outcome.newCwd h
  case error e =>
    cases r'
    case ok => exact nomatch congrArg Outcome.newCwd h
    case error e' =>
      have lines := congrArg Outcome.output h
      have texts := OutputLine.error.inj (List.cons.inj lines).left
      exact congrArg _ (FileError.message_injective ((String.append_right_inj _).mp texts))

variable {ctx : Context} {env : Environment}

theorem target_tilde (ctx : Context) (env : Environment) :
    target ctx env "~" = Path.canonicalize ctx.cwd (home env) :=
  rfl

def HomeAgrees (ctx : Context) (env : Environment) : Prop :=
  ∃ r, (Command.cd none).execute ctx env = (env, arrival (home env) r) ∧
    (Command.cd (some "~")).execute ctx env = (env, arrival "~" r)

theorem homeAgrees_iff : HomeAgrees ctx env ↔
    (ctx.fs.enter (Path.canonicalize "/" (home env))).mapError (fun _ => .notFound) =
      ctx.fs.enter (Path.canonicalize ctx.cwd (home env)) := by
  unfold HomeAgrees
  rw [execute_cd, execute_cd, runCd_none, runCd_some, target_tilde]
  constructor
  case mp =>
    intro ⟨r, alone, named⟩
    have alone := arrival_injective (Prod.mk.inj alone).right
    have named := arrival_injective (Prod.mk.inj named).right
    exact alone.trans named.symm
  case mpr => exact fun same => ⟨_, rfl, by rw [same]⟩

theorem home_eq_tilde (h : Path.isAbsolute (home env) ∨ ctx.cwd = "/") :
    Path.canonicalize "/" (home env) = Path.canonicalize ctx.cwd (home env) := by
  rcases h with absolute | root
  case inl => simp only [Path.canonicalize, absolute, if_true]
  case inr => rw [root]

theorem homeAgrees_iff_directory : HomeAgrees ctx env ↔
    let alone := Path.canonicalize "/" (home env)
    let tilde := Path.canonicalize ctx.cwd (home env)
    ctx.fs.isDirectory alone ∧ alone = tilde ∨ ctx.fs.isDirectory alone = false ∧ ctx.fs.resolve tilde = none :=
  homeAgrees_iff.trans FileSystem.mapError_enter_eq_iff

theorem homeAgrees_iff_no_file (h : Path.isAbsolute (home env) ∨ ctx.cwd = "/") : HomeAgrees ctx env ↔
    ∀ content, ctx.fs.resolve (Path.canonicalize "/" (home env)) ≠ some (.file content) := by
  rw [homeAgrees_iff_directory, ← home_eq_tilde h]
  cases hr : ctx.fs.resolve (Path.canonicalize "/" (home env))
  case none => simp [FileSystem.isDirectory, hr]
  case some e =>
    cases e
    case file => simp [FileSystem.isDirectory, hr, Entry.isDirectory]
    case directory => simp [FileSystem.isDirectory, hr, Entry.isDirectory]

theorem cd_agrees_with_tilde_iff (ctx : Context) (env : Environment) :
    let alone := Path.canonicalize "/" (home env)
    let tilde := Path.canonicalize ctx.cwd (home env)
    (Command.cd none).execute ctx env =
        (env, arrival (home env) ((ctx.fs.enter alone).mapError fun _ => .notFound)) ∧
      (Command.cd (some "~")).execute ctx env = (env, arrival "~" (ctx.fs.enter tilde)) ∧
      (HomeAgrees ctx env ↔
        ctx.fs.isDirectory alone ∧ alone = tilde ∨ ctx.fs.isDirectory alone = false ∧ ctx.fs.resolve tilde = none) ∧
      (Path.isAbsolute (home env) ∨ ctx.cwd = "/" →
        (HomeAgrees ctx env ↔ ∀ content, ctx.fs.resolve alone ≠ some (.file content))) := by
  refine ⟨?alone, ?named, homeAgrees_iff_directory, homeAgrees_iff_no_file⟩
  case alone => rw [execute_cd, runCd_none]
  case named => rw [execute_cd, runCd_some, target_tilde]

theorem cd_agrees_with_tilde_iff_default :
    let ctx : Context := ⟨"/project/workspace", .default, [], .epoch⟩
    let env := Environment.seeded "user" "shellpane" "/home//user/" "/project/workspace"
    let top : Context := ⟨"/", .default, [], .epoch⟩
    let lost := Environment.seeded "user" "shellpane" "home/nobody" "/"
    (Path.isAbsolute (home env) ∧
      (∀ content, ctx.fs.resolve (Path.canonicalize "/" (home env)) ≠ some (.file content)) ∧
      HomeAgrees ctx env ∧
      (Command.cd none).execute ctx env = (env, { newCwd := some "/home/user" })) ∧
    (top.cwd = "/" ∧ HomeAgrees top lost ∧
      (Command.cd (some "~")).execute top lost = (lost, .fail "cd: ~: No such file or directory")) := by
  intro ctx env top lost
  have ⟨_, _, _, same⟩ := cd_agrees_with_tilde_iff ctx env
  have ⟨_, _, _, missed⟩ := cd_agrees_with_tilde_iff top lost
  have absolute : Path.isAbsolute (home env) := by decide +kernel
  have there : ctx.fs.isDirectory (Path.canonicalize "/" (home env)) := by decide +kernel
  have nowhere : top.fs.resolve (Path.canonicalize "/" (home lost)) = none := by decide +kernel
  have noFile : ∀ content, ctx.fs.resolve (Path.canonicalize "/" (home env)) ≠ some (.file content) := by
    have ⟨_, hr⟩ := FileSystem.isDirectory_iff.mp there
    simp [hr]
  refine ⟨⟨absolute, noFile, (same (.inl absolute)).mpr noFile, by decide +kernel⟩, rfl, ?_, by decide +kernel⟩
  exact (missed (.inr rfl)).mpr (by simp [nowhere])

-- A file is reported as missing by the one and as a file by the other, and from where it is a name
-- below the working directory a home directory is found by the other alone.
theorem cd_differs_from_tilde :
    let top : Context := ⟨"/", .default, [], .epoch⟩
    let file := Environment.seeded "user" "shellpane" "/etc/hostname" "/"
    let ctx : Context := ⟨"/project/workspace", .default, [], .epoch⟩
    let below := Environment.seeded "user" "shellpane" "src" "/project/workspace"
    ((Command.cd none).execute top file = (file, .fail "cd: /etc/hostname: No such file or directory") ∧
      (Command.cd (some "~")).execute top file = (file, .fail "cd: ~: Not a directory") ∧
      ¬HomeAgrees top file) ∧
    ((Command.cd none).execute ctx below = (below, .fail "cd: src: No such file or directory") ∧
      (Command.cd (some "~")).execute ctx below = (below, { newCwd := some "/project/workspace/src" }) ∧
      ¬HomeAgrees ctx below) := by
  intro top file ctx below
  rw [homeAgrees_iff_directory, homeAgrees_iff_directory]
  decide +kernel

end Command

end VirtualShell
