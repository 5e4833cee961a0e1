import VirtualShell.Proofs.NameOrder
import VirtualShell.Proofs.WorkingDirectory

namespace VirtualShell

namespace FileError

variable (s : String)

theorem append_notFound : s ++ ": " ++ notFound.message = s ++ ": No such file or directory" :=
  String.append_assoc.trans (congrArg (s ++ ·) (by decide))

theorem append_notADirectory : s ++ ": " ++ notADirectory.message = s ++ ": Not a directory" :=
  String.append_assoc.trans (congrArg (s ++ ·) (by decide))

theorem append_isADirectory : s ++ ": " ++ isADirectory.message = s ++ ": Is a directory" :=
  String.append_assoc.trans (congrArg (s ++ ·) (by decide))

end FileError

namespace FileSystem

-- The path itself if it leads to a directory, and what stands in the way otherwise.
def enter (fs : FileSystem) (path : String) : Except FileError String :=
  match fs.resolve path with
  | none => .error .notFound
  | some (.file _) => .error .notADirectory
  | some (.directory _) => .ok path

end FileSystem

namespace Command

variable {ctx : Context} {env : Environment} {operand : String}

def arrival (name : String) : Except FileError String → Outcome
  | .ok path => { newCwd := some path }
  | .error e => .fail ("cd: " ++ name ++ ": " ++ e.message)

-- The equations of these functions are found by unfolding, which leaves the texts alone.
theorem runCd_some (operand : String) :
    runCd ctx env (some operand) = arrival operand (ctx.fs.enter (target ctx env operand)) := by
  unfold runCd FileSystem.enter
  dsimp only
  cases ctx.fs.resolve (target ctx env operand)
  case none => rfl
  case some e => cases e <;> rfl

theorem runCd_none : runCd ctx env none =
    arrival (home env) ((ctx.fs.enter (Path.canonicalize "/" (home env))).mapError fun _ => .notFound) := by
  unfold runCd FileSystem.enter FileSystem.isDirectory
  dsimp only
  cases ctx.fs.resolve (Path.canonicalize "/" (home env))
  case none => rfl
  case some e => cases e <;> rfl

theorem answers_of_missing (h : ctx.fs.resolve (target ctx env operand) = none) :
    catLine ctx env operand = .error ("cat: " ++ operand ++ ": No such file or directory") ∧
      runLs ctx env (some operand) =
        .fail ("ls: cannot access '" ++ operand ++ "': No such file or directory") ∧
      runCd ctx env (some operand) = .fail ("cd: " ++ operand ++ ": No such file or directory") := by
  have read : ctx.fs.read (target ctx env operand) = .error .notFound := by rw [FileSystem.read, h]
  have list : ctx.fs.list (target ctx env operand) = .error .notFound := by rw [FileSystem.list, h]
  refine ⟨?cat, ?ls, ?cd⟩
  case cat =>
    rw [← FileError.append_notFound]
    unfold catLine
    rw [read]
  case ls =>
    have quoted (s : String) : s ++ "': " ++ FileError.notFound.message = s ++ "': No such file or directory" :=
      String.append_assoc.trans (congrArg (s ++ ·) (by decide))
    rw [← quoted]
    unfold runLs
    dsimp only [Option.map_some, Option.getD_some]
    rw [list]
  case cd =>
    rw [← FileError.append_notFound, runCd_some, FileSystem.enter, h]
    rfl

theorem answers_of_file {content : String}
    (h : ctx.fs.resolve (target ctx env operand) = some (.file content)) :
    catLine ctx env operand = .text content ∧
      runLs ctx env (some operand) =
        .lines [.entry (Path.basename (target ctx env operand))
          ((Entry.file content).style (Path.basename (target ctx env operand)))] ∧
      runCd ctx env (some operand) = .fail ("cd: " ++ operand ++ ": Not a directory") := by
  have read : ctx.fs.read (target ctx env operand) = .ok content := by rw [FileSystem.read, h]
  have list : ctx.fs.list (target ctx env operand) = .error .notADirectory := by rw [FileSystem.list, h]
  refine ⟨?cat, ?ls, ?cd⟩
  case cat =>
    unfold catLine
    rw [read]
  case ls =>
    unfold runLs
    dsimp only [Option.map_some, Option.getD_some]
    rw [list]
    rfl
  case cd =>
    rw [← FileError.append_notADirectory, runCd_some, FileSystem.enter, h]
    rfl

theorem answers_of_directory {children : NameTable Entry}
    (h : ctx.fs.resolve (target ctx env operand) = some (.directory children)) :
    catLine ctx env operand = .error ("cat: " ++ operand ++ ": Is a directory") ∧
      runLs ctx env (some operand) = .lines (children.map fun (name, e) => .entry name (e.style name)) ∧
      runCd ctx env (some operand) = { newCwd := some (target ctx env operand) } := by
  have read : ctx.fs.read (target ctx env operand) = .error .isADirectory := by rw [FileSystem.read, h]
  refine ⟨?cat, runLs_of_directory (some operand) h, ?cd⟩
  case cat =>
    rw [← FileError.append_isADirectory]
    unfold catLine
    rw [read]
  case cd =>
    rw [runCd_some, FileSystem.enter, h]
    rfl

theorem runCd_congr {other : Context} (fs : ctx.fs = other.fs) (cwd : ctx.cwd = other.cwd) (operand : Option String) :
    runCd ctx env operand = runCd other env operand := by
  unfold runCd target
  rw [fs, cwd]

theorem runLs_congr {other : Context} (fs : ctx.fs = other.fs) (cwd : ctx.cwd = other.cwd) (operand : Option String) :
    runLs ctx env operand = runLs other env operand := by
  unfold runLs target
  rw [fs, cwd]

theorem execute_cd (operand : Option String) : (Command.cd operand).execute ctx env = (env, runCd ctx env operand) :=
  rfl

theorem execute_ls (operand : Option String) : (Command.ls operand).execute ctx env = (env, runLs ctx env operand) :=
  rfl

theorem execute_cat_single (operand : String) :
    (Command.cat [operand]).execute ctx env = (env, .lines [catLine ctx env operand]) :=
  rfl

theorem parseLine_cd (h : Text.IsWord operand) : parseLine ("cd " ++ operand) = .cd (some operand) :=
  have name : "cd " ++ operand = "cd" ++ " " ++ operand := congrArg (· ++ operand) (by decide)
  (congrArg parseLine name).trans (parseLine_join (by decide) h)

theorem parseLine_ls (h : Text.IsWord operand) : parseLine ("ls " ++ operand) = .ls (some operand) :=
  have name : "ls " ++ operand = "ls" ++ " " ++ operand := congrArg (· ++ operand) (by decide)
  (congrArg parseLine name).trans (parseLine_join (by decide) h)

end Command

namespace Session

open Command (target)

variable {s : Session} {operand : String}

theorem run_eq (s : Session) (line : String) : (s.run line).2 =
    ((Command.parseLine line).execute ⟨s.cwd, s.fs, (s.history.add line).all, s.clock⟩ s.env).2 :=
  rfl

theorem run_cd_word (h : Text.IsWord operand) :
    (s.run ("cd " ++ operand)).2 = Command.runCd s.context s.env (some operand) := by
  rw [run_eq, Command.parseLine_cd h, Command.execute_cd]
  dsimp only
  apply Command.runCd_congr <;> rfl

theorem run_ls_word (h : Text.IsWord operand) :
    (s.run ("ls " ++ operand)).2 = Command.runLs s.context s.env (some operand) := by
  rw [run_eq, Command.parseLine_ls h, Command.execute_ls]
  dsimp only
  apply Command.runLs_congr <;> rfl

theorem fs_run (s : Session) (line : String) : (s.run line).1.fs = s.fs :=
  fs_dispatch ..

theorem cwd_run (s : Session) (line : String) : (s.run line).1.cwd = (s.run line).2.newCwd.getD s.cwd :=
  cwd_dispatch ..

theorem cwd_run_cd (word : Text.IsWord operand) (h : (s.run ("cd " ++ operand)).2.newCwd.isSome) :
    (s.run ("cd " ++ operand)).1.cwd = target s.context s.env operand ∧
      ∃ children, s.context.fs.resolve (target s.context s.env operand) = some (.directory children) := by
  rw [cwd_run]
  rw [run_cd_word word] at h ⊢
  cases hr : s.context.fs.resolve (target s.context s.env operand)
  case none =>
    have ⟨_, _, cd⟩ := Command.answers_of_missing hr
    simp [cd] at h
  case some e =>
    cases e
    case file content =>
      have ⟨_, _, cd⟩ := Command.answers_of_file hr
      simp [cd] at h
    case directory children =>
      have ⟨_, _, cd⟩ := Command.answers_of_directory hr
      rw [cd]
      exact ⟨rfl, children, rfl⟩

theorem run_ls_of_cd (word : Text.IsWord operand) (h : (s.run ("cd " ++ operand)).2.newCwd.isSome) {t : Session}
    (fs : t.fs = s.fs) (cwd : t.cwd = target s.context s.env operand) :
    (t.run "ls").2 = (s.run ("ls " ++ operand)).2 := by
  have ⟨_, children, hr⟩ := cwd_run_cd word h
  have ⟨_, before, _⟩ := Command.answers_of_directory hr
  rw [run_ls_word word, before]
  apply run_ls
  rw [fs, cwd]
  exact hr

theorem operands_agree :
    (∀ (ctx : Context) (env : Environment) (p : String),
      let path := target ctx env p
      let cat := (Command.cat [p]).execute ctx env
      let ls := (Command.ls (some p)).execute ctx env
      let cd := (Command.cd (some p)).execute ctx env
      Path.Canonical path ∧
      (ctx.fs.resolve path = none →
        cat = (env, { output := [.error ("cat: " ++ p ++ ": No such file or directory")] }) ∧
        ls = (env, { output := [.error ("ls: cannot access '" ++ p ++ "': No such file or directory")] }) ∧
        cd = (env, { output := [.error ("cd: " ++ p ++ ": No such file or directory")] })) ∧
      (∀ content, ctx.fs.resolve path = some (.file content) →
        let name := Path.basename path
        cat = (env, { output := [.text content] }) ∧
        ls = (env, { output := [.entry name (if name.toList.head? = some '.' then .hidden else .file)] }) ∧
        (Path.segments path).getLast? = some name ∧
        cd = (env, { output := [.error ("cd: " ++ p ++ ": Not a directory")] })) ∧
      ∀ children, ctx.fs.resolve path = some (.directory children) →
        cat = (env, { output := [.error ("cat: " ++ p ++ ": Is a directory")] }) ∧
        ls = (env, { output := children.map fun (name, e) => .entry name (e.style name) }) ∧
        (children.Pairwise fun a b => Utf8.encode a.1 < Utf8.encode b.1) ∧
        cd = (env, { newCwd := some path })) ∧
    ∀ (s : Session) (p : String), Text.IsWord p →
      let moved := s.run ("cd " ++ p)
      moved.2.newCwd.isSome →
        let asked := moved.1.run "pwd"
        asked.2 = { output := [.text (target s.context s.env p)] } ∧
        (moved.1.run "ls").2 = (s.run ("ls " ++ p)).2 ∧ (asked.1.run "ls").2 = (s.run ("ls " ++ p)).2 := by
  refine ⟨fun ctx env p => ?commands, fun s p word => ?session⟩
  case commands =>
    dsimp only
    rw [Command.execute_cat_single, Command.execute_ls, Command.execute_cd]
    refine ⟨Path.canonical_canonicalize .., fun missing => ?missing, fun content file => ?file,
      fun children directory => ?directory⟩
    case missing =>
      have ⟨cat, ls, cd⟩ := Command.answers_of_missing missing
      rw [cat, ls, cd]
      exact ⟨rfl, rfl, rfl⟩
    case file =>
      have ⟨cat, ls, cd⟩ := Command.answers_of_file file
      have last := Path.getLast?_segments (FileSystem.segments_ne_nil_of_resolve file)
      rw [cat, ls, cd]
      exact ⟨rfl, rfl, last, rfl⟩
    case directory =>
      have ⟨cat, ls, cd⟩ := Command.answers_of_directory directory
      have ordered := (FileSystem.ordered_of_resolve directory).octets
      rw [cat, ls, cd]
      exact ⟨rfl, rfl, ordered, rfl⟩
  case session =>
    intro moved here asked
    have ⟨cwd, _⟩ := cwd_run_cd word here
    have fs : moved.1.fs = s.fs := fs_run ..
    have stays : asked.1.cwd = moved.1.cwd := cwd_run moved.1 "pwd"
    have pwd := run_pwd moved.1
    rw [cwd] at pwd
    refine ⟨pwd, ?_, ?_⟩
    · exact run_ls_of_cd word here fs cwd
    · exact run_ls_of_cd word here ((fs_run ..).trans fs) (stays.trans cwd)

theorem operands_agree_default :
    let s := new {}
    let path (p : String) := target s.context s.env p
    let children := [(".git", .directory []), (".rc", .file ""), ("a.txt", .file "text"), ("b", .directory [])]
    let fs : FileSystem := ⟨.directory [("work", .directory children)], rfl, by
      simp only [children, Entry.Ordered, Entry.AllOrdered, NameTable.Ordered, and_true]
      decide⟩
    let ctx : Context := { s.context with fs }
    (s.fs.resolve (path "src/lib.rs/x") = none ∧
      (Command.cat ["src/lib.rs/x"]).execute s.context s.env =
        (s.env, { output := [.error ("cat: " ++ "src/lib.rs/x" ++ ": No such file or directory")] })) ∧
    (path "~/.profile//" = "/home/user/.profile" ∧
      s.fs.resolve (path "~/.profile//") = some (.file "# ~/.profile\nexport EDITOR=vim\n") ∧
      (Command.ls (some "~/.profile//")).execute s.context s.env =
        (s.env, { output := [.entry ".profile" .hidden] })) ∧
    (path "../../../etc/./" = "/etc" ∧
      s.fs.resolve (path "../../../etc/./") = some (.directory [("hostname", .file "shellpane\n")]) ∧
      (Command.cd (some "../../../etc/./")).execute s.context s.env =
        (s.env, { newCwd := some (path "../../../etc/./") })) ∧
    (fs.resolve (path "/work") = some (.directory children) ∧
      (Command.ls (some "/work")).execute ctx s.env =
        (s.env, { output := [.entry ".git" .directory, .entry ".rc" .hidden, .entry "a.txt" .file,
          .entry "b" .directory] })) ∧
    Text.IsWord "../../etc" ∧ (s.run ("cd " ++ "../../etc")).2.newCwd.isSome ∧
      ((s.run ("cd " ++ "../../etc")).1.run "pwd").2 = { output := [.text (path "../../etc")] } ∧
      ((s.run ("cd " ++ "../../etc")).1.run "ls").2 = (s.run ("ls " ++ "../../etc")).2 := by
  intro s path children fs ctx
  have ⟨commands, session⟩ := operands_agree
  have missing : s.fs.resolve (path "src/lib.rs/x") = none := by decide +kernel
  have file : path "~/.profile//" = "/home/user/.profile" ∧
      s.fs.resolve (path "~/.profile//") = some (.file "# ~/.profile\nexport EDITOR=vim\n") := by decide +kernel
  have directory : path "../../../etc/./" = "/etc" ∧
      s.fs.resolve (path "../../../etc/./") = some (.directory [("hostname", .file "shellpane\n")]) := by decide +kernel
  have work : fs.resolve (path "/work") = some (.directory children) := by decide +kernel
  have word : Text.IsWord "../../etc" := by decide
  have moved : (s.run ("cd " ++ "../../etc")).2.newCwd.isSome := by decide +kernel
  have ⟨_, ofMissing, _⟩ := commands s.context s.env "src/lib.rs/x"
  have ⟨_, _, ofFile, _⟩ := commands s.context s.env "~/.profile//"
  have ⟨_, _, _, ofDirectory⟩ := commands s.context s.env "../../../etc/./"
  have ⟨_, _, _, ofWork⟩ := commands ctx s.env "/work"
  have ⟨pwd, ls, _⟩ := session s "../../etc" word moved
  have ⟨_, shown, _⟩ := ofFile _ file.right
  have ⟨_, _, _, entered⟩ := ofDirectory _ directory.right
  have ⟨_, listed, _⟩ := ofWork children work
  have profile : Path.basename (path "~/.profile//") = ".profile" := by decide +kernel
  rw [profile] at shown
  exact ⟨⟨missing, (ofMissing missing).left⟩, ⟨file.left, file.right, shown⟩,
    ⟨directory.left, directory.right, entered⟩, ⟨work, listed⟩, word, moved, pwd, ls⟩

end Session

end VirtualShell
