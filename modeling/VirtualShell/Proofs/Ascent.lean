import VirtualShell.Proofs.Listing
import VirtualShell.Proofs.Operand

namespace VirtualShell

namespace FileSystem

variable {fs : FileSystem} {dir path name : String} {e : Entry}

theorem isDirectory_of_resolve_below {names : List String} (h : fs.resolve path = some e)
    (below : Path.segments path = Path.segments dir ++ names) (ne : names ≠ []) : fs.isDirectory dir := by
  rw [resolve_append below] at h
  have ⟨there, hr, hd⟩ := Option.bind_eq_some_iff.mp h
  cases there
  case file => exact absurd (descend_file hd).left ne
  case directory children => exact isDirectory_iff.mpr ⟨children, hr⟩

theorem resolve_below_eq_none (h : fs.isDirectory dir = false) (below : Path.segments dir <+: Path.segments path)
    (ne : Path.segments path ≠ Path.segments dir) : fs.resolve path = none := by
  have ⟨names, eq⟩ := below
  cases hr : fs.resolve path
  case none => rfl
  case some e =>
    have down : names ≠ [] := by
      rintro rfl
      exact ne (by rw [← eq, List.append_nil])
    exact absurd (isDirectory_of_resolve_below hr eq.symm down) (by simp [h])

theorem isDirectory_up (canonical : Path.Canonical path) (h : fs.resolve path = some e) (root : path ≠ "/") :
    fs.isDirectory (Path.canonicalize path "..") :=
  isDirectory_of_resolve_below h (canonical.segments_eq_up_concat root) nofun

theorem list_up (canonical : Path.Canonical path) (h : fs.resolve path = some e) (root : path ≠ "/") :
    ∃ entries, fs.list (Path.canonicalize path "..") = .ok entries ∧
      entries.filter (·.1 = Path.basename path) = [(Path.basename path, e.isDirectory)] := by
  have ⟨children, hr⟩ := isDirectory_iff.mp (isDirectory_up canonical h root)
  have stored : NameTable.get? children (Path.basename path) = some e :=
    (resolve_child hr (canonical.segments_eq_up_concat root)).symm.trans h
  have once := NameTable.filter_of_mem (ordered_of_resolve hr) (NameTable.mem_of_get? stored)
  refine ⟨_, list_eq hr, ?_⟩
  rw [List.filter_map]
  exact congrArg (List.map fun p => (p.1, p.2.isDirectory)) once

theorem isDirectory_up_of_isDirectory (canonical : Path.Canonical path) (h : fs.isDirectory path) :
    fs.isDirectory (Path.canonicalize path "..") := by
  by_cases root : path = "/"
  case pos => rwa [root, Path.Canonical.canonicalize_root_up, ← root]
  case neg =>
    have ⟨_, hr⟩ := isDirectory_iff.mp h
    exact isDirectory_up canonical hr root

end FileSystem

theorem Command.target_up (ctx : Context) (env : Environment) :
    target ctx env ".." = Path.canonicalize ctx.cwd ".." :=
  rfl

namespace Session

open VirtualShell.Path (canonicalize)

variable {fs : FileSystem} {s : Session}

namespace Shell.Placed

theorem run (h : Placed fs s.shell) (line : String) : Placed fs (s.run line).1.shell :=
  dispatch (s := { s with history := _ }) line h

theorem run_cd_up (h : Placed fs s.shell) :
    (s.run "cd ..").2 = { newCwd := some (canonicalize s.cwd "..") } := by
  have ⟨children, hr⟩ := FileSystem.isDirectory_iff.mp
    (FileSystem.isDirectory_up_of_isDirectory h.canonical h.isDirectory)
  have here : fs = s.fs := h.fs_eq.symm
  subst here
  have hr : s.context.fs.resolve (Command.target s.context s.env "..") = some (.directory children) := hr
  have ⟨_, _, cd⟩ := Command.answers_of_directory hr
  have line : "cd .." = "cd " ++ ".." := by decide
  rw [line, run_cd_word (by decide), cd, Command.target_up]
  rfl

theorem cwd_run_cd_up (h : Placed fs s.shell) : (s.run "cd ..").1.cwd = canonicalize s.cwd ".." := by
  rw [cwd_run, h.run_cd_up, Option.getD_some]

end Shell.Placed

def climb (s : Session) (n : Nat) : Session := (s.answerAll (List.replicate n (.run "cd .."))).1

theorem climb_zero (s : Session) : s.climb 0 = s := by
  rw [climb, List.replicate_zero, answerAll_nil]

theorem climb_succ (s : Session) (n : Nat) : s.climb (n + 1) = (s.run "cd ..").1.climb n := by
  rw [climb, List.replicate_succ, answerAll_cons, answer_run, climb]

theorem Shell.Placed.segments_cwd_climb (h : Placed fs s.shell) (n : Nat) :
    Path.segments (s.climb n).cwd = (Path.segments s.cwd).take ((Path.segments s.cwd).length - n) := by
  -- over all placed sessions, since the one that has climbed a step is another of them
  induction n generalizing s
  case zero => simp [climb_zero]
  case succ n hi =>
    have up : Path.segments (canonicalize s.cwd "..") = (Path.segments s.cwd).dropLast := h.canonical.segments_up
    rw [climb_succ, hi (h.run "cd .."), h.cwd_run_cd_up, up, List.dropLast_eq_take, List.take_take, List.length_take]
    exact congrArg (List.take · (Path.segments s.cwd)) (by omega)

theorem Shell.Placed.climb (h : Placed fs s.shell) (n : Nat) : Placed fs (s.climb n).shell :=
  answerAll _ h

theorem cwd_climb_eq_root_iff (h : Shell.Placed fs s.shell) (n : Nat) :
    (s.climb n).cwd = "/" ↔ (Path.segments s.cwd).length ≤ n := by
  have canonical : Path.Canonical (s.climb n).cwd := (h.climb n).canonical
  rw [← canonical.segments_eq_nil_iff, h.segments_cwd_climb, List.take_eq_nil_iff, ← List.length_eq_zero_iff]
  omega

-- What is there stands in a directory, and nothing stands below anything else. A session that climbs
-- is never held up, and is at the root when it has gone up by all the names of its path.
theorem leads_up :
    (∀ (fs : FileSystem) (path : String), Path.Canonical path →
      (∀ e, path ≠ "/" → fs.resolve path = some e →
        let parent := canonicalize path ".."
        let name := Path.basename path
        fs.isDirectory parent ∧ path = canonicalize parent name ∧
          ∃ entries, fs.list parent = .ok entries ∧ entries.filter (·.1 = name) = [(name, e.isDirectory)]) ∧
      (fs.resolve path = none ∨ (∃ content, fs.resolve path = some (.file content)) →
        ∀ below, Path.Canonical below → Path.segments path <+: Path.segments below → below ≠ path →
          fs.resolve below = none)) ∧
    ∀ (o : Options) (calls : List Call),
      let s := ((new o).answerAll calls).1
      let parent := canonicalize s.cwd ".."
      (s.run "cd ..").2 = { newCwd := some parent } ∧ (s.run "cd ..").1.cwd = parent ∧
        (s.cwd = "/" → parent = "/") ∧
        (s.cwd ≠ "/" → s.cwd = canonicalize parent (Path.basename s.cwd) ∧
          Path.segments s.cwd = Path.segments parent ++ [Path.basename s.cwd]) ∧
        ∀ n, (s.climb n).cwd = "/" ↔ (Path.segments s.cwd).length ≤ n := by
  refine ⟨fun fs path canonical => ⟨fun e root found => ?above, fun blocked below hb prefixed ne => ?below⟩,
    fun o calls => ?session⟩
  case above =>
    exact ⟨FileSystem.isDirectory_up canonical found root, (canonical.canonicalize_up_basename root).symm,
      FileSystem.list_up canonical found root⟩
  case below =>
    have noDirectory : fs.isDirectory path = false := by
      rcases blocked with missing | ⟨content, file⟩
      · simp [FileSystem.isDirectory, missing]
      · simp [FileSystem.isDirectory, file, Entry.isDirectory]
    exact FileSystem.resolve_below_eq_none noDirectory prefixed fun same => ne (hb.ext canonical same)
  case session =>
    intro s parent
    have h : Shell.Placed o.fs s.shell := .answerAll calls (.new o)
    have canonical : Path.Canonical s.cwd := h.canonical
    refine ⟨h.run_cd_up, h.cwd_run_cd_up, fun root => ?_, fun root => ?_, cwd_climb_eq_root_iff h⟩
    · rw [← Path.Canonical.canonicalize_root_up, ← root]
    · exact ⟨(canonical.canonicalize_up_basename root).symm, canonical.segments_eq_up_concat root⟩

theorem leads_up_default :
    let fs : FileSystem := .default
    let s := (new {}).climb 0
    Path.Canonical "/etc/hostname" ∧ "/etc/hostname" ≠ "/" ∧
      fs.resolve "/etc/hostname" = some (.file "shellpane\n") ∧
      fs.isDirectory (canonicalize "/etc/hostname" "..") ∧
      (∃ entries, fs.list (canonicalize "/etc/hostname" "..") = .ok entries ∧
        entries.filter (·.1 = "hostname") = [("hostname", false)]) ∧
      Path.Canonical "/etc/hostname/x" ∧ Path.segments "/etc/hostname" <+: Path.segments "/etc/hostname/x" ∧
      fs.resolve "/etc/hostname/x" = none ∧
      s.cwd ≠ "/" ∧ s.cwd = canonicalize (canonicalize s.cwd "..") (Path.basename s.cwd) ∧
      (s.climb 2).cwd = "/" := by
  intro fs s
  have ⟨tree, session⟩ := leads_up
  have canonical : Path.Canonical "/etc/hostname" := ⟨by decide +kernel, by decide +kernel⟩
  have inside : Path.Canonical "/etc/hostname/x" := ⟨by decide +kernel, by decide +kernel⟩
  have found : fs.resolve "/etc/hostname" = some (.file "shellpane\n") := by decide +kernel
  have beyond : Path.segments "/etc/hostname" <+: Path.segments "/etc/hostname/x" := by decide +kernel
  have name : Path.basename "/etc/hostname" = "hostname" := by decide +kernel
  have below : s.cwd ≠ "/" := by decide +kernel
  have ⟨above, nothing⟩ := tree fs "/etc/hostname" canonical
  have ⟨parent, _, listed⟩ := above _ (by decide) found
  have ⟨_, _, _, joined, root⟩ := session {} []
  refine ⟨canonical, by decide, found, parent, name ▸ listed, inside, beyond, ?_, below, (joined below).left, ?_⟩
  · exact nothing (.inr ⟨_, found⟩) _ inside beyond (by decide)
  · exact (root 2).mpr (by decide +kernel)

end Session

end VirtualShell
