import VirtualShell.FileSystem.Default
import VirtualShell.Proofs.Assignment
import VirtualShell.Proofs.WorkingDirectory

namespace VirtualShell.Command

variable {ctx : Context} {env : Environment} {command : Command} {r : Environment × Outcome}

-- The ways in which a command can turn out. It prints, or it has the one effect that it is there for.
-- `export` alone does both: what it prints are the operands that it refuses, and it carries out the
-- others, so that an error on the screen does not mean that nothing has changed.
inductive Effect (ctx : Context) (env : Environment) : Command → Environment × Outcome → Prop
  | prints (command : Command) (output : List OutputLine) : Effect ctx env command (env, .lines output)
  | moves (operand : Option String) {path : String} (canonical : Path.Canonical path)
    (isDirectory : ctx.fs.isDirectory path) : Effect ctx env (.cd operand) (env, { newCwd := some path })
  | assigns {args : List String} (ne : args ≠ []) : Effect ctx env (.exportVars args)
    (env.overlay (assignments args), .lines ((args.filter nameless).map refusal))
  | unsets (names : List String) : Effect ctx env (.unsetVars names) (names.foldl Environment.unset env, {})
  | clears : Effect ctx env .clear (env, { clearScreen := true })
  | leaves : Effect ctx env .exit (env, { output := [.text "logout"], exit := true })

theorem effect_execute (ctx : Context) (env : Environment) (command : Command) :
    Effect ctx env command (command.execute ctx env) := by
  cases command
  case cd operand =>
    rcases runCd_cases ctx env operand with ⟨path, moved⟩ | ⟨message, failed⟩
    case inl =>
      obtain ⟨canonical, isDirectory⟩ := runCd_newCwd (congrArg Outcome.newCwd moved)
      simp only [execute, moved]
      exact .moves operand canonical isDirectory
    case inr =>
      simp only [execute, failed]
      exact .prints _ _
  case ls operand =>
    obtain ⟨output, printed⟩ := runLs_prints ctx env operand
    simp only [execute, printed]
    exact .prints _ _
  case exportVars args =>
    cases args
    case nil => exact .prints _ _
    case cons arg args =>
      rw [execute_exportVars (List.cons_ne_nil arg args)]
      exact .assigns (List.cons_ne_nil arg args)
  case unsetVars names => exact .unsets names
  case clear => exact .clears
  case exit => exact .leaves
  all_goals exact .prints _ _

namespace Effect

theorem environment (e : Effect ctx env command r) :
    r.1 = env ∨ (∃ names, command = .unsetVars names) ∨ ∃ args, args ≠ [] ∧ command = .exportVars args := by
  cases e
  case unsets names => exact .inr (.inl ⟨names, rfl⟩)
  case assigns args ne => exact .inr (.inr ⟨args, ne, rfl⟩)
  all_goals exact .inl rfl

theorem directory (e : Effect ctx env command r) {path : String} (h : r.2.newCwd = some path) :
    (∃ operand, command = .cd operand) ∧ Path.Canonical path ∧ ctx.fs.isDirectory path ∧
      r.2.output = [] ∧ r.1 = env := by
  cases e
  case moves operand _ canonical isDirectory =>
    cases h
    exact ⟨⟨operand, rfl⟩, canonical, isDirectory, rfl, rfl⟩
  all_goals contradiction

theorem single (e : Effect ctx env command r) :
    [r.2.newCwd.isSome, r.2.clearScreen, r.2.exit].count true ≤ 1 := by
  cases e <;> simp [Outcome.lines]

theorem harmless (e : Effect ctx env command r) {message : String} (h : .error message ∈ r.2.output) :
    r.2.newCwd = none ∧ r.2.clearScreen = false ∧ r.2.exit = false ∧
      (r.1 = env ∨ ∃ args, args ≠ [] ∧ command = .exportVars args) := by
  cases e
  case prints => exact ⟨rfl, rfl, rfl, .inl rfl⟩
  case assigns args ne => exact ⟨rfl, rfl, rfl, .inr ⟨args, ne, rfl⟩⟩
  all_goals simp at h

end Effect

theorem effects_are_confined (ctx : Context) (env : Environment) (command : Command) :
    let r := command.execute ctx env
    (r.1 = env ∨ (∃ names, command = .unsetVars names) ∨ ∃ args, args ≠ [] ∧ command = .exportVars args) ∧
      (∀ names, command = .unsetVars names →
        ∀ name, r.1.get? name = if name ∈ names then none else env.get? name) ∧
      (∀ path, r.2.newCwd = some path → (∃ operand, command = .cd operand) ∧ Path.Canonical path ∧
        ctx.fs.isDirectory path ∧ r.2.output = [] ∧ r.1 = env) ∧
      [r.2.newCwd.isSome, r.2.clearScreen, r.2.exit].count true ≤ 1 ∧
      (∀ message, .error message ∈ r.2.output → r.2.newCwd = none ∧ r.2.clearScreen = false ∧ r.2.exit = false ∧
        (r.1 = env ∨ ∃ args, args ≠ [] ∧ command = .exportVars args)) ∧
      ∀ args, args ≠ [] → command = .exportVars args →
        r.1 = ((assignments args).filter (·.1 ≠ "")).foldl (fun env p => env.insert p.1 p.2) env := by
  intro r
  have effect : Effect ctx env command r := effect_execute ctx env command
  refine ⟨effect.environment, ?unset, fun _ => effect.directory, effect.single, fun _ => effect.harmless, ?assigned⟩
  case unset =>
    rintro names rfl
    exact env.get?_foldl_unset names
  case assigned =>
    rintro args ne rfl
    rw [← Environment.overlay_eq]
    exact congrArg Prod.fst (execute_exportVars ne)

theorem effects_are_confined_default :
    let ctx : Context := ⟨"/project/workspace", .default, [], .epoch⟩
    let env := Environment.seeded "user" "shellpane" "/home/user" "/project/workspace"
    let unset := (Command.unsetVars ["HOME", "NONE", "HOME"]).execute ctx env
    let cd := (Command.cd (some "../../etc/")).execute ctx env
    let cat := (Command.cat ["src", "/etc/hostname"]).execute ctx env
    let set := (Command.exportVars ["A=1", "=x", "B=="]).execute ctx env
    (unset.1.get? "HOME" = none ∧ unset.1.get? "USER" = some "user") ∧
      (cd.2.newCwd = some "/etc" ∧ Path.Canonical "/etc" ∧ ctx.fs.isDirectory "/etc" ∧ cd.2.output = [] ∧ cd.1 = env) ∧
      (.error "cat: src: Is a directory" ∈ cat.2.output ∧ cat.2.newCwd = none ∧ cat.2.exit = false ∧ cat.1 = env) ∧
      (.error "export: `=x': variable name must not be empty" ∈ set.2.output ∧ set.2.newCwd = none ∧
        ["A=1", "=x", "B=="] ≠ [] ∧ set.1 = (env.insert "A" "1").insert "B" "=") := by
  intro ctx env unset cd cat set
  have ⟨_, gone, _⟩ := effects_are_confined ctx env (.unsetVars ["HOME", "NONE", "HOME"])
  have ⟨_, _, enters, _⟩ := effects_are_confined ctx env (.cd (some "../../etc/"))
  have ⟨_, _, _, _, fails, _⟩ := effects_are_confined ctx env (.cat ["src", "/etc/hostname"])
  have ⟨_, _, _, _, refuses, assigns⟩ := effects_are_confined ctx env (.exportVars ["A=1", "=x", "B=="])
  have others : unset.1.get? "USER" = env.get? "USER" := gone _ rfl "USER"
  have moved : cd.2.newCwd = some "/etc" := by decide +kernel
  have ⟨_, canonical, isDirectory, silent, same⟩ := enters "/etc" moved
  have missed : .error "cat: src: Is a directory" ∈ cat.2.output := by decide +kernel
  have ⟨stays, _, goesOn, _⟩ := fails _ missed
  have refused : .error "export: `=x': variable name must not be empty" ∈ set.2.output := by decide +kernel
  have ⟨stands, _⟩ := refuses _ refused
  have ne : ["A=1", "=x", "B=="] ≠ [] := nofun
  exact ⟨⟨gone _ rfl "HOME", others.trans (by decide +kernel)⟩, ⟨moved, canonical, isDirectory, silent, same⟩,
    ⟨missed, stays, goesOn, rfl⟩, refused, stands, ne, (assigns _ ne rfl).trans (by decide +kernel)⟩

end VirtualShell.Command
