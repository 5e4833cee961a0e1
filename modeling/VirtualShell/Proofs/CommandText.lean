import VirtualShell.Completion
import VirtualShell.Proofs.Alphabet
import VirtualShell.Proofs.WorkingDirectory

namespace VirtualShell

open Alphabet

variable {A : Alphabet}

-- Every name in a tree is over an alphabet, and every content but for its line breaks.
structure FileSystem.Over (A : Alphabet) (fs : FileSystem) : Prop where
  names : ∀ path children, descend fs.root path = some (.directory children) →
    ∀ p ∈ children, A.Spells p.1
  contents : ∀ path content, descend fs.root path = some (.file content) →
    ∀ c ∈ content.toList, A.Has c ∨ c = '\n'

namespace Entry

mutual

def Over (A : Alphabet) : Entry → Prop
  | .file content => ∀ c ∈ content.toList, A.Has c ∨ c = '\n'
  | .directory children => AllOver A children
termination_by structural e => e

def AllOver (A : Alphabet) : List (String × Entry) → Prop
  | [] => True
  | (name, e) :: rest => A.Spells name ∧ e.Over A ∧ AllOver A rest
termination_by structural es => es

end

theorem allOver_iff {es : List (String × Entry)} : AllOver A es ↔ ∀ p ∈ es, A.Spells p.1 ∧ p.2.Over A := by
  induction es
  case nil => simp [AllOver]
  case cons p es hi => simp [AllOver, hi, and_assoc]

theorem Over.descend {e below : Entry} (h : e.Over A) {names : List String}
    (hd : FileSystem.descend e names = some below) : below.Over A := by
  induction names generalizing e
  case nil => exact Option.some.inj hd ▸ h
  case cons name names hi =>
    cases e
    case file => contradiction
    case directory children =>
      have ⟨child, mem, hd⟩ := FileSystem.descend_directory hd
      exact hi (allOver_iff.mp h _ mem).right hd

end Entry

namespace FileSystem

theorem over_of_root {fs : FileSystem} (h : fs.root.Over A) : fs.Over A where
  names _ _ hd p mem := (Entry.allOver_iff.mp (h.descend hd) p mem).left
  contents _ _ hd := h.descend hd

theorem lines_ascii {s : List Char} (h : s.all fun c => 0x20 ≤ c.toNat && c.toNat ≤ 0x7E || c == '\n') :
    ∀ c ∈ (String.ofList s).toList, A.Has c ∨ c = '\n' := by
  intro c hc
  have mem : c ∈ s := by simpa using hc
  have : (0x20 ≤ c.toNat ∧ c.toNat ≤ 0x7E) ∨ c = '\n' := by simpa using List.all_eq_true.mp h c mem
  exact this.imp_left (A.ascii c)

theorem over_default : default.Over A := by
  apply over_of_root
  simp only [default, defaultRoot, readmeText, Entry.Over, Entry.AllOver, and_true]
  repeat' apply And.intro
  all_goals first | exact spells_ascii rfl | exact lines_ascii rfl

end FileSystem

def OutputLine.Over (A : Alphabet) (line : OutputLine) : Prop :=
  ∀ c ∈ line.plain.toList, A.Has c ∨ c = '\n'

theorem OutputLine.over_of_spells {line : OutputLine} (h : A.Spells line.plain) : line.Over A :=
  fun c hc => .inl (h c hc)

theorem spells_fileError (e : FileError) : A.Spells e.message := by
  cases e <;> exact spells_ascii rfl

theorem spells_variableError (e : VariableError) : A.Spells e.message := by
  cases e
  exact spells_ascii rfl

theorem LocalTime.spells_render (t : LocalTime) : A.Spells t.render := by
  have space : A.Spells " " := spells_ascii rfl
  have colon : A.Spells ":" := spells_ascii rfl
  have weekday : A.Spells t.weekdayName := by
    apply spells_getD
    repeat refine List.forall_mem_cons.mpr ⟨spells_ascii rfl, ?_⟩
    nofun
  have month : A.Spells t.monthName := by
    apply spells_getD
    repeat refine List.forall_mem_cons.mpr ⟨spells_ascii rfl, ?_⟩
    nofun
  have two (n : Nat) : A.Spells (Text.padded '0' 2 n) := spells_padded (A.ascii _ (by decide)) 2 n
  have day := spells_padded (A.ascii ' ' (by decide)) 2 t.day
  have year := spells_padded (A.ascii '0' (by decide)) 4 t.year
  exact (((((((((((weekday.append space).append month).append space).append day).append space).append
    (two t.hour)).append colon).append (two t.minute)).append colon).append (two t.second)).append
    space).append year

namespace Command

def Over (A : Alphabet) : Command → Prop
  | .ls operand | .cd operand => ∀ s ∈ operand, A.Spells s
  | .cat args | .echo args | .exportVars args | .unsetVars args => ∀ s ∈ args, A.Spells s
  | .invalid e => A.Spells e.message
  | .unknown name => A.Spells name
  | _ => True

theorem spells_missingOperand {command operand : String} (hc : A.Spells command) (ho : A.Spells operand) :
    A.Spells (CommandError.missingOperand command operand).message :=
  ((hc.append (spells_ascii rfl)).append ho).append (spells_ascii rfl)

theorem over_parse {name : String} {args : List String} (hn : A.Spells name)
    (ha : ∀ arg ∈ args, A.Spells arg) : (parse name args).Over A := by
  have head : ∀ s ∈ args.head?, A.Spells s := fun s hs => ha s (List.mem_of_head? hs)
  unfold parse
  split
  all_goals first | exact trivial | exact head | exact ha | exact hn | skip
  all_goals
    split
    · exact spells_missingOperand (spells_ascii rfl) (spells_ascii rfl)
    · exact ha

theorem over_parseLine {line : String} (h : A.Spells line) : (parseLine line).Over A := by
  unfold parseLine
  split
  case h_1 => trivial
  case h_2 name args hw =>
    have ⟨hn, ha⟩ := List.forall_mem_cons.mp (hw ▸ h.words)
    exact over_parse hn ha

section

variable {ctx : Context} {env : Environment}

theorem spells_home (he : env.Over A) : A.Spells (home env) := he.getD "HOME" (spells_ascii rfl)

theorem spells_target (hc : A.Spells ctx.cwd) (he : env.Over A) {operand : String}
    (ho : A.Spells operand) : A.Spells (target ctx env operand) :=
  hc.canonicalize (ho.expandHome (spells_home he))

theorem over_assign (he : env.Over A) {arg : String} (ha : A.Spells arg) :
    (assign env arg).1.Over A ∧ ∀ line ∈ (assign env arg).2, line.Over A := by
  unfold assign
  split
  case h_1 => exact ⟨he, nofun⟩
  case h_2 name value hs =>
    have ⟨hn, hv⟩ := ha.around? hs
    have hset := he.set hn hv
    cases hr : env.set name value
    case ok env =>
      rw [hr] at hset
      exact ⟨hset, nofun⟩
    case error e =>
      have message : A.Spells ("export: `" ++ arg ++ "': " ++ e.message) :=
        ((Spells.append (spells_ascii rfl) ha).append (spells_ascii rfl)).append
          (spells_variableError e)
      exact ⟨he, List.forall_mem_singleton.mpr (OutputLine.over_of_spells message)⟩

theorem over_assignAll (he : env.Over A) {args : List String} (ha : ∀ arg ∈ args, A.Spells arg) :
    (assignAll env args).1.Over A ∧ ∀ line ∈ (assignAll env args).2, line.Over A := by
  induction args generalizing env
  case nil => exact ⟨he, nofun⟩
  case cons arg args hi =>
    have ⟨hp, ha⟩ := List.forall_mem_cons.mp ha
    have ⟨first, lines⟩ := over_assign he hp
    have ⟨rest, more⟩ := hi first ha
    exact ⟨rest, List.forall_mem_append.mpr ⟨lines, more⟩⟩

theorem over_execute (he : env.Over A) {command : Command} (h : command.Over A) :
    (command.execute ctx env).1.Over A := by
  cases command <;> simp only [execute]
  case exportVars args =>
    cases args
    case nil => exact he
    case cons arg args => exact (over_assignAll he h).left
  case unsetVars names => exact he.unsetAll names
  all_goals exact he

theorem spells_runCd (hc : A.Spells ctx.cwd) (he : env.Over A) {operand : Option String}
    (ho : ∀ s ∈ operand, A.Spells s) {path : String} (h : (runCd ctx env operand).newCwd = some path) :
    A.Spells path := by
  unfold runCd at h
  cases operand
  case none =>
    dsimp only at h
    split at h
    case isTrue =>
      have eq := Option.some.inj h
      subst eq
      exact Spells.canonicalize (spells_ascii rfl) (spells_home he)
    case isFalse => simp at h
  case some operand =>
    dsimp only at h
    split at h
    case h_1 =>
      have eq := Option.some.inj h
      subst eq
      exact spells_target hc he (ho operand rfl)
    all_goals simp at h

theorem spells_newCwd (hc : A.Spells ctx.cwd) (he : env.Over A) {command : Command} (ho : command.Over A)
    {path : String} (h : (command.execute ctx env).2.newCwd = some path) : A.Spells path := by
  cases command <;> simp only [execute] at h
  case cd operand => exact spells_runCd hc he ho h
  case ls operand => simp [newCwd_runLs] at h
  case exportVars args => cases args <;> simp at h
  all_goals simp at h

theorem over_listed {name : String} (h : A.Spells name) (isDirectory : Bool) :
    (listed name isDirectory).Over A := by
  apply OutputLine.over_of_spells
  cases isDirectory
  case false =>
    have : (listed name false).plain = name := OutputLine.plain_file name
    exact this.symm ▸ h
  case true => exact h.append (spells_ascii rfl)

theorem names_of_list {fs : FileSystem} (h : fs.Over A) {path : String}
    {entries : List (String × Bool)} (hl : fs.list path = .ok entries) : ∀ p ∈ entries, A.Spells p.1 := by
  have ⟨children, hr, eq⟩ := FileSystem.resolve_of_list hl
  exact eq ▸ List.forall_mem_map.mpr (h.names _ _ hr)

theorem over_fail {message : String} (h : A.Spells message) :
    ∀ line ∈ (Outcome.fail message).output, line.Over A :=
  List.forall_mem_singleton.mpr (OutputLine.over_of_spells h)

theorem over_runLs (hc : A.Spells ctx.cwd) (hf : ctx.fs.Over A) (he : env.Over A) {operand : Option String}
    (ho : ∀ s ∈ operand, A.Spells s) : ∀ line ∈ (runLs ctx env operand).output, line.Over A := by
  have path : A.Spells ((operand.map (target ctx env)).getD ctx.cwd) := by
    cases operand
    case none => exact hc
    case some operand => exact spells_target hc he (ho operand rfl)
  have shown : A.Spells (operand.getD ".") := by
    cases operand
    case none => exact spells_ascii rfl
    case some operand => exact ho operand rfl
  simp only [runLs]
  split
  case h_1 entries hl =>
    exact List.forall_mem_map.mpr fun p hp => over_listed (names_of_list hf hl p hp) p.2
  case h_2 => exact List.forall_mem_singleton.mpr (over_listed path.basename false)
  case h_3 e _ _ =>
    exact over_fail (((Spells.append (spells_ascii rfl) shown).append (spells_ascii rfl)).append
      (spells_fileError e))

theorem over_runCd (he : env.Over A) {operand : Option String} (ho : ∀ s ∈ operand, A.Spells s) :
    ∀ line ∈ (runCd ctx env operand).output, line.Over A := by
  have failed {path : String} (hp : A.Spells path) (e : FileError) :
      A.Spells ("cd: " ++ path ++ ": " ++ e.message) :=
    ((Spells.append (spells_ascii rfl) hp).append (spells_ascii rfl)).append (spells_fileError e)
  unfold runCd
  split
  case h_1 =>
    dsimp only
    split
    · nofun
    · exact over_fail (failed (spells_home he) _)
  case h_2 operand =>
    have operand := ho operand rfl
    dsimp only
    split
    · nofun
    · exact over_fail (failed operand _)
    · exact over_fail (failed operand _)

theorem over_catLine (hf : ctx.fs.Over A) {operand : String} (ho : A.Spells operand) :
    (catLine ctx env operand).Over A := by
  unfold catLine
  split
  case h_1 content hr => exact hf.contents _ _ (FileSystem.resolve_of_read hr)
  case h_2 e _ =>
    exact OutputLine.over_of_spells (((Spells.append (spells_ascii rfl) ho).append
      (spells_ascii rfl)).append (spells_fileError e))

theorem spells_expand (he : env.Over A) {arg : String} (ha : A.Spells arg) : A.Spells (expand env arg) := by
  unfold expand
  split
  case h_1 name _ => exact he.getD name spells_empty
  case h_2 => exact ha

theorem over_envLines (he : env.Over A) : ∀ line ∈ envLines env, line.Over A := by
  intro line hm
  have ⟨p, hp, eq⟩ := List.mem_map.mp hm
  have ⟨hn, hv⟩ := he p hp
  exact eq ▸ OutputLine.over_of_spells ((hn.append (spells_ascii rfl)).append hv)

theorem over_historyLines {history : List String} (h : ∀ text ∈ history, A.Spells text) :
    ∀ line ∈ historyLines history, line.Over A := by
  intro line hm
  have ⟨p, hp, eq⟩ := List.mem_map.mp hm
  have number : A.Spells (Text.padded ' ' 5 (p.2 + 1)) := spells_padded (A.ascii _ (by decide)) _ _
  have text := h p.1 (List.fst_mem_of_mem_zipIdx hp)
  exact eq ▸ OutputLine.over_of_spells ((number.append (spells_ascii rfl)).append text)

theorem spells_helpLines : ∀ text ∈ helpLines, A.Spells text := by
  unfold helpLines
  repeat refine List.forall_mem_cons.mpr ⟨spells_ascii rfl, ?_⟩
  nofun

theorem over_output (hc : A.Spells ctx.cwd) (hf : ctx.fs.Over A) (hh : ∀ text ∈ ctx.history, A.Spells text)
    (he : env.Over A) {command : Command} (h : command.Over A) :
    ∀ line ∈ (command.execute ctx env).2.output, line.Over A := by
  have single {text : String} (ht : A.Spells text) :
      ∀ line ∈ (Outcome.lines [.text text]).output, line.Over A :=
    List.forall_mem_singleton.mpr (OutputLine.over_of_spells ht)
  cases command <;> simp only [execute]
  case ls operand => exact over_runLs hc hf he h
  case cd operand => exact over_runCd he h
  case pwd => exact single hc
  case cat operands => exact List.forall_mem_map.mpr fun operand ho => over_catLine hf (h operand ho)
  case echo args =>
    refine single (.intercalate (spells_ascii rfl) ?_)
    exact List.forall_mem_map.mpr fun arg ha => spells_expand he (h arg ha)
  case env => exact over_envLines he
  case exportVars args =>
    cases args
    case nil => exact over_envLines he
    case cons arg args => exact (over_assignAll he h).right
  case history => exact over_historyLines hh
  case whoami => exact single (he.getD "USER" (spells_ascii rfl))
  case date => exact single ctx.clock.spells_render
  case help =>
    exact List.forall_mem_map.mpr fun text ht => OutputLine.over_of_spells (spells_helpLines text ht)
  case exit => exact single (spells_ascii rfl)
  case invalid e => exact over_fail h
  case unknown name =>
    have message : A.Spells (CommandError.unknownCommand name).message :=
      h.append (spells_ascii rfl)
    have hint : A.Spells helpHint := spells_ascii rfl
    intro line hm
    cases hm
    case head => exact OutputLine.over_of_spells message
    case tail hm => exact List.eq_of_mem_singleton hm ▸ OutputLine.over_of_spells hint
  all_goals exact List.forall_mem_nil _

end

end Command

theorem Completion.spells_candidates {word : String} : ∀ name ∈ candidates word, A.Spells name := by
  have all : ∀ name ∈ Command.names, A.Spells name := by
    unfold Command.names
    repeat refine List.forall_mem_cons.mpr ⟨spells_ascii rfl, ?_⟩
    nofun
  exact fun name hn => all name (List.mem_filter.mp hn).left

theorem Completion.spells_ofLine (line : String) (A : Alphabet) :
    (∀ text, ofLine line = .single text → A.Spells text) ∧
      ∀ names, ofLine line = .multiple names → ∀ name ∈ names, A.Spells name := by
  have all : ∀ name ∈ candidates line, A.Spells name := spells_candidates
  unfold ofLine
  split
  case isTrue => exact ⟨nofun, nofun⟩
  case isFalse =>
    split
    case h_1 => exact ⟨nofun, nofun⟩
    case h_2 name hc =>
      refine ⟨fun text eq => ?_, nofun⟩
      have name : A.Spells name := all name (hc ▸ .head _)
      exact Completion.single.inj eq ▸ name.append (spells_ascii rfl)
    case h_3 names _ _ =>
      refine ⟨nofun, fun names eq => ?_⟩
      exact Completion.multiple.inj eq ▸ all

end VirtualShell
