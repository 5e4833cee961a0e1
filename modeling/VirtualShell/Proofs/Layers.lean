import VirtualShell.Program.Basic
import VirtualShell.Proofs.Assignment

namespace VirtualShell

section

variable {ε α β : Type}

-- A reader that has no effects answers with a result, so its steps are put together as results are.
theorem run_bind (x : ExceptT ε Id α) (f : α → ExceptT ε Id β) :
    (x >>= f).run.run = x.run.run.bind fun a => (f a).run.run := by
  rw [ExceptT.run_bind, Id.run_bind]
  cases x.run.run <;> rfl

theorem run_map (f : α → β) (x : ExceptT ε Id α) : (f <$> x).run.run = x.run.run.map f := by
  rw [ExceptT.run_map, Id.run_map]

theorem run_lift (x : Except ε α) : (liftM x : ExceptT ε Id α).run.run = x := by
  cases x <;> rfl

theorem eq_ok_of_bind {x : Except ε α} {f : α → Except ε β} {b : β} (h : x.bind f = .ok b) :
    ∃ a, x = .ok a ∧ f a = .ok b := by
  cases x
  case error => contradiction
  case ok a => exact ⟨a, rfl, h⟩

end

namespace Settings

theorem foldlM_keeps {σ α : Type} {P : σ → Prop} {step : σ → α → Option σ}
    (keeps : ∀ s a t, step s a = some t → P s → P t) {items : List α} {s t : σ}
    (h : items.foldlM step s = some t) (hs : P s) : P t := by
  induction items generalizing s
  case nil => exact Option.some.inj h ▸ hs
  case cons a items hi =>
    have ⟨next, first, rest⟩ := Option.bind_eq_some_iff.mp h
    exact hi rest (keeps s a next first hs)

theorem env_setField {s t : Settings} {name : String} {v : Toml.Scalar} (h : s.setField name v = some t) :
    t.env = s.env := by
  unfold setField at h
  split at h
  case h_7 | h_8 =>
    split at h
    case isTrue =>
      have ⟨_, _, eq⟩ := Option.bind_eq_some_iff.mp h
      exact Option.some.inj eq ▸ rfl
    case isFalse => contradiction
  case h_9 => contradiction
  all_goals
    have ⟨_, _, eq⟩ := Option.bind_eq_some_iff.mp h
    exact Option.some.inj eq ▸ rfl

theorem ordered_setVariable {s t : Settings} {p : List String × Toml.Scalar} (h : s.setVariable p = some t)
    (ordered : s.env.Ordered) : t.env.Ordered := by
  unfold setVariable at h
  split at h
  case h_1 =>
    have ⟨_, eq⟩ := Option.ite_none_left_eq_some.mp h
    exact Option.some.inj eq ▸ NameTable.ordered_insert ordered
  case h_2 => contradiction

theorem ordered_foldlM_setVariable {s t : Settings} {pairs : List (List String × Toml.Scalar)}
    (h : pairs.foldlM setVariable s = some t) (ordered : s.env.Ordered) : t.env.Ordered :=
  foldlM_keeps (P := fun s => s.env.Ordered) (fun _ _ _ => ordered_setVariable) h ordered

namespace Draft

theorem ordered_step {d e : Draft} {statement : Toml.Statement} (h : d.step statement = some e)
    (ordered : d.settings.env.Ordered) : e.settings.env.Ordered := by
  unfold step at h
  split at h
  case h_1 =>
    have ⟨_, eq⟩ := Option.ite_none_right_eq_some.mp h
    exact Option.some.inj eq ▸ ordered
  case h_2 =>
    split at h
    case isTrue =>
      have ⟨_, set, eq⟩ := Option.bind_eq_some_iff.mp h
      exact Option.some.inj eq ▸ ordered_setVariable set ordered
    case isFalse =>
      split at h
      case h_1 =>
        have ⟨_, set, eq⟩ := Option.bind_eq_some_iff.mp h
        rw [← env_setField set] at ordered
        exact Option.some.inj eq ▸ ordered
      case h_2 =>
        have ⟨_, set⟩ := Option.ite_none_left_eq_some.mp h
        have ⟨_, set, eq⟩ := Option.bind_eq_some_iff.mp set
        exact Option.some.inj eq ▸ ordered_setVariable set ordered
      case h_3 => contradiction
  case h_3 =>
    have ⟨_, set⟩ := Option.ite_none_right_eq_some.mp h
    have ⟨_, set, eq⟩ := Option.bind_eq_some_iff.mp set
    exact Option.some.inj eq ▸ ordered_foldlM_setVariable set ordered
  case h_4 =>
    have ⟨_, set⟩ := Option.ite_none_right_eq_some.mp h
    have ⟨_, set, eq⟩ := Option.bind_eq_some_iff.mp set
    exact Option.some.inj eq ▸ ordered_setVariable set ordered

end Draft

theorem ordered_ofToml? {text : String} {s : Settings} (h : ofToml? text = some s) : s.env.Ordered := by
  have ⟨statements, _, h⟩ := Option.bind_eq_some_iff.mp h
  have ⟨draft, read, eq⟩ := Option.bind_eq_some_iff.mp h
  have none : ({} : Draft).settings.env.Ordered := NameTable.ordered_nil
  have ordered : draft.settings.env.Ordered :=
    foldlM_keeps (P := fun d => d.settings.env.Ordered) (fun _ _ _ => Draft.ordered_step) read none
  exact Option.some.inj eq ▸ ordered

theorem ordered_parse {text : String} {s : Settings} (h : parse text = .ok s) : s.env.Ordered := by
  unfold parse at h
  split at h
  case h_1 found => exact Except.ok.inj h ▸ ordered_ofToml? found
  case h_2 => contradiction

theorem ordered_load {read : Host.Reader Id} {path : String} {s : Settings}
    (h : (load read path).run.run = .ok s) : s.env.Ordered := by
  rw [load, run_bind] at h
  have ⟨text, _, h⟩ := eq_ok_of_bind h
  rw [run_bind] at h
  have ⟨parsed, hp, eq⟩ := eq_ok_of_bind h
  have ordered := ordered_parse ((run_lift _).symm.trans hp)
  exact Except.ok.inj eq ▸ ordered

end Settings

namespace Environment

variable (env : Environment)

def startValue (user host home cwd : String) : String → Option String
  | "USER" => some user
  | "HOSTNAME" => some host
  | "HOME" => some home
  | "PWD" => some cwd
  | "PATH" => some "/usr/local/bin:/usr/bin:/bin"
  | "SHELL" => some "/bin/sh"
  | "TERM" => some "xterm-256color"
  | "LANG" => some "en_US.UTF-8"
  | _ => none

theorem get?_seeded (user host home cwd name : String) :
    (seeded user host home cwd).get? name = startValue user host home cwd name := by
  have none : empty.get? name = none := rfl
  have inserts : (seeded user host home cwd).get? name =
      if name = "PWD" then some cwd else if name = "HOME" then some home else if name = "HOSTNAME" then some host
      else if name = "USER" then some user else if name = "LANG" then some "en_US.UTF-8"
      else if name = "TERM" then some "xterm-256color" else if name = "SHELL" then some "/bin/sh"
      else if name = "PATH" then some "/usr/local/bin:/usr/bin:/bin" else .none := by
    simp [seeded, constants, overlay, set, Except.toOption, get?_insert, none]
  unfold startValue
  split
  case h_9 => simp_all
  all_goals simpa using inserts

theorem get?_overlay_of_ordered {t : NameTable String} (ordered : t.Ordered) {name : String} (ne : name ≠ "") :
    (env.overlay t).get? name = (t.get? name).or (env.get? name) := by
  cases found : t.get? name
  case none =>
    refine env.get?_overlay_of_forall_ne ?_
    rintro ⟨_, value⟩ mem rfl
    exact nomatch found.symm.trans (NameTable.get?_of_mem ordered mem)
  case some value =>
    have ⟨front, back, eq⟩ := List.append_of_mem (NameTable.mem_of_get? found)
    subst eq
    have ⟨_, behind, _⟩ := List.pairwise_append.mp ordered
    refine get?_overlay_last ne fun p mem => ?_
    have lt : name < p.1 := (List.pairwise_cons.mp behind).left p mem
    exact fun eq => String.lt_irrefl _ (eq ▸ lt)

end Environment

namespace Program.Arguments

open Command (Assigns LastAssigns assignments)

variable {a b : Arguments} {texts : List String}

theorem give_env {text : String} (h : a.give .env text = .ok b) :
    ∃ p, Text.around? '=' text = some p ∧ p.1 ≠ "" ∧ b = { a with env := a.env ++ [p] } := by
  dsimp only [give] at h
  split at h
  case h_1 p found =>
    have ⟨found, ne⟩ := Option.filter_eq_some_iff.mp found
    exact ⟨p, found, by simpa using ne, (Except.ok.inj h).symm⟩
  case h_2 => contradiction

def giveAll (a : Arguments) (texts : List String) : Except UsageError Arguments :=
  texts.foldlM (fun a text => a.give .env text) a

theorem env_giveAll (h : a.giveAll texts = .ok b) :
    b.env = a.env ++ assignments texts ∧ ∀ p ∈ assignments texts, p.1 ≠ "" := by
  induction texts generalizing a
  case nil =>
    cases Except.ok.inj h
    exact ⟨(List.append_nil _).symm, nofun⟩
  case cons text texts hi =>
    have ⟨next, first, rest⟩ := eq_ok_of_bind h
    have ⟨p, found, ne, eq⟩ := give_env first
    have ⟨env, named⟩ := hi rest
    have pairs : assignments (text :: texts) = p :: assignments texts := by simp [assignments, found]
    rw [pairs]
    exact ⟨by simp [env, eq], List.forall_mem_cons.mpr ⟨ne, named⟩⟩

def Unassigned (texts : List String) (name : String) : Prop := ∀ text ∈ texts, ∀ value, ¬Assigns text name value

theorem lastAssigns_or_unassigned (texts : List String) (name : String) :
    (∃ value, LastAssigns texts name value) ∨ Unassigned texts name := by
  induction texts
  case nil => exact .inr nofun
  case cons text texts hi =>
    rcases hi with ⟨value, front, last, back, eq, rest⟩ | later
    · exact .inl ⟨value, text :: front, last, back, congrArg _ eq, rest⟩
    · by_cases first : ∃ value, Assigns text name value
      case pos =>
        have ⟨value, assigns⟩ := first
        exact .inl ⟨value, [], text, texts, rfl, assigns, later⟩
      case neg => exact .inr (List.forall_mem_cons.mpr ⟨not_exists.mp first, later⟩)

-- The value of a variable: the last one that the command line gives it, else that of the file, else
-- the one that it starts with.
inductive Layered (texts : List String) (file : NameTable String) (start : Option String) (name : String) :
    Option String → Prop
  | given {value : String} (last : LastAssigns texts name value) : Layered texts file start name (some value)
  | inFile {value : String} (unassigned : Unassigned texts name) (ne : name ≠ "")
      (found : file.get? name = some value) : Layered texts file start name (some value)
  | atStart (unassigned : Unassigned texts name) (absent : name = "" ∨ file.get? name = none) :
      Layered texts file start name start

theorem layered_overlay (env : Environment) {file : NameTable String} (ordered : file.Ordered)
    (named : ∀ p ∈ assignments texts, p.1 ≠ "") (name : String) :
    Layered texts file (env.get? name) name
      ((env.overlay ((assignments texts).foldl (fun t p => NameTable.insert p.1 p.2 t) file)).get? name) := by
  -- the file's variables and those of the command line, as an environment of their own
  let laid : Environment := (⟨file, ordered⟩ : Environment).overlay (assignments texts)
  have table : (assignments texts).foldl (fun t p => NameTable.insert p.1 p.2 t) file = laid.all := by
    have all : (assignments texts).filter (·.1 ≠ "") = assignments texts :=
      List.filter_eq_self.mpr (by simpa using named)
    dsimp only [laid]
    rw [Environment.overlay_eq, all, Environment.all_foldl_insert]
  rw [table]
  rcases lastAssigns_or_unassigned texts name with ⟨value, last⟩ | unassigned
  case inl =>
    have ⟨front, text, back, eq, assigns, _⟩ := last
    have ne : name ≠ "" := named _ (Command.mem_assignments.mpr ⟨text, by simp [eq], assigns⟩)
    have found : laid.all.get? name = some value := Command.get?_overlay_of_last ne last
    rw [env.get?_overlay_of_ordered laid.ordered ne, found]
    exact .given last
  case inr =>
    by_cases empty : name = ""
    case pos =>
      subst empty
      rw [env.get?_overlay_empty]
      exact .atStart unassigned (.inl rfl)
    case neg =>
      have kept : laid.all.get? name = file.get? name :=
        Command.get?_overlay_of_unassigned fun text mem value assigns => absurd assigns (unassigned text mem value)
      rw [env.get?_overlay_of_ordered laid.ordered empty, kept]
      cases found : file.get? name
      case none => exact .atStart unassigned (.inr found)
      case some value => exact .inFile unassigned empty found

def base (a : Arguments) (read : Host.Reader Id) : Except SettingsError Settings :=
  match a.config with
  | some path => (Settings.load read path).run.run
  | none => .ok {}

theorem ordered_base {read : Host.Reader Id} {file : Settings} (h : a.base read = .ok file) : file.env.Ordered := by
  unfold base at h
  split at h
  case h_1 => exact Settings.ordered_load h
  case h_2 => exact Except.ok.inj h ▸ NameTable.ordered_nil

def options (a : Arguments) (read : Host.Reader Id) : Except SettingsError Session.Options := do
  let s ← (a.settings read).run.run
  let fs ← (s.tree read).run.run
  return s.options fs

def seedTree (read : Host.Reader Id) : Option String → Except SettingsError FileSystem
  | some path => (FileSystem.load read path).run.run
  | none => .ok .default

theorem run_settings (a : Arguments) (read : Host.Reader Id) :
    (a.settings read).run.run = (a.base read).map a.override := by
  unfold settings base
  cases a.config
  case none => rfl
  case some path => exact run_map a.override (Settings.load read path)

theorem run_tree (s : Settings) (read : Host.Reader Id) : (s.tree read).run.run = seedTree read s.seed := by
  unfold Settings.tree seedTree
  cases s.seed <;> rfl

theorem options_eq {read : Host.Reader Id} {file : Settings} (h : a.base read = .ok file) :
    a.options read = (seedTree read (a.seed <|> file.seed)).map (a.override file).options := by
  have seed : (a.override file).seed = (a.seed <|> file.seed) := rfl
  rw [options, run_settings, h, ← seed, ← run_tree]
  rfl

variable {read : Host.Reader Id}

theorem run_prepare (a : Arguments) (read : Host.Reader Id) : (prepare a read).run.run =
    (a.settings read).run.run.bind fun s => (s.tree read).run.run.map fun fs =>
      if a.dumpSeed then .dump fs else .converse (.new (s.options fs)) (s.color.getD true) := by
  simp only [prepare, run_bind]
  rfl

theorem prepare_of_error {e : SettingsError} (h : a.options read = .error e) : (prepare a read).run.run = .error e := by
  rw [run_prepare]
  unfold options at h
  cases hs : (a.settings read).run.run
  case error => simpa [hs, bind, Except.bind] using h
  case ok s =>
    cases ht : (s.tree read).run.run <;> simp_all [bind, Except.bind, Except.map, pure, Except.pure]

theorem prepare_of_ok {o : Session.Options} (h : a.options read = .ok o) (stays : a.dumpSeed = false) :
    ∃ color, (prepare a read).run.run = .ok (.converse (.new o) color) := by
  rw [run_prepare]
  unfold options at h
  cases hs : (a.settings read).run.run
  case error => simp [hs, bind, Except.bind] at h
  case ok s =>
    refine ⟨s.color.getD true, ?_⟩
    cases ht : (s.tree read).run.run <;> simp_all [bind, Except.bind, Except.map, pure, Except.pure]

end Program.Arguments

end VirtualShell
