import VirtualShell.FileSystem.Seed
import VirtualShell.Host.Path
import VirtualShell.Host.Reader
import VirtualShell.NameTable
import VirtualShell.Toml.Reader

namespace VirtualShell

inductive SettingsError
  | unreadable (path : String) (e : Host.ReadFailure)
  | malformed
  | seed (e : SeedError)
  deriving DecidableEq, Repr

def SettingsError.message : SettingsError → String
  | .unreadable path e => "failed to read " ++ path ++ ": " ++ e.message
  | .malformed => "invalid config: malformed text or setting"
  | .seed e => e.message

structure Settings where
  user : Option String := none
  host : Option String := none
  home : Option String := none
  cwd : Option String := none
  historyCapacity : Option Nat := none
  escapeTimeout : Option Nat := none
  color : Option Bool := none
  seed : Option String := none
  env : NameTable String := []
  deriving DecidableEq, Repr

namespace Settings

-- Where the table of variables may still be added to.
inductive Variables
  | absent
  | dotted
  | headed
  | closed
  deriving DecidableEq, Repr

structure Draft where
  settings : Settings := {}
  env : Variables := .absent

def once {α : Type} (field : Option α) (v : α) : Option (Option α) :=
  if field.isSome then none else some (some v)

def setField (s : Settings) : String → Toml.Scalar → Option Settings
  | "user", .string v => return { s with user := ← once s.user v }
  | "host", .string v => return { s with host := ← once s.host v }
  | "home", .string v => return { s with home := ← once s.home v }
  | "cwd", .string v => return { s with cwd := ← once s.cwd v }
  | "seed", .string v => return { s with seed := ← once s.seed v }
  | "color", .bool v => return { s with color := ← once s.color v }
  | "history_capacity", .integer n =>
    if 0 ≤ n then return { s with historyCapacity := ← once s.historyCapacity n.toNat } else none
  | "escape_timeout_ms", .integer n =>
    if 0 ≤ n then return { s with escapeTimeout := ← once s.escapeTimeout n.toNat } else none
  | _, _ => none

def setVariable (s : Settings) : List String × Toml.Scalar → Option Settings
  | ([name], .string v) =>
    if (NameTable.get? s.env name).isSome then none
    else some { s with env := NameTable.insert name v s.env }
  | _ => none

-- A date or time in place of the table of variables counts as a table of this one variable.
def momentVariable : String := "$__toml_private_datetime"

namespace Draft

def step (d : Draft) : Toml.Statement → Option Draft
  | .header key =>
    if key = ["env"] ∧ d.env = .absent then some { d with env := .headed } else none
  | .pair key (.scalar v) =>
    if d.env = .headed then return { d with settings := ← d.settings.setVariable (key, v) }
    else
      match key with
      | [name] => return { d with settings := ← d.settings.setField name v }
      | "env" :: key =>
        if d.env = .closed then none
        else return ⟨← d.settings.setVariable (key, v), .dotted⟩
      | _ => none
  | .pair key (.table pairs) =>
    if key = ["env"] ∧ d.env = .absent then
      return ⟨← pairs.foldlM setVariable d.settings, .closed⟩
    else none
  | .pair key (.moment m) =>
    if key = ["env"] ∧ d.env = .absent then
      return ⟨← d.settings.setVariable ([momentVariable], .string m.render), .closed⟩
    else none

end Draft

def ofToml? (text : String) : Option Settings := do
  return (← (← Toml.statements? text).foldlM Draft.step {}).settings

def parse (text : String) : Except SettingsError Settings :=
  match ofToml? text with
  | some s => .ok s
  | none => .error .malformed

end Settings

variable {m : Type → Type} [Monad m]

def Host.Reader.text (read : Host.Reader m) (path : String) : ExceptT SettingsError m String :=
  (read path).adapt (.unreadable path)

def Settings.load (read : Host.Reader m) (path : String) : ExceptT SettingsError m Settings := do
  let s ← Settings.parse (← read.text path)
  return { s with seed := s.seed.map (Host.join (Host.directoryOf path)) }

def FileSystem.load (read : Host.Reader m) (path : String) : ExceptT SettingsError m FileSystem := do
  (FileSystem.ofJson (← read.text path)).mapError SettingsError.seed

end VirtualShell
