import VirtualShell.Settings.Basic
import VirtualShell.Text.Cut

namespace VirtualShell.Program

inductive Parameter
  | config
  | seed
  | user
  | host
  | cwd
  | env
  deriving DecidableEq, Repr

inductive Switch
  | noColor
  | dumpSeed
  deriving DecidableEq, Repr

namespace Parameter

def name : Parameter → String
  | .config => "--config"
  | .seed => "--seed"
  | .user => "--user"
  | .host => "--host"
  | .cwd => "--cwd"
  | .env => "--env"

def all : List Parameter := [.config, .seed, .user, .host, .cwd, .env]

def ofName? (s : String) : Option Parameter := all.find? (·.name = s)

end Parameter

namespace Switch

def name : Switch → String
  | .noColor => "--no-color"
  | .dumpSeed => "--dump-seed"

def all : List Switch := [.noColor, .dumpSeed]

def ofName? (s : String) : Option Switch := all.find? (·.name = s)

end Switch

inductive UsageError
  | unexpected (argument : String)
  | repeated (name : String)
  | missingValue (p : Parameter)
  | emptyValue (p : Parameter)
  | notAnAssignment (value : String)
  deriving DecidableEq, Repr

def UsageError.message : UsageError → String
  | .unexpected argument => "unexpected argument '" ++ argument ++ "'"
  | .repeated name => "'" ++ name ++ "' is given more than once"
  | .missingValue p => "'" ++ p.name ++ "' lacks its value"
  | .emptyValue p => "'" ++ p.name ++ "' needs a value that is not empty"
  | .notAnAssignment value => "expected KEY=VALUE, got '" ++ value ++ "'"

-- Arguments are read from left to right, and the first one that is wrong or asks for the version
-- decides.
structure Arguments where
  config : Option String := none
  seed : Option String := none
  user : Option String := none
  host : Option String := none
  cwd : Option String := none
  env : List (String × String) := []
  noColor : Bool := false
  dumpSeed : Bool := false
  deriving DecidableEq, Repr

inductive Request
  | version
  | run (a : Arguments)
  deriving DecidableEq, Repr

namespace Arguments

def once (p : Parameter) (field : Option String) (value : String) :
    Except UsageError (Option String) :=
  if field.isSome then .error (.repeated p.name) else .ok (some value)

def filled (p : Parameter) (field : Option String) (value : String) :
    Except UsageError (Option String) :=
  if value = "" then .error (.emptyValue p) else once p field value

def give (a : Arguments) (p : Parameter) (value : String) : Except UsageError Arguments :=
  match p with
  | .config => return { a with config := ← filled p a.config value }
  | .seed => return { a with seed := ← filled p a.seed value }
  | .user => return { a with user := ← once p a.user value }
  | .host => return { a with host := ← once p a.host value }
  | .cwd => return { a with cwd := ← once p a.cwd value }
  | .env =>
    match (Text.around? '=' value).filter (·.1 ≠ "") with
    | some pair => .ok { a with env := a.env ++ [pair] }
    | none => .error (.notAnAssignment value)

def turnOn (a : Arguments) (s : Switch) : Except UsageError Arguments :=
  match s with
  | .noColor => if a.noColor then .error (.repeated s.name) else .ok { a with noColor := true }
  | .dumpSeed => if a.dumpSeed then .error (.repeated s.name) else .ok { a with dumpSeed := true }

def asksVersion (argument : String) : Bool :=
  argument = "--version" || "-V".toList.isPrefixOf argument.toList

-- A value that is an argument of its own must not look like an option. A lone dash does not.
def isValue (argument : String) : Bool := argument.toList.head? != some '-' || argument = "-"

def attached? (argument : String) : Option (Parameter × String) := do
  let (name, value) ← Text.around? '=' argument
  return (← Parameter.ofName? name, value)

def read (a : Arguments) : List String → Except UsageError Request
  | [] => .ok (.run a)
  | ["--"] => .ok (.run a)
  | argument :: rest =>
    if asksVersion argument then .ok .version
    else if let some s := Switch.ofName? argument then do read (← a.turnOn s) rest
    else if let some (p, value) := attached? argument then do read (← a.give p value) rest
    else if let some p := Parameter.ofName? argument then
      match rest with
      | [] => .error (.missingValue p)
      | value :: rest =>
        if isValue value then do read (← a.give p value) rest else .error (.missingValue p)
    else .error (.unexpected argument)

def parse (arguments : List String) : Except UsageError Request := read {} arguments

def override (a : Arguments) (s : Settings) : Settings :=
  { s with
    seed := a.seed <|> s.seed
    user := a.user <|> s.user
    host := a.host <|> s.host
    cwd := a.cwd <|> s.cwd
    color := if a.noColor then some false else s.color
    env := a.env.foldl (fun t p => NameTable.insert p.1 p.2 t) s.env }

def settings {m : Type → Type} [Monad m] (a : Arguments) (read : Host.Reader m) :
    ExceptT SettingsError m Settings :=
  match a.config with
  | some path => a.override <$> Settings.load read path
  | none => return a.override {}

end Arguments

end VirtualShell.Program
