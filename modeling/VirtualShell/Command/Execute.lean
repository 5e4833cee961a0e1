import VirtualShell.Clock
import VirtualShell.Command.Basic
import VirtualShell.Environment
import VirtualShell.FileSystem.Basic
import VirtualShell.Output
import VirtualShell.Text.Cut

namespace VirtualShell

def defaultUser : String := "user"

structure Context where
  cwd : String
  fs : FileSystem
  -- submitted lines, oldest first
  history : List String
  clock : LocalTime

def Outcome.lines (output : List OutputLine) : Outcome := { output }

def Outcome.fail (message : String) : Outcome := .lines [.error message]

namespace Outcome

variable (output : List OutputLine) (message : String)

@[simp] theorem newCwd_lines : (lines output).newCwd = none := rfl

@[simp] theorem newCwd_fail : (fail message).newCwd = none := rfl

end Outcome

namespace Command

def helpLines : List String :=
  ["Available commands:",
   "  ls [path]         List directory contents",
   "  cd [path]         Change directory (no argument: $HOME)",
   "  pwd               Print working directory",
   "  cat <file>        Print file contents",
   "  echo [args...]    Print arguments ($NAME expands variables)",
   "  env               List environment variables",
   "  export NAME=value Set an environment variable",
   "  unset NAME...     Remove environment variables",
   "  history           Show command history (!!, !n, !-n recall entries)",
   "  clear             Clear the screen",
   "  whoami            Print the current user",
   "  date              Print the current date and time",
   "  help              Show this help",
   "  exit              Close the session",
   "",
   "Keys: Tab completes commands, Up/Down browse history,",
   "      Ctrl+C cancels the line, Ctrl+L clears the screen."]

def helpHint : String := "Type 'help' to see available commands."

def home (env : Environment) : String := (env.get? "HOME").getD "/"

def target (ctx : Context) (env : Environment) (operand : String) : String :=
  Path.canonicalize ctx.cwd (Path.expandHome operand (home env))

def listed (name : String) (isDirectory : Bool) : OutputLine :=
  if isDirectory then .directory name else .file name

def runLs (ctx : Context) (env : Environment) (operand : Option String) : Outcome :=
  let path := (operand.map (target ctx env)).getD ctx.cwd
  match ctx.fs.list path with
  | .ok entries => .lines (entries.map fun (name, isDirectory) => listed name isDirectory)
  | .error .notADirectory => .lines [.file (Path.basename path)]
  | .error e => .fail ("ls: cannot access '" ++ operand.getD "." ++ "': " ++ e.message)

-- Without an operand every failure to go home is one to find it.
def runCd (ctx : Context) (env : Environment) : Option String → Outcome
  | none =>
    let path := Path.canonicalize "/" (home env)
    if ctx.fs.isDirectory path then { newCwd := some path }
    else .fail ("cd: " ++ home env ++ ": " ++ FileError.notFound.message)
  | some operand =>
    let path := target ctx env operand
    match ctx.fs.resolve path with
    | some (.directory _) => { newCwd := some path }
    | some (.file _) => .fail ("cd: " ++ operand ++ ": " ++ FileError.notADirectory.message)
    | none => .fail ("cd: " ++ operand ++ ": " ++ FileError.notFound.message)

def catLine (ctx : Context) (env : Environment) (operand : String) : OutputLine :=
  match ctx.fs.read (target ctx env operand) with
  | .ok content => .text content
  | .error e => .error ("cat: " ++ operand ++ ": " ++ e.message)

def isTokenWord (word : List Char) : Bool :=
  !word.isEmpty && word.all fun c => c != '$' && c != '\x7b' && c != '\x7d'

def tokenWord? (arg : List Char) : Option (List Char) :=
  let word := match arg with
    | '$' :: '\x7b' :: rest => if rest.getLast? = some '\x7d' then some rest.dropLast else none
    | '$' :: rest => some rest
    | _ => none
  word.filter isTokenWord

def variableIn? (arg : String) : Option String :=
  ((tokenWord? arg.toList).map String.ofList).filter Environment.isValidName

def expand (env : Environment) (arg : String) : String :=
  match variableIn? arg with
  | some name => (env.get? name).getD ""
  | none => arg

def assign (env : Environment) (arg : String) : Environment × List OutputLine :=
  match Text.around? '=' arg with
  | none => (env, [])
  | some (name, value) =>
    match env.set name value with
    | .ok env => (env, [])
    | .error e => (env, [.error ("export: `" ++ arg ++ "': " ++ e.message)])

def assignAll (env : Environment) : List String → Environment × List OutputLine
  | [] => (env, [])
  | arg :: args =>
    let (env, lines) := assign env arg
    let (env, more) := assignAll env args
    (env, lines ++ more)

def envLines (env : Environment) : List OutputLine :=
  env.all.map fun (name, value) => .text (name ++ "=" ++ value)

def historyLines (history : List String) : List OutputLine :=
  history.zipIdx.map fun (line, i) => .text (Text.padded ' ' 5 (i + 1) ++ "  " ++ line)

def execute (ctx : Context) (env : Environment) : Command → Environment × Outcome
  | .blank => (env, {})
  | .ls operand => (env, runLs ctx env operand)
  | .cd operand => (env, runCd ctx env operand)
  | .pwd => (env, .lines [.text ctx.cwd])
  | .cat operands => (env, .lines (operands.map (catLine ctx env)))
  | .echo args => (env, .lines [.text (" ".intercalate (args.map (expand env)))])
  | .env => (env, .lines (envLines env))
  | .exportVars [] => (env, .lines (envLines env))
  | .exportVars args =>
    let (env, lines) := assignAll env args
    (env, .lines lines)
  | .unsetVars names => (names.foldl Environment.unset env, {})
  | .history => (env, .lines (historyLines ctx.history))
  | .clear => (env, { clearScreen := true })
  | .whoami => (env, .lines [.text ((env.get? "USER").getD defaultUser)])
  | .date => (env, .lines [.text ctx.clock.render])
  | .help => (env, .lines (helpLines.map .text))
  | .exit => (env, { output := [.text "logout"], exit := true })
  | .invalid e => (env, .fail e.message)
  | .unknown name => (env, .lines [.error (CommandError.unknownCommand name).message, .info helpHint])

end Command

end VirtualShell
