import VirtualShell.Command.Execute
import VirtualShell.Completion
import VirtualShell.FileSystem.Default
import VirtualShell.History
import VirtualShell.Key.Decoder
import VirtualShell.Line
import VirtualShell.Screen

namespace VirtualShell

-- Keys or octets come in, and chunks for the screen go out, until the session is closed.
structure Session where
  fs : FileSystem
  env : Environment
  cwd : String
  host : String
  history : History
  line : Line
  decoder : Decoder
  closed : Bool
  -- what `date` prints; the front end sets it
  clock : LocalTime

namespace Session

structure Options where
  user : String := defaultUser
  host : String := "shellpane"
  home : String := "/home/user"
  -- where the session starts, if that is a directory
  cwd : String := "/project/workspace"
  env : List (String × String) := []
  fs : FileSystem := .default
  historyCapacity : Nat := History.defaultCapacity
  escapeTimeout : Nat := Decoder.defaultTimeout

def Options.startDirectory (o : Options) : String :=
  let path := Path.canonicalize "/" o.cwd
  if o.fs.isDirectory path then path else "/"

def new (o : Options) : Session where
  fs := o.fs
  env := (Environment.seeded o.user o.host o.home o.startDirectory).overlay o.env
  cwd := o.startDirectory
  host := o.host
  history := .ofCapacity o.historyCapacity
  line := .empty
  decoder := { timeout := o.escapeTimeout }
  closed := false
  clock := .epoch

def user (s : Session) : String := (s.env.get? "USER").getD defaultUser

-- A path with a leading home directory shown as `~`. Homes that are empty or `/` are not.
def shorten (home : Option String) (path : String) : String :=
  match home with
  | none => path
  | some home =>
    if home = "" ∨ home = "/" then path
    else if home.toList.isPrefixOf path.toList then
      match path.toList.drop home.length with
      | [] => "~"
      | '/' :: rest => "~/" ++ String.ofList rest
      | _ => path
    else path

def shortCwd (s : Session) : String := shorten (s.env.get? "HOME") s.cwd

def prompt (s : Session) : String := s.user ++ "@" ++ s.host ++ ":" ++ s.shortCwd ++ "$ "

def promptChunks (s : Session) : List Chunk :=
  [.colored (s.user ++ "@" ++ s.host) .green, .plain ":", .colored s.shortCwd .blue, .plain "$ "]

def newLine : String := "\r\n"

def eraseLine : String := "\r\x1b[2K"

def interruptMarker : String := "^C"

def cursorLeft (columns : Nat) : String := "\x1b[" ++ toString columns ++ "D"

def redraw (s : Session) : List Chunk :=
  let back := s.line.columnsAfter
  .plain eraseLine :: s.promptChunks
    ++ (if s.line.isEmpty then [] else [.plain s.line.text])
    ++ (if back = 0 then [] else [.plain (cursorLeft back)])

def start (s : Session) : List Chunk := s.promptChunks

def apply (s : Session) (o : Outcome) : Session :=
  let s := match o.newCwd with
    | some path => { s with cwd := path, env := (s.env.set "PWD" path).toOption.getD s.env }
    | none => s
  if o.exit then { s with closed := true } else s

def context (s : Session) : Context := ⟨s.cwd, s.fs, s.history.all, s.clock⟩

-- Carries out a line without recording it.
def dispatch (s : Session) (line : String) : Session × Outcome :=
  let (env, outcome) := (Command.parseLine line).execute s.context s.env
  ({ s with env }.apply outcome, outcome)

def run (s : Session) (line : String) : Session × Outcome :=
  { s with history := s.history.add line }.dispatch line

def terminalLine (s : String) : String :=
  let s := s.toList
  let body := if s.getLast? = some '\n' then s.dropLast else s
  String.ofList (body.flatMap fun c => if c = '\n' then ['\r', '\n'] else [c]) ++ newLine

def renderLines (lines : List OutputLine) : List Chunk :=
  lines.map fun line => .text (terminalLine line.plain) line.color?

def finish (s : Session) (o : Outcome) : List Chunk :=
  renderLines o.output
    ++ (if o.exit then [.exit]
        else (if o.clearScreen then [.clearScreen] else []) ++ s.promptChunks)

def withLine (s : Session) (line : Line) : Session × List Chunk :=
  let s := { s with line }
  (s, s.redraw)

def edit (s : Session) (op : Line → Bool × Line) : Session × List Chunk :=
  match op s.line with
  | (true, line) => s.withLine line
  | (false, _) => (s, [.bell])

def move (s : Session) (op : Line → Bool × Line) : Session × List Chunk :=
  match op s.line with
  | (true, line) => s.withLine line
  | (false, _) => (s, [])

def browse (s : Session) (step : History → Option String × History) : Session × List Chunk :=
  let (entry, history) := step s.history
  let s := { s with history }
  match entry with
  | some text => s.withLine (.ofText text)
  | none => (s, [.bell])

def complete (s : Session) : Session × List Chunk :=
  match Completion.ofLine s.line.text with
  | .single text => s.withLine (.ofText text)
  | .multiple names => (s, .plain (newLine ++ "  ".intercalate names ++ newLine) :: s.redraw)
  | .none => (s, [.bell])

def submit (s : Session) : Session × List Chunk :=
  let (text, line) := s.line.take
  let (s, outcome) := { s with line }.run text
  (s, .plain newLine :: s.finish outcome)

def hangUp (s : Session) : Session × List Chunk :=
  let (s, outcome) := s.dispatch "exit"
  (s, .plain newLine :: s.finish outcome)

def press (s : Session) : Key → Session × List Chunk
  | .char c => s.withLine (s.line.insert c)
  | .backspace => s.edit Line.backspace
  | .delete => s.edit Line.delete
  | .left => s.move Line.left
  | .right => s.move Line.right
  | .home => s.move Line.home
  | .endOfLine => s.move Line.toEnd
  | .up => s.browse History.previous
  | .down => s.browse History.next
  | .tab => s.complete
  | .enter => s.submit
  | .interrupt =>
    let s := { s with line := .empty }
    (s, .plain (interruptMarker ++ newLine) :: s.promptChunks)
  | .clearScreen => (s, .clearScreen :: s.redraw)
  | .killLine => if s.line.isEmpty then (s, []) else s.withLine .empty
  | .endOfInput => if s.line.isEmpty then s.hangUp else s.edit Line.delete

def feedKey (s : Session) (key : Key) : Session × List Chunk :=
  if s.closed then (s, []) else s.press key

def feedKeys (s : Session) : List Key → Session × List Chunk
  | [] => (s, [])
  | key :: keys =>
    let (s, chunks) := s.feedKey key
    let (s, more) := feedKeys s keys
    (s, chunks ++ more)

def feed (s : Session) (octets : List UInt8) (now : Nat) : Session × List Chunk :=
  let (decoder, keys) := s.decoder.feed octets now
  { s with decoder }.feedKeys keys

def feedChar (s : Session) (c : Char) (now : Nat) : Session × List Chunk :=
  let (decoder, key) := s.decoder.feedChar c now
  { s with decoder }.feedKeys key.toList

end Session

end VirtualShell
