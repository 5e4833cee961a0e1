import VirtualShell.Host.Disk
import VirtualShell.Program.Arguments
import VirtualShell.Settings.Options

namespace VirtualShell.Program

def versionText : String := "shellpane 0.1.0\n"

inductive Task
  | dump (fs : FileSystem)
  | converse (s : Session) (color : Bool)

def prepare {m : Type → Type} [Monad m] (a : Arguments) (read : Host.Reader m) :
    ExceptT SettingsError m Task := do
  let s ← a.settings read
  let fs ← s.tree read
  return if a.dumpSeed then .dump fs else .converse (.new (s.options fs)) (s.color.getD true)

def dumpText (fs : FileSystem) : String := fs.toJson ++ "\n"

def opening (s : Session) (color : Bool) : String := Screen.render s.start color

def reply (s : Session) (color : Bool) (octets : List UInt8) (now : Nat) : Session × String :=
  let (s, chunks) := s.feed octets now
  (s, Screen.render chunks color)

-- A session that the input leaves open ends on a line of its own.
def ending (s : Session) : String := if s.closed then "" else Session.newLine

def blockSize : Nat := 4096

def blocks (input : List UInt8) : List (List UInt8) :=
  if _ : input = [] then [] else input.take blockSize :: blocks (input.drop blockSize)
termination_by input.length
decreasing_by
  have := List.length_pos_iff.mpr ‹¬input = []›
  simp only [List.length_drop, blockSize]
  omega

-- Answers to reads in which no time passes. A closed session reads no further.
def replies (s : Session) (color : Bool) : List (List UInt8) → List String
  | [] => [ending s]
  | block :: rest =>
    if s.closed then []
    else
      let (s, text) := reply s color block 0
      text :: replies s color rest

def conversation (s : Session) (color : Bool) (input : List UInt8) : String :=
  String.join (opening s color :: replies s color (blocks input))

structure Report where
  code : UInt32
  out : String := ""
  err : String := ""
  deriving DecidableEq, Repr

def usageReport (e : UsageError) : Report where
  code := 2
  err := "error: " ++ e.message ++ "\n"

def failureReport (e : SettingsError) : Report where
  code := 1
  err := "Error: " ++ e.message ++ "\n"

def run (arguments : List String) (d : Host.Disk) (input : List UInt8) : Report :=
  match Arguments.parse arguments with
  | .error e => usageReport e
  | .ok .version => { code := 0, out := versionText }
  | .ok (.run a) =>
    match (prepare a d.reader).run.run with
    | .error e => failureReport e
    | .ok (.dump fs) => { code := 0, out := dumpText fs }
    | .ok (.converse s color) => { code := 0, out := conversation s color input }

end VirtualShell.Program
