import Std.Time.DateTime
import Std.Time.Zoned
import VirtualShell.Program.Basic

namespace VirtualShell.Main

def readFailure : IO.Error → Host.ReadFailure
  | .noFileOrDirectory .. => .notFound
  -- a directory opens like a file and cannot be read; any other misfit is met on the way to it
  | .inappropriateType _ 21 _ => .isADirectory
  | .inappropriateType .. => .notADirectory
  | e => .other (toString e)

def reader : Host.Reader IO := fun path => do
  match ← (IO.FS.readBinFile path).toBaseIO with
  | .error e => throw (readFailure e)
  | .ok content =>
    match String.fromUTF8? content with
    | some text => return text
    | none => throw .notText

def localTime : IO LocalTime := do
  let t ← Std.Time.PlainDateTime.now
  return { year := t.year.toInt.toNat
           month := t.month.toNat
           day := t.day.toNat
           hour := t.hour.toNat
           minute := t.minute.toNat
           second := t.second.toNat }

def write (text : String) : IO Unit := do
  let output ← IO.getStdout
  output.putStr text
  output.flush

def converse (session : Session) (color : Bool) : IO Unit := do
  let input ← IO.getStdin
  let mut session := session
  write (Program.opening session color)
  while !session.closed do
    let block ← input.read (USize.ofNat Program.blockSize)
    if block.isEmpty then break
    session := { session with clock := ← localTime }
    let (next, text) := Program.reply session color block.toList (← IO.monoMsNow)
    session := next
    write text
  write (Program.ending session)

def finish (report : Program.Report) : IO UInt32 := do
  write report.out
  IO.eprint report.err
  return report.code

def run (arguments : List String) : IO UInt32 := do
  match Program.Arguments.parse arguments with
  | .error e => finish (Program.usageReport e)
  | .ok .version => finish { code := 0, out := Program.versionText }
  | .ok (.run a) =>
    match ← (Program.prepare a reader).run with
    | .error e => finish (Program.failureReport e)
    | .ok (.dump fs) => finish { code := 0, out := Program.dumpText fs }
    | .ok (.converse session color) =>
      converse session color
      return 0

end VirtualShell.Main

def main (arguments : List String) : IO UInt32 := VirtualShell.Main.run arguments
