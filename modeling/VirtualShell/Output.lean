namespace VirtualShell

inductive Color
  | red
  | green
  | yellow
  | blue
  | gray
  deriving DecidableEq, Repr

inductive EntryStyle
  | directory
  | file
  | hidden
  deriving DecidableEq, Repr

inductive OutputLine
  | text (s : String)
  | error (s : String)
  | info (s : String)
  | entry (name : String) (style : EntryStyle)
  deriving DecidableEq, Repr

namespace OutputLine

def directory (name : String) : OutputLine := .entry name .directory

def file (name : String) : OutputLine :=
  .entry name (if name.toList.head? = some '.' then .hidden else .file)

def color? : OutputLine → Option Color
  | .text _ => none
  | .error _ => some .red
  | .info _ => some .yellow
  | .entry _ .directory => some .blue
  | .entry _ .hidden => some .gray
  | .entry _ .file => none

def plain : OutputLine → String
  | .text s | .error s | .info s => s
  | .entry name .directory => name ++ "/"
  | .entry name _ => name

@[simp] theorem plain_file (name : String) : (file name).plain = name := by
  unfold file
  split <;> rfl

end OutputLine

structure Outcome where
  output : List OutputLine := []
  newCwd : Option String := none
  clearScreen : Bool := false
  exit : Bool := false
  deriving DecidableEq, Repr

def Outcome.text (o : Outcome) : String := "\n".intercalate (o.output.map OutputLine.plain)

end VirtualShell
