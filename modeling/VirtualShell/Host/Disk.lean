import VirtualShell.Host.Reader
import VirtualShell.Path

namespace VirtualShell.Host

-- The files below the directory that a program runs in. Unlike in a session's own tree, every segment
-- of a path has to exist: `..` does not undo a missing name.
structure Disk where
  files : List (List String × ByteArray)

namespace Disk

def ofFiles (files : List (String × ByteArray)) : Disk where
  files := files.map fun (path, content) => (Path.segments path, content)

def file? (d : Disk) (segments : List String) : Option ByteArray :=
  (d.files.find? (·.1 = segments)).map (·.2)

def isDirectory (d : Disk) (segments : List String) : Bool :=
  d.files.any fun (path, _) => segments.isPrefixOf path && path != segments

inductive Place
  | file (content : ByteArray)
  | directory (segments : List String)
  -- a directory above the program's own, of which nothing is known
  | above

def step (d : Disk) : Place → String → Except ReadFailure Place
  | .file _, _ => .error .notADirectory
  | place, "" => .ok place
  | place, "." => .ok place
  | .above, ".." => .ok .above
  | .above, _ => .error .notFound
  | .directory [], ".." => .ok .above
  | .directory segments, ".." => .ok (.directory segments.dropLast)
  | .directory segments, name =>
    let segments := segments ++ [name]
    match d.file? segments with
    | some content => .ok (.file content)
    | none => if d.isDirectory segments then .ok (.directory segments) else .error .notFound

-- Where a path leads. Empty pieces count, so that a slash behind a file is noticed.
def find (d : Disk) (path : String) : Except ReadFailure Place :=
  if path = "" then .error .notFound
  else
    ((path.toList.splitOnP (· = '/')).map String.ofList).foldlM d.step
      (if Path.isAbsolute path then .above else .directory [])

def read (d : Disk) (path : String) : Except ReadFailure String := do
  match ← d.find path with
  | .file content =>
    match String.fromUTF8? content with
    | some text => .ok text
    | none => .error .notText
  | _ => .error .isADirectory

def reader (d : Disk) : Reader Id := fun path => ExceptT.mk (d.read path)

end Disk

end VirtualShell.Host
