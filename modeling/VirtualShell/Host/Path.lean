import VirtualShell.Path

namespace VirtualShell.Host

-- Drops slashes and `.` segments from the end, given backwards. A root or a leading `.` stays.
def trimBackwards : List Char → List Char
  | '/' :: c :: rest => trimBackwards (c :: rest)
  | '.' :: '/' :: rest => trimBackwards ('/' :: rest)
  | path => path
termination_by path => path.length

def directoryOf (path : String) : String :=
  String.ofList (trimBackwards (path.toList.reverse.dropWhile (· != '/'))).reverse

def join (directory path : String) : String :=
  if Path.isAbsolute path ∨ directory = "" then path
  else if directory.toList.getLast? = some '/' then directory ++ path
  else directory ++ "/" ++ path

end VirtualShell.Host
