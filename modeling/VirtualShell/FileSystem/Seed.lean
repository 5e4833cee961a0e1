import VirtualShell.FileSystem.Basic
import VirtualShell.Json.Quoted
import VirtualShell.Json.Reader

namespace VirtualShell

namespace Entry

inductive Kind
  | directory
  | file
  deriving DecidableEq, Repr

-- The kind that a tag names. Below the root it may also be numbered.
def Kind.ofTag? (root : Bool) : Json → Option Kind
  | .string "directory" => some .directory
  | .string "file" => some .file
  | .natural 0 => if root then none else some .directory
  | .natural 1 => if root then none else some .file
  | _ => none

def Kind.ofMembers? (root : Bool) (members : List (String × Json)) : Option Kind :=
  match members.filter (·.1 = "type") with
  | [(_, tag)] => Kind.ofTag? root tag
  | _ => none

def contentOf? (members : List (String × Json)) : Option String :=
  match members.filter (·.1 = "content") with
  | [] => some ""
  | [(_, .string content)] => some content
  | _ => none

mutual

def ofJson? (root : Bool) : Json → Option Entry
  | .object members =>
    match Kind.ofMembers? root members with
    | some .directory => (childrenOf? members).map fun children => .directory (children.getD [])
    | some .file => (contentOf? members).map .file
    | none => none
  | .array [tag] =>
    match Kind.ofTag? root tag with
    | some .directory => some (.directory [])
    | some .file => some (.file "")
    | none => none
  | .array [tag, v] =>
    match Kind.ofTag? root tag, v with
    | some .directory, .object members => (entriesOf? members).map .directory
    | some .file, .string content => some (.file content)
    | _, _ => none
  | _ => none
termination_by structural v => v

def childrenOf? : List (String × Json) → Option (Option (List (String × Entry)))
  | [] => some none
  | (name, v) :: rest =>
    if name = "children" then
      if rest.any (·.1 = "children") then none
      else
        match v with
        | .object members => (entriesOf? members).map some
        | _ => none
    else childrenOf? rest
termination_by structural members => members

def entriesOf? : List (String × Json) → Option (List (String × Entry))
  | [] => some []
  | (name, v) :: rest => do
    let e ← ofJson? false v
    let entries ← entriesOf? rest
    return (name, e) :: entries
termination_by structural members => members

end

def newLine (depth : Nat) : List Char := '\n' :: List.replicate (2 * depth) ' '

mutual

def pretty (depth : Nat) : Entry → List Char
  | .file content =>
    '\x7b' :: newLine (depth + 1) ++ "\"type\": \"file\",".toList ++ newLine (depth + 1)
      ++ "\"content\": ".toList ++ Json.quote content ++ newLine depth ++ ['\x7d']
  | .directory children =>
    '\x7b' :: newLine (depth + 1) ++ "\"type\": \"directory\",".toList ++ newLine (depth + 1)
      ++ "\"children\": \x7b".toList ++ prettyAll (depth + 2) children
      ++ (if children.isEmpty then [] else newLine (depth + 1)) ++ '\x7d' :: newLine depth ++ ['\x7d']
termination_by structural e => e

def prettyAll (depth : Nat) : List (String × Entry) → List Char
  | [] => []
  | (name, e) :: rest =>
    newLine depth ++ Json.quote name ++ ": ".toList ++ e.pretty depth
      ++ (if rest.isEmpty then [] else [',']) ++ prettyAll depth rest
termination_by structural es => es

end

end Entry

inductive SeedError
  | malformed
  | rootNotDirectory
  deriving DecidableEq, Repr

def SeedError.message : SeedError → String
  | .malformed => "invalid seed tree: malformed text or entry"
  | .rootNotDirectory => "seed tree root must be a directory"

namespace FileSystem

def ofJson (text : String) : Except SeedError FileSystem :=
  match (Json.read? text).bind (Entry.ofJson? true) with
  | none => .error .malformed
  | some root =>
    match ofRoot? root with
    | none => .error .rootNotDirectory
    | some fs => .ok fs

def toJson (fs : FileSystem) : String := String.ofList (fs.root.pretty 0)

end FileSystem

end VirtualShell
