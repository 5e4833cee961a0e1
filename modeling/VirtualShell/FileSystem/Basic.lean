import VirtualShell.FileSystem.Entry
import VirtualShell.Path

namespace VirtualShell

inductive FileError
  | notFound
  | notADirectory
  | isADirectory
  deriving DecidableEq, Repr

def FileError.message : FileError → String
  | .notFound => "No such file or directory"
  | .notADirectory => "Not a directory"
  | .isADirectory => "Is a directory"

structure FileSystem where
  root : Entry
  root_isDirectory : root.isDirectory
  ordered : root.Ordered
  deriving DecidableEq

namespace FileSystem

def ofRoot? (root : Entry) : Option FileSystem :=
  if h : root.isDirectory then
    some ⟨root.normalize, by rw [Entry.isDirectory_normalize, h], Entry.ordered_normalize root⟩
  else none

def empty : FileSystem := ⟨.directory [], rfl, NameTable.ordered_nil, trivial⟩

-- The entry that a chain of names leads to. A chain through a file leads nowhere.
def descend (e : Entry) : List String → Option Entry
  | [] => some e
  | name :: names => do descend (← (← e.children?).get? name) names

theorem descend_file {content : String} {names : List String} {e : Entry}
    (h : descend (.file content) names = some e) : names = [] ∧ e = .file content := by
  cases names
  case nil => exact ⟨rfl, (Option.some.inj h).symm⟩
  case cons => contradiction

theorem descend_directory {children : List (String × Entry)} {name : String} {names : List String}
    {e : Entry} (h : descend (.directory children) (name :: names) = some e) :
    ∃ child, (name, child) ∈ children ∧ descend child names = some e :=
  have ⟨child, hc, hd⟩ := Option.bind_eq_some_iff.mp h
  ⟨child, NameTable.mem_of_get? hc, hd⟩

theorem descend_append (e : Entry) (front back : List String) :
    descend e (front ++ back) = (descend e front).bind (descend · back) := by
  induction front generalizing e
  case nil => rfl
  case cons name front hi => simp [descend, hi, Option.bind_assoc]

theorem ordered_of_descend {names : List String} {root e : Entry} (h : descend root names = some e)
    (ordered : root.Ordered) : e.Ordered := by
  induction names generalizing root
  case nil => exact Option.some.inj h ▸ ordered
  case cons name names hi =>
    cases root
    case file => exact nomatch (descend_file h).left
    case directory children =>
      have ⟨child, mem, hd⟩ := descend_directory h
      exact hi hd (Entry.allOrdered_iff.mp ordered.right _ mem)

def resolve (fs : FileSystem) (path : String) : Option Entry := descend fs.root (Path.segments path)

def isDirectory (fs : FileSystem) (path : String) : Bool :=
  (fs.resolve path).any Entry.isDirectory

theorem isDirectory_iff {fs : FileSystem} {path : String} :
    fs.isDirectory path ↔ ∃ children, fs.resolve path = some (.directory children) := by
  unfold isDirectory
  cases fs.resolve path
  case none => simp
  case some e => cases e <;> simp [Entry.isDirectory]

theorem isDirectory_root (fs : FileSystem) : fs.isDirectory "/" := by
  have : fs.resolve "/" = some fs.root := rfl
  rw [isDirectory, this]
  exact fs.root_isDirectory

theorem ordered_of_resolve {fs : FileSystem} {path : String} {children : NameTable Entry}
    (h : fs.resolve path = some (.directory children)) : children.Ordered :=
  (ordered_of_descend h fs.ordered).left

theorem segments_ne_nil_of_resolve {fs : FileSystem} {path content : String}
    (h : fs.resolve path = some (.file content)) : Path.segments path ≠ [] := by
  intro none
  rw [resolve, none] at h
  have file : fs.root = .file content := Option.some.inj h
  exact absurd fs.root_isDirectory (by simp [file, Entry.isDirectory])

def list (fs : FileSystem) (path : String) : Except FileError (List (String × Bool)) :=
  match fs.resolve path with
  | none => .error .notFound
  | some (.file _) => .error .notADirectory
  | some (.directory children) => .ok (children.map fun (name, e) => (name, e.isDirectory))

theorem resolve_of_list {fs : FileSystem} {path : String} {entries : List (String × Bool)}
    (h : fs.list path = .ok entries) : ∃ children, fs.resolve path = some (.directory children) ∧
      entries = children.map fun (name, e) => (name, e.isDirectory) := by
  unfold list at h
  split at h
  case h_3 children hr => exact ⟨children, hr, (Except.ok.inj h).symm⟩
  all_goals contradiction

def read (fs : FileSystem) (path : String) : Except FileError String :=
  match fs.resolve path with
  | none => .error .notFound
  | some (.file content) => .ok content
  | some (.directory _) => .error .isADirectory

theorem resolve_of_read {fs : FileSystem} {path content : String} (h : fs.read path = .ok content) :
    fs.resolve path = some (.file content) := by
  unfold read at h
  split at h
  case h_2 hr => exact Except.ok.inj h ▸ hr
  all_goals contradiction

end FileSystem

end VirtualShell
