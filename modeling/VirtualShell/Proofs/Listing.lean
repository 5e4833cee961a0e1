import VirtualShell.FileSystem.Seed
import VirtualShell.Proofs.CanonicalPath

namespace VirtualShell

theorem Entry.sizeOf_lt_of_mem {children : List (String × Entry)} {name : String} {child : Entry}
    (h : (name, child) ∈ children) : sizeOf child < sizeOf (directory children) := by
  have inside := List.sizeOf_lt_of_mem h
  simp only [Prod.mk.sizeOf_spec] at inside
  simp only [directory.sizeOf_spec]
  omega

namespace FileSystem

variable {fs : FileSystem} {dir path name : String} {children : NameTable Entry} {child : Entry}

theorem sizeOf_le_of_descend {names : List String} {e below : Entry} (h : descend e names = some below) :
    sizeOf below ≤ sizeOf e := by
  induction names generalizing e
  case nil => exact Option.some.inj h ▸ Nat.le_refl _
  case cons name names hi =>
    cases e
    case file => exact nomatch (descend_file h).left
    case directory children =>
      have ⟨child, mem, hd⟩ := descend_directory h
      exact Nat.le_of_lt (Nat.lt_of_le_of_lt (hi hd) (Entry.sizeOf_lt_of_mem mem))

theorem resolve_append {names : List String} (h : Path.segments path = Path.segments dir ++ names) :
    fs.resolve path = (fs.resolve dir).bind (descend · names) := by
  rw [resolve, h, descend_append]
  rfl

theorem resolve_child (h : fs.resolve dir = some (.directory children))
    (below : Path.segments path = Path.segments dir ++ [name]) : fs.resolve path = children.get? name := by
  simp [resolve_append below, h, descend, Entry.children?]

theorem resolve_ne_child (h : fs.resolve dir = some (.directory children)) (mem : (name, child) ∈ children)
    (above : Path.segments path <+: Path.segments dir) : fs.resolve path ≠ some child := by
  intro same
  have ⟨names, eq⟩ := above
  rw [resolve_append eq.symm, same] at h
  have le := sizeOf_le_of_descend h
  have lt := Entry.sizeOf_lt_of_mem mem
  omega

section

variable (canonical : Path.Canonical dir) (h : fs.resolve dir = some (.directory children))
include canonical h

theorem resolve_down (hn : Path.IsSegment name) :
    fs.resolve (Path.canonicalize dir name) = children.get? name :=
  resolve_child h (canonical.segments_down hn)

theorem resolve_ne_child_of_dots (mem : (name, child) ∈ children)
    (dots : name = "" ∨ name = "." ∨ name = "..") :
    fs.resolve (Path.canonicalize dir name) ≠ some child := by
  refine resolve_ne_child h mem ?_
  rcases dots with rfl | rfl | rfl
  · simp [canonical.canonicalize_empty]
  · simp [canonical.canonicalize_here]
  · rw [canonical.segments_up]
    exact List.dropLast_prefix _

end

theorem list_eq (h : fs.resolve dir = some (.directory children)) :
    fs.list dir = .ok (children.map fun (name, e) => (name, e.isDirectory)) := by
  rw [list, h]

theorem ofJson_of_root {text : String} {root : Entry}
    (h : (Json.read? text).bind (Entry.ofJson? true) = some root) (hr : ofRoot? root = some fs) :
    ofJson text = .ok fs := by
  simp only [ofJson, h, hr]

theorem read_of_resolve {content : String} (h : fs.resolve path = some (.file content)) :
    fs.read path = .ok content := by
  rw [read, h]

-- What is listed can be opened by its name, unless that is no name to lead down by.
theorem listed_opens (fs : FileSystem) {dir : String} (canonical : Path.Canonical dir)
    {entries : List (String × Bool)} (listed : fs.list dir = .ok entries) :
    ∃ children : NameTable Entry, fs.resolve dir = some (.directory children) ∧
      ∀ entry ∈ entries, ∃ child, children.get? entry.1 = some child ∧ child.isDirectory = entry.2 ∧
        let path := Path.canonicalize dir entry.1
        (Path.IsSegment entry.1 →
          fs.resolve path = some child ∧ fs.isDirectory path = entry.2 ∧
            ∀ content, child = .file content → fs.read path = .ok content) ∧
        (¬Path.IsSegment entry.1 → Path.segments path ≠ Path.segments dir ++ [entry.1]) ∧
        (entry.1 = "" ∨ entry.1 = "." ∨ entry.1 = ".." → fs.resolve path ≠ some child) := by
  have ⟨children, hr, eq⟩ := resolve_of_list listed
  subst eq
  refine ⟨children, hr, fun entry he => ?_⟩
  obtain ⟨⟨name, child⟩, mem, rfl⟩ := List.mem_map.mp he
  have stored := NameTable.get?_of_mem (ordered_of_resolve hr) mem
  refine ⟨child, stored, rfl, fun hn => ?named, fun hn below => ?elsewhere,
    resolve_ne_child_of_dots canonical hr mem⟩
  case named =>
    have found := (resolve_down canonical hr hn).trans stored
    refine ⟨found, by simp [isDirectory, found], fun content file => ?_⟩
    exact read_of_resolve (file ▸ found)
  case elsewhere => exact hn (canonical.segments_down_iff.mp below)

theorem listed_opens_nested :
    let children := [("a", .file "text"), ("b", .directory []), ("b/c", .file "")]
    let fs : FileSystem := ⟨.directory [("src", .directory children)], rfl, by
      simp only [children, Entry.Ordered, Entry.AllOrdered, NameTable.Ordered, and_true]
      decide⟩
    Path.Canonical "/src" ∧ fs.list "/src" = .ok [("a", false), ("b", true), ("b/c", false)] ∧
      (Path.IsSegment "a" ∧ fs.read (Path.canonicalize "/src" "a") = .ok "text") ∧
      (Path.IsSegment "b" ∧ fs.isDirectory (Path.canonicalize "/src" "b")) ∧
      ¬Path.IsSegment "b/c" ∧
      Path.segments (Path.canonicalize "/src" "b/c") ≠ Path.segments "/src" ++ ["b/c"] := by
  intro children fs
  have canonical : Path.Canonical "/src" := ⟨by decide +kernel, by decide +kernel⟩
  have there : fs.resolve "/src" = some (.directory children) := by decide +kernel
  have listed : fs.list "/src" = .ok [("a", false), ("b", true), ("b/c", false)] := list_eq there
  have file : Path.IsSegment "a" := by decide
  have directory : Path.IsSegment "b" := by decide
  have twice : ¬Path.IsSegment "b/c" := by decide
  have ⟨held, hr, opens⟩ := listed_opens fs canonical listed
  have same : held = children := Entry.directory.inj (Option.some.inj (hr.symm.trans there))
  have ⟨a, stored, _, named, _⟩ := opens ("a", false) (by decide)
  have ⟨_, _, _, entered, _⟩ := opens ("b", true) (by decide)
  have ⟨_, _, _, _, elsewhere, _⟩ := opens ("b/c", false) (by decide)
  have text : a = .file "text" := Option.some.inj ((same ▸ stored).symm.trans (by decide))
  have ⟨_, _, read⟩ := named file
  exact ⟨canonical, listed, ⟨file, read "text" text⟩, ⟨directory, (entered directory).right.left⟩,
    twice, elsewhere twice⟩

def strayNames : String :=
  "\x7b\"type\":\"directory\",\"children\":\x7b\"d\":\x7b\"type\":\"directory\",\"children\":\x7b"
    ++ "\"\":\x7b\"type\":\"file\"\x7d,\".\":\x7b\"type\":\"file\"\x7d,"
    ++ "\"..\":\x7b\"type\":\"file\"\x7d,\"a/b\":\x7b\"type\":\"file\"\x7d\x7d\x7d\x7d\x7d"

-- Three of these files give way to directories when they are opened, and the last one is not found.
theorem listed_leads_elsewhere :
    let children := [("", .file ""), (".", .file ""), ("..", .file ""), ("a/b", .file "")]
    let fs : FileSystem := ⟨.directory [("d", .directory children)], rfl, by
      simp only [children, Entry.Ordered, Entry.AllOrdered, NameTable.Ordered, and_true]
      decide⟩
    ofJson strayNames = .ok fs ∧ Path.Canonical "/d" ∧
      fs.list "/d" = .ok [("", false), (".", false), ("..", false), ("a/b", false)] ∧
      fs.resolve (Path.canonicalize "/d" "") = some (.directory children) ∧
      fs.resolve (Path.canonicalize "/d" ".") = some (.directory children) ∧
      fs.resolve (Path.canonicalize "/d" "..") = some (.directory [("d", .directory children)]) ∧
      fs.resolve (Path.canonicalize "/d" "a/b") = none := by
  intro children fs
  have canonical : Path.Canonical "/d" := ⟨by decide +kernel, by decide +kernel⟩
  have there : fs.resolve "/d" = some (.directory children) := by decide +kernel
  have read : (Json.read? strayNames).bind (Entry.ofJson? true) = some fs.root := by decide +kernel
  exact ⟨ofJson_of_root read (by decide +kernel), canonical, list_eq there, by decide +kernel⟩

end FileSystem

end VirtualShell
