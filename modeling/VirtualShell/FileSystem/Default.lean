import VirtualShell.FileSystem.Basic

namespace VirtualShell.FileSystem

def readmeText : String :=
  "# workspace\n\nA sample project mounted in the virtual filesystem.\nTry `ls src` or `cat Cargo.toml`.\n"

def defaultRoot : Entry :=
  .directory [
    ("etc", .directory [("hostname", .file "shellpane\n")]),
    ("home", .directory [
      ("user", .directory [(".profile", .file "# ~/.profile\nexport EDITOR=vim\n")])]),
    ("project", .directory [
      ("workspace", .directory [
        ("Cargo.toml", .file "[package]\nname = \"workspace\"\nversion = \"0.1.0\"\nedition = \"2024\"\n"),
        ("README.md", .file readmeText),
        ("src", .directory [
          ("lib.rs", .file "pub fn add(a: u32, b: u32) -> u32 \x7b\n    a + b\n\x7d\n"),
          ("main.rs", .file "fn main() \x7b\n    println!(\"Hello, world!\");\n\x7d\n")])])])]

theorem ordered_defaultRoot : defaultRoot.Ordered := by
  simp only [defaultRoot, Entry.Ordered, Entry.AllOrdered, NameTable.Ordered, and_true]
  decide

def default : FileSystem := ⟨defaultRoot, rfl, ordered_defaultRoot⟩

end VirtualShell.FileSystem
