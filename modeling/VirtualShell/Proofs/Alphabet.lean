import VirtualShell.Clock
import VirtualShell.Environment
import VirtualShell.FileSystem.Basic
import VirtualShell.History
import VirtualShell.Line
import VirtualShell.Output
import VirtualShell.Path

namespace VirtualShell

-- A set of characters, among them those that the shell itself writes.
structure Alphabet where
  Has   : Char → Prop
  ascii : ∀ c : Char, 0x20 ≤ c.toNat ∧ c.toNat ≤ 0x7E → Has c

namespace Alphabet

def Spells (A : Alphabet) (s : String) : Prop := ∀ c ∈ s.toList, A.Has c

variable {A : Alphabet}

theorem spells_ascii {s : List Char}
    (h : s.all fun c => 0x20 ≤ c.toNat && c.toNat ≤ 0x7E) : A.Spells (String.ofList s) := by
  intro c hc
  have mem : c ∈ s := by simpa using hc
  exact A.ascii c (by simpa using List.all_eq_true.mp h c mem)

theorem spells_empty : A.Spells "" := nofun

theorem spells_getD {names : List String} (h : ∀ name ∈ names, A.Spells name) (i : Nat) :
    A.Spells (names.getD i "") := by
  rw [List.getD_eq_getElem?_getD]
  cases hi : names[i]?
  case none => exact spells_empty
  case some name => exact h name (List.mem_of_getElem? hi)

theorem Spells.append {a b : String} (ha : A.Spells a) (hb : A.Spells b) : A.Spells (a ++ b) := by
  intro c hc
  rw [String.toList_append] at hc
  exact (List.mem_append.mp hc).elim (ha c) (hb c)

theorem spells_ofList {s : List Char} (h : ∀ c ∈ s, A.Has c) : A.Spells (String.ofList s) := by
  intro c hc
  exact h c (by simpa using hc)

theorem Spells.intercalate {sep : String} {parts : List String} (hs : A.Spells sep)
    (h : ∀ part ∈ parts, A.Spells part) : A.Spells (sep.intercalate parts) := by
  intro c hc
  cases Text.mem_intercalate hc
  case inl hc => exact hs c hc
  case inr hc =>
    have ⟨part, hp, hc⟩ := hc
    exact h part hp c hc

theorem Spells.words {line : String} (h : A.Spells line) : ∀ word ∈ Text.words line, A.Spells word :=
  fun _ hw c hc => h c (Text.mem_words hw c hc).right

theorem Spells.around? {sep : Char} {s a b : String} (h : A.Spells s)
    (hs : Text.around? sep s = some (a, b)) : A.Spells a ∧ A.Spells b :=
  have ⟨ha, hb⟩ := Text.mem_around? hs
  ⟨fun c hc => h c (ha c hc), fun c hc => h c (hb c hc)⟩

theorem has_digit {c : Char} (h : c.isDigit) : A.Has c := by
  have h : 48 ≤ c.toNat ∧ c.toNat ≤ 57 := Char.isDigit_iff_toNat.mp h
  exact A.ascii c (by omega)

theorem spells_number (n : Nat) : A.Spells (toString n) := by
  intro c hc
  rw [Nat.toString_eq_ofList_toDigits, String.toList_ofList] at hc
  exact has_digit (Nat.isDigit_of_mem_toDigits (by decide) (by decide) hc)

theorem spells_padded {fill : Char} (hf : A.Has fill) (size n : Nat) : A.Spells (Text.padded fill size n) := by
  apply Spells.append
  · exact spells_ofList fun c hc => List.eq_of_mem_replicate hc ▸ hf
  · exact spells_number n

theorem has_slash : A.Has '/' := A.ascii _ (by decide)

theorem Spells.canonicalize {base input : String} (hb : A.Spells base) (hi : A.Spells input) :
    A.Spells (Path.canonicalize base input) := by
  intro c hc
  cases Path.mem_canonicalize hc
  case inl hc => exact hc ▸ has_slash
  case inr hc => exact hc.elim (hb c) (hi c)

theorem Spells.expandHome {input home : String} (hi : A.Spells input) (hh : A.Spells home) :
    A.Spells (Path.expandHome input home) := by
  intro c hc
  cases Path.mem_expandHome hc
  case inl hc => exact hc ▸ has_slash
  case inr hc => exact hc.elim (hi c) (hh c)

theorem Spells.basename {path : String} (h : A.Spells path) : A.Spells (Path.basename path) := by
  intro c hc
  cases Path.mem_basename hc
  case inl hc => exact hc ▸ has_slash
  case inr hc => exact h c hc

end Alphabet

open Alphabet

variable {A : Alphabet}

namespace Environment

variable {env : Environment}

def Over (A : Alphabet) (env : Environment) : Prop := ∀ p ∈ env.all, A.Spells p.1 ∧ A.Spells p.2

theorem Over.get? (h : env.Over A) {name value : String} (hv : env.get? name = some value) :
    A.Spells value :=
  (h _ (NameTable.mem_of_get? hv)).right

theorem Over.getD (h : env.Over A) (name : String) {value : String} (hv : A.Spells value) :
    A.Spells ((env.get? name).getD value) := by
  cases hg : env.get? name
  case none => exact hv
  case some value => exact h.get? hg

theorem Over.insert (h : env.Over A) {name value : String} (hn : A.Spells name) (hv : A.Spells value) :
    (env.insert name value).Over A := by
  intro p hp
  cases NameTable.mem_insert hp
  case inl hp => exact hp ▸ ⟨hn, hv⟩
  case inr hp => exact h p hp

theorem Over.set (h : env.Over A) {name value : String} (hn : A.Spells name) (hv : A.Spells value) :
    ((env.set name value).toOption.getD env).Over A := by
  unfold Environment.set
  split
  case isTrue => exact h
  case isFalse => exact h.insert hn hv

theorem Over.overlay (h : env.Over A) {pairs : List (String × String)}
    (hp : ∀ p ∈ pairs, A.Spells p.1 ∧ A.Spells p.2) : (env.overlay pairs).Over A := by
  induction pairs generalizing env
  case nil => exact h
  case cons p pairs hi =>
    have ⟨⟨hn, hv⟩, hp⟩ := List.forall_mem_cons.mp hp
    exact hi (h.set hn hv) hp

theorem over_seeded {user host home cwd : String} (hu : A.Spells user) (hh : A.Spells host)
    (hm : A.Spells home) (hc : A.Spells cwd) : (seeded user host home cwd).Over A := by
  have none : empty.Over A := nofun
  have fixed : ∀ p ∈ constants, A.Spells p.1 ∧ A.Spells p.2 := by
    simp only [constants, List.forall_mem_cons]
    exact ⟨⟨spells_ascii rfl, spells_ascii rfl⟩, ⟨spells_ascii rfl, spells_ascii rfl⟩,
      ⟨spells_ascii rfl, spells_ascii rfl⟩, ⟨spells_ascii rfl, spells_ascii rfl⟩, nofun⟩
  have given : ∀ p ∈ [("USER", user), ("HOSTNAME", host), ("HOME", home), ("PWD", cwd)],
      A.Spells p.1 ∧ A.Spells p.2 := by
    simp only [List.forall_mem_cons]
    exact ⟨⟨spells_ascii rfl, hu⟩, ⟨spells_ascii rfl, hh⟩,
      ⟨spells_ascii rfl, hm⟩, ⟨spells_ascii rfl, hc⟩, nofun⟩
  exact none.overlay (List.forall_mem_append.mpr ⟨fixed, given⟩)

theorem Over.unset (h : env.Over A) (name : String) : (env.unset name).Over A :=
  fun p hp => h p (List.mem_filter.mp hp).left

theorem Over.unsetAll (h : env.Over A) (names : List String) : (names.foldl Environment.unset env).Over A := by
  induction names generalizing env
  case nil => exact h
  case cons name names hi => exact hi (h.unset name)

end Environment

namespace History

variable {h : History}

def Over (A : Alphabet) (h : History) : Prop := ∀ text, some text ∈ h.entries.slots → A.Spells text

theorem over_ofCapacity (capacity : Nat) : (ofCapacity capacity).Over A := by
  intro text ht
  have := Array.eq_of_mem_replicate ht
  contradiction

theorem Over.add (ho : h.Over A) {line : String} (hl : A.Spells line) : (h.add line).Over A := by
  intro text ht
  simp only [History.add] at ht
  split at ht
  case isTrue => exact ho text ht
  case isFalse =>
    cases RingBuffer.mem_slots_push ht
    case inl eq => exact eq ▸ hl
    case inr ht => exact ho text ht

theorem Over.previous (ho : h.Over A) :
    h.previous.2.Over A ∧ ∀ text, h.previous.1 = some text → A.Spells text := by
  unfold History.previous
  split
  case isTrue => exact ⟨ho, nofun⟩
  case isFalse => exact ⟨ho, fun text ht => ho text (RingBuffer.mem_slots_of_get? ht)⟩

theorem Over.next (ho : h.Over A) :
    h.next.2.Over A ∧ ∀ text, h.next.1 = some text → A.Spells text := by
  unfold History.next
  split
  case isTrue => exact ⟨ho, nofun⟩
  case isFalse =>
    refine ⟨ho, fun text ht => ?_⟩
    dsimp only at ht
    split at ht
    case isTrue => exact Option.some.inj ht ▸ spells_empty
    case isFalse => exact ho text (RingBuffer.mem_slots_of_get? ht)

theorem Over.all (ho : h.Over A) : ∀ text ∈ h.all, A.Spells text :=
  fun text ht => ho text (RingBuffer.mem_slots_of_mem_toList ht)

end History

namespace Line

variable {l : Line}

def Over (A : Alphabet) (l : Line) : Prop := A.Spells l.text

theorem over_empty : empty.Over A := spells_empty

theorem Over.insert (h : l.Over A) {c : Char} (hc : A.Has c) : (l.insert c).Over A := by
  intro d hd
  rw [toList_insert] at hd
  cases List.mem_append.mp hd
  case inl hd => exact h d (List.mem_of_mem_take hd)
  case inr hd =>
    cases hd
    case head => exact hc
    case tail hd => exact h d (List.mem_of_mem_drop hd)

theorem Over.removeHere (h : l.Over A) : l.removeHere.Over A := by
  intro c hc
  rw [toList_removeHere] at hc
  exact h c (List.mem_of_mem_eraseIdx hc)

theorem Over.backspace (h : l.Over A) : l.backspace.2.Over A := by
  unfold Line.backspace
  split
  case isTrue => exact h
  case isFalse => exact Over.removeHere (l := { l with cursor := l.cursor - 1 }) h

theorem Over.delete (h : l.Over A) : l.delete.2.Over A := by
  unfold Line.delete
  split
  case isTrue => exact h
  case isFalse => exact h.removeHere

theorem Over.left (h : l.Over A) : l.left.2.Over A := by
  unfold Line.left
  split <;> exact h

theorem Over.right (h : l.Over A) : l.right.2.Over A := by
  unfold Line.right
  split <;> exact h

end Line

end VirtualShell
