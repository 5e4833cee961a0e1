import Mathlib.Data.List.Forall2
import VirtualShell.Command.Execute

namespace VirtualShell

namespace Environment

def IsLetter (c : Char) : Prop := 'A' ≤ c ∧ c ≤ 'Z' ∨ 'a' ≤ c ∧ c ≤ 'z'

def IsDigit (c : Char) : Prop := '0' ≤ c ∧ c ≤ '9'

inductive IsName : List Char → Prop
  | intro {c : Char} {rest : List Char} (first : IsLetter c ∨ c = '_')
    (later : ∀ d ∈ rest, IsLetter d ∨ IsDigit d ∨ d = '_') : IsName (c :: rest)

theorem isAlpha_iff {c : Char} : c.isAlpha ↔ IsLetter c := by
  change (decide ('A' ≤ c ∧ c ≤ 'Z') || ('a' ≤ c && c ≤ 'z')) = true ↔ IsLetter c
  simp [IsLetter]

theorem isAlphanum_iff {c : Char} : c.isAlphanum ↔ IsLetter c ∨ IsDigit c := by
  change (c.isAlpha || ('0' ≤ c && c ≤ '9')) = true ↔ IsLetter c ∨ IsDigit c
  simp [isAlpha_iff, IsDigit]

theorem isName_cons {c : Char} {rest : List Char} : IsName (c :: rest) ↔
    (IsLetter c ∨ c = '_') ∧ ∀ d ∈ rest, IsLetter d ∨ IsDigit d ∨ d = '_' where
  mp  := by rintro ⟨first, later⟩; exact ⟨first, later⟩
  mpr := by rintro ⟨first, later⟩; exact ⟨first, later⟩

theorem isValidName_iff {name : String} : isValidName name ↔ IsName name.toList := by
  unfold isValidName
  cases name.toList
  case nil => exact ⟨nofun, nofun⟩
  case cons c rest =>
    rw [isName_cons]
    simp [isAlpha_iff, isAlphanum_iff, or_assoc]

theorem not_mark {c : Char} (h : IsLetter c ∨ IsDigit c ∨ c = '_') : c ≠ '$' ∧ c ≠ '\x7b' ∧ c ≠ '\x7d' := by
  unfold IsLetter IsDigit at h
  refine ⟨?_, ?_, ?_⟩ <;> rintro rfl <;> exact absurd h (by decide)

theorem IsName.plain {name : List Char} (h : IsName name) :
    name ≠ [] ∧ ∀ c ∈ name, c ≠ '$' ∧ c ≠ '\x7b' ∧ c ≠ '\x7d' := by
  have ⟨first, later⟩ := h
  exact ⟨nofun, List.forall_mem_cons.mpr ⟨not_mark (first.imp_right .inr), fun d hd => not_mark (later d hd)⟩⟩

end Environment

namespace Command

open Environment (IsName)

variable {env : Environment} {arg name : String}

theorem isTokenWord_iff {word : List Char} :
    isTokenWord word ↔ word ≠ [] ∧ ∀ c ∈ word, c ≠ '$' ∧ c ≠ '\x7b' ∧ c ≠ '\x7d' := by
  simp [isTokenWord, and_assoc]

theorem tokenWord?_eq_some_iff {arg word : List Char} : tokenWord? arg = some word ↔
    isTokenWord word ∧ (arg = '$' :: word ∨ arg = '$' :: '\x7b' :: word ++ ['\x7d']) := by
  constructor
  case mp =>
    intro h
    have ⟨found, plain⟩ := Option.filter_eq_some_iff.mp h
    refine ⟨plain, ?_⟩
    split at found
    case h_1 rest =>
      have ⟨last, eq⟩ := Option.ite_none_right_eq_some.mp found
      have ⟨front, closed⟩ := List.getLast?_eq_some_iff.mp last
      have same : front = word := by simpa [closed] using eq
      exact .inr (by simp [closed, same])
    case h_2 rest _ => exact .inl (congrArg _ (Option.some.inj found))
    case h_3 => contradiction
  case mpr =>
    rintro ⟨plain, rfl | rfl⟩
    case inl =>
      have ⟨ne, marks⟩ := isTokenWord_iff.mp plain
      have ⟨c, cs, eq⟩ := List.exists_cons_of_ne_nil ne
      have ⟨_, brace, _⟩ := marks c (eq ▸ .head _)
      subst eq
      simpa [tokenWord?, brace] using plain
    case inr => simpa [tokenWord?] using plain

structure Refers (arg name : String) : Prop where
  isName  : IsName name.toList
  spelled : arg = "$" ++ name ∨ arg = "$\x7b" ++ name ++ "\x7d"

theorem toList_token_iff : arg = "$" ++ name ∨ arg = "$\x7b" ++ name ++ "\x7d" ↔
    arg.toList = '$' :: name.toList ∨ arg.toList = '$' :: '\x7b' :: name.toList ++ ['\x7d'] := by
  simp only [← String.toList_inj]
  simp

theorem variableIn?_eq_some_iff : variableIn? arg = some name ↔ Refers arg name := by
  unfold variableIn?
  rw [Option.filter_eq_some_iff, Environment.isValidName_iff]
  constructor
  case mp =>
    intro ⟨found, isName⟩
    have ⟨word, token, eq⟩ := Option.map_eq_some_iff.mp found
    have ⟨_, spelled⟩ := tokenWord?_eq_some_iff.mp token
    subst eq
    exact ⟨isName, toList_token_iff.mpr (by simpa using spelled)⟩
  case mpr =>
    intro ⟨isName, spelled⟩
    have token := tokenWord?_eq_some_iff.mpr ⟨isTokenWord_iff.mpr isName.plain, toList_token_iff.mp spelled⟩
    exact ⟨by simp [token], isName⟩

-- What an argument is shown as. The value of a variable is shown as it is, whatever it holds.
inductive Shows (env : Environment) : String → String → Prop
  | value {arg name : String} (refers : Refers arg name) : Shows env arg ((env.get? name).getD "")
  | same {arg : String} (plain : ∀ name, ¬Refers arg name) : Shows env arg arg

theorem shows_iff {word : String} : Shows env arg word ↔ expand env arg = word := by
  unfold expand
  split
  case h_1 name found =>
    have refers := variableIn?_eq_some_iff.mp found
    constructor
    case mp =>
      rintro (⟨other⟩ | ⟨plain⟩)
      · have same := found.symm.trans (variableIn?_eq_some_iff.mpr other)
        cases same
        rfl
      · exact absurd refers (plain name)
    case mpr =>
      rintro rfl
      exact .value refers
  case h_2 none =>
    have plain (name : String) : ¬Refers arg name :=
      fun refers => nomatch none.symm.trans (variableIn?_eq_some_iff.mpr refers)
    constructor
    case mp =>
      rintro (⟨refers⟩ | _)
      · exact absurd refers (plain _)
      · rfl
    case mpr =>
      rintro rfl
      exact .same plain

example : let env := Environment.empty.insert "A" "$A b"
    ["$A", "$\x7bA\x7d", "$B", "$A\x7d", "$\x7b\x7d", "$A\n", "$1", "$é"].map (expand env) =
      ["$A b", "$A b", "", "$A\x7d", "$\x7b\x7d", "$A\n", "$1", "$é"] := by
  decide +kernel

end Command

end VirtualShell
