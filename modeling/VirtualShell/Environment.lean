import VirtualShell.NameTable

namespace VirtualShell

inductive VariableError
  | emptyName
  deriving DecidableEq, Repr

def VariableError.message : VariableError → String
  | .emptyName => "variable name must not be empty"

structure Environment where
  all : NameTable String
  ordered : all.Ordered
  deriving DecidableEq

namespace Environment

def empty : Environment := ⟨[], NameTable.ordered_nil⟩

def size (env : Environment) : Nat := env.all.length

def get? (env : Environment) (name : String) : Option String := NameTable.get? env.all name

def insert (env : Environment) (name value : String) : Environment :=
  ⟨NameTable.insert name value env.all, NameTable.ordered_insert env.ordered⟩

def set (env : Environment) (name value : String) : Except VariableError Environment :=
  if name = "" then .error .emptyName else .ok (env.insert name value)

def unset (env : Environment) (name : String) : Environment :=
  ⟨NameTable.erase name env.all, NameTable.ordered_erase env.ordered⟩

theorem ext {env other : Environment} (h : env.all = other.all) : env = other := by
  cases env
  cases other
  cases h
  rfl

variable (env : Environment)

theorem get?_insert (name other value : String) :
    (env.insert name value).get? other = if other = name then some value else env.get? other :=
  NameTable.get?_insert ..

theorem get?_unset (name other : String) :
    (env.unset name).get? other = if other = name then none else env.get? other :=
  NameTable.get?_erase ..

theorem get?_foldl_unset (names : List String) (other : String) :
    (names.foldl unset env).get? other = if other ∈ names then none else env.get? other := by
  induction names generalizing env
  case nil => simp
  case cons name names hi =>
    rw [List.foldl_cons, hi, get?_unset]
    by_cases eq : other = name <;> simp [eq]

theorem get?_set_of_ne {name other : String} (h : other ≠ name) (value : String) :
    ((env.set name value).toOption.getD env).get? other = env.get? other := by
  unfold set
  split
  case isTrue => rfl
  case isFalse => exact (get?_insert ..).trans (if_neg h)

-- Sets each variable in turn. Pairs with an empty name are passed over.
def overlay (env : Environment) (pairs : List (String × String)) : Environment :=
  pairs.foldl (fun env p => (env.set p.1 p.2).toOption.getD env) env

theorem get?_overlay_of_forall_ne {name : String} {pairs : List (String × String)}
    (h : ∀ p ∈ pairs, p.1 ≠ name) : (env.overlay pairs).get? name = env.get? name := by
  induction pairs generalizing env
  case nil => rfl
  case cons p pairs hi =>
    have ⟨first, rest⟩ := List.forall_mem_cons.mp h
    exact (hi _ rest).trans (env.get?_set_of_ne first.symm p.2)

theorem get?_overlay_concat {name : String} (ne : name ≠ "") (pairs : List (String × String)) (value : String) :
    (env.overlay (pairs ++ [(name, value)])).get? name = some value := by
  simp only [overlay, List.foldl_append, List.foldl_cons, List.foldl_nil, set, ne, if_false]
  exact (get?_insert ..).trans (if_pos rfl)

def constants : List (String × String) :=
  [("PATH", "/usr/local/bin:/usr/bin:/bin"), ("SHELL", "/bin/sh"), ("TERM", "xterm-256color"),
   ("LANG", "en_US.UTF-8")]

def seeded (user host home cwd : String) : Environment :=
  empty.overlay
    (constants ++ [("USER", user), ("HOSTNAME", host), ("HOME", home), ("PWD", cwd)])

theorem get?_seeded_pwd (user host home cwd : String) : (seeded user host home cwd).get? "PWD" = some cwd :=
  get?_overlay_concat empty (by decide) (constants ++ [("USER", user), ("HOSTNAME", host), ("HOME", home)]) cwd

def isValidName (name : String) : Bool :=
  match name.toList with
  | [] => false
  | c :: rest => (c.isAlpha || c = '_') && rest.all fun c => c.isAlphanum || c = '_'

end Environment

end VirtualShell
