import VirtualShell.Command.Execute
import VirtualShell.Proofs.NameOrder

namespace VirtualShell

namespace Environment

variable {env : Environment}

theorem overlay_eq (env : Environment) (pairs : List (String × String)) :
    env.overlay pairs = (pairs.filter (·.1 ≠ "")).foldl (fun env p => env.insert p.1 p.2) env := by
  induction pairs generalizing env
  case nil => rfl
  case cons p pairs hi =>
    have tail := hi ((env.set p.1 p.2).toOption.getD env)
    by_cases empty : p.1 = ""
    case pos => simpa [overlay, set, empty, Except.toOption] using tail
    case neg => simpa [overlay, set, empty, Except.toOption] using tail

theorem all_foldl_insert (env : Environment) (pairs : List (String × String)) :
    (pairs.foldl (fun env p => env.insert p.1 p.2) env).all =
      pairs.foldl (fun t p => NameTable.insert p.1 p.2 t) env.all := by
  induction pairs generalizing env
  case nil => rfl
  case cons p pairs hi => exact hi (env.insert p.1 p.2)

theorem overlay_empty_all (h : ∀ p ∈ env.all, p.1 ≠ "") : empty.overlay env.all = env := by
  have named : env.all.filter (·.1 ≠ "") = env.all := List.filter_eq_self.mpr (by simpa using h)
  apply ext
  rw [overlay_eq, named, all_foldl_insert]
  exact NameTable.ofPairs_of_ordered env.ordered

theorem mem_all_iff {name value : String} : (name, value) ∈ env.all ↔ env.get? name = some value :=
  ⟨NameTable.get?_of_mem env.ordered, NameTable.mem_of_get?⟩

theorem get?_overlay_empty (env : Environment) (pairs : List (String × String)) :
    (env.overlay pairs).get? "" = env.get? "" := by
  have same : env.overlay (pairs.filter (·.1 ≠ "")) = env.overlay pairs := by
    rw [overlay_eq, overlay_eq, List.filter_filter]
    simp only [Bool.and_self]
  exact same ▸ env.get?_overlay_of_forall_ne (by simp)

theorem get?_overlay_last {name value : String} {front back : List (String × String)} (ne : name ≠ "")
    (h : ∀ p ∈ back, p.1 ≠ name) : (env.overlay (front ++ (name, value) :: back)).get? name = some value := by
  have parts : env.overlay (front ++ (name, value) :: back) =
      (env.overlay (front ++ [(name, value)])).overlay back := by simp [overlay]
  rw [parts, get?_overlay_of_forall_ne _ h, get?_overlay_concat env ne]

def Exportable (env : Environment) : Prop := ∀ p ∈ env.all, p.1 ≠ "" ∧ '=' ∉ p.1.toList

instance (env : Environment) : Decidable env.Exportable :=
  inferInstanceAs (Decidable (∀ p ∈ env.all, p.1 ≠ "" ∧ '=' ∉ p.1.toList))

namespace Exportable

theorem insert (h : env.Exportable) {name : String} (ne : name ≠ "") (plain : '=' ∉ name.toList) (value : String) :
    (env.insert name value).Exportable := by
  intro p hp
  cases NameTable.mem_insert hp
  case inl eq => exact eq ▸ ⟨ne, plain⟩
  case inr hp => exact h p hp

theorem unsetAll (h : env.Exportable) (names : List String) : (names.foldl Environment.unset env).Exportable := by
  induction names generalizing env
  case nil => exact h
  case cons name names hi => exact hi fun p hp => h p (List.mem_filter.mp hp).left

theorem set (h : env.Exportable) {name : String} (plain : '=' ∉ name.toList) (value : String) :
    ((env.set name value).toOption.getD env).Exportable := by
  unfold Environment.set
  split
  case isTrue => exact h
  case isFalse ne => exact h.insert ne plain value

theorem overlay (h : env.Exportable) {pairs : List (String × String)} (plain : ∀ p ∈ pairs, '=' ∉ p.1.toList) :
    (env.overlay pairs).Exportable := by
  induction pairs generalizing env
  case nil => exact h
  case cons p pairs hi =>
    have ⟨first, rest⟩ := List.forall_mem_cons.mp plain
    exact hi (h.set first p.2) rest

end Exportable

end Environment

namespace Command

variable {ctx : Context} {env : Environment}

-- An operand that gives a variable a value. The name ends at the first equals sign.
structure Assigns (arg name value : String) : Prop where
  spelled : arg = name ++ "=" ++ value
  plain   : '=' ∉ name.toList

theorem around?_iff_assigns {arg name value : String} :
    Text.around? '=' arg = some (name, value) ↔ Assigns arg name value :=
  Text.around?_eq_some_iff.trans
    ⟨fun ⟨spelled, plain⟩ => ⟨spelled, plain⟩, fun ⟨spelled, plain⟩ => ⟨spelled, plain⟩⟩

theorem not_assigns {arg name : String} (h : (Text.around? '=' arg).map Prod.fst ≠ some name) (value : String) :
    ¬Assigns arg name value :=
  fun assigns => h (by rw [around?_iff_assigns.mpr assigns, Option.map_some])

-- Of the operands that give the variable a value, the last one gives it this.
def LastAssigns (args : List String) (name value : String) : Prop :=
  ∃ front arg back, args = front ++ arg :: back ∧ Assigns arg name value ∧
    ∀ later ∈ back, ∀ other, ¬Assigns later name other

def assignments (args : List String) : List (String × String) := args.filterMap (Text.around? '=')

theorem assignments_append (front back : List String) :
    assignments (front ++ back) = assignments front ++ assignments back :=
  List.filterMap_append

theorem mem_assignments {args : List String} {name value : String} :
    (name, value) ∈ assignments args ↔ ∃ arg ∈ args, Assigns arg name value := by
  simp [assignments, around?_iff_assigns]

def nameless (arg : String) : Bool := arg.toList.head? = some '='

theorem Assigns.nameless_eq {arg name value : String} (h : Assigns arg name value) :
    nameless arg = decide (name = "") := by
  have ⟨spelled, plain⟩ := h
  cases hn : name.toList
  case nil =>
    have empty : name = "" := String.toList_eq_nil_iff.mp hn
    simp [nameless, spelled, empty]
  case cons c cs =>
    have ne : name ≠ "" := fun empty => by simp [empty] at hn
    have first : c ≠ '=' := fun eq => plain (by simp [hn, eq])
    simp [nameless, spelled, hn, ne, first]

theorem nameless_eq_false {arg : String} (h : Text.around? '=' arg = none) : nameless arg = false := by
  refine decide_eq_false fun first => ?_
  have ⟨value, spelled⟩ := List.head?_eq_some_iff.mp first
  have found : Assigns arg "" (String.ofList value) :=
    ⟨String.toList_injective (by simp [spelled]), List.not_mem_nil⟩
  exact nomatch h.symm.trans (around?_iff_assigns.mpr found)

theorem refusal_eq (arg : String) : "export: `" ++ arg ++ "': " ++ VariableError.emptyName.message =
    "export: `" ++ arg ++ "': variable name must not be empty" :=
  String.append_assoc.trans (congrArg ("export: `" ++ arg ++ ·) (by decide))

def refusal (arg : String) : OutputLine := .error ("export: `" ++ arg ++ "': variable name must not be empty")

theorem assign_eq (env : Environment) (arg : String) :
    assign env arg = (env.overlay (assignments [arg]), ([arg].filter nameless).map refusal) := by
  unfold assign
  split
  case h_1 none => simp [assignments, none, nameless_eq_false none, Environment.overlay]
  case h_2 name value some =>
    have nameless := (around?_iff_assigns.mp some).nameless_eq
    have pairs : env.overlay (assignments [arg]) = (env.set name value).toOption.getD env := by
      simp [assignments, some, Environment.overlay]
    rw [pairs]
    by_cases empty : name = ""
    case pos => simp [Environment.set, empty, nameless, refusal, refusal_eq, Except.toOption]
    case neg => simp [Environment.set, empty, nameless, Except.toOption]

theorem assignAll_eq (env : Environment) (args : List String) :
    assignAll env args = (env.overlay (assignments args), (args.filter nameless).map refusal) := by
  induction args generalizing env
  case nil => rfl
  case cons arg args hi =>
    have front : assignments (arg :: args) = assignments [arg] ++ assignments args := assignments_append [arg] args
    have named : (arg :: args).filter nameless = [arg].filter nameless ++ args.filter nameless :=
      List.filter_append [arg] args
    simp only [assignAll, assign_eq, hi, front, named, List.map_append, Environment.overlay, List.foldl_append]

theorem execute_exportVars {args : List String} (ne : args ≠ []) : (Command.exportVars args).execute ctx env =
    (env.overlay (assignments args), .lines ((args.filter nameless).map refusal)) := by
  cases args
  case nil => contradiction
  case cons arg args => simp only [execute, assignAll_eq]

theorem get?_overlay_of_last {args : List String} {name value : String} (ne : name ≠ "")
    (h : LastAssigns args name value) : (env.overlay (assignments args)).get? name = some value := by
  have ⟨front, arg, back, eq, this, later⟩ := h
  have pairs : assignments args = assignments front ++ (name, value) :: assignments back := by
    simp [assignments, eq, around?_iff_assigns.mpr this]
  have others : ∀ p ∈ assignments back, p.1 ≠ name := by
    rintro ⟨_, other⟩ mem rfl
    have ⟨arg, mem, assigns⟩ := mem_assignments.mp mem
    exact later arg mem other assigns
  rw [pairs]
  exact Environment.get?_overlay_last ne others

theorem get?_overlay_of_unassigned {args : List String} {name : String}
    (h : ∀ arg ∈ args, ∀ value, Assigns arg name value → name = "") :
    (env.overlay (assignments args)).get? name = env.get? name := by
  by_cases empty : name = ""
  case pos => exact empty ▸ env.get?_overlay_empty _
  case neg =>
    apply Environment.get?_overlay_of_forall_ne
    rintro ⟨_, value⟩ mem rfl
    have ⟨arg, mem, assigns⟩ := mem_assignments.mp mem
    exact empty (h arg mem value assigns)

def executeAll (env : Environment) (steps : List (Context × Command)) : Environment :=
  steps.foldl (fun env (ctx, command) => (command.execute ctx env).1) env

theorem exportable_execute (h : env.Exportable) (command : Command) : (command.execute ctx env).1.Exportable := by
  cases command
  case exportVars args =>
    cases args
    case nil => exact h
    case cons arg args =>
      rw [execute_exportVars (List.cons_ne_nil arg args)]
      refine h.overlay fun p hp => ?_
      have ⟨_, _, assigns⟩ := mem_assignments.mp hp
      exact assigns.plain
  case unsetVars names => exact h.unsetAll names
  all_goals exact h

theorem exportable_executeAll (h : env.Exportable) (steps : List (Context × Command)) :
    (executeAll env steps).Exportable := by
  induction steps generalizing env
  case nil => exact h
  case cons step steps hi => exact hi (exportable_execute h step.2)

def written (p : String × String) : String := p.1 ++ "=" ++ p.2

theorem assignments_written (h : env.Exportable) : assignments (env.all.map written) = env.all := by
  rw [assignments, List.filterMap_map]
  refine (List.filterMap_congr fun p hp => ?_).trans (List.filterMap_some (l := env.all))
  have ⟨_, plain⟩ := h p hp
  exact Text.around?_of_not_mem p.2 plain

theorem nameless_written (h : env.Exportable) : (env.all.map written).filter nameless = [] := by
  refine List.filter_eq_nil_iff.mpr fun arg mem => ?_
  have ⟨p, hp, eq⟩ := List.mem_map.mp mem
  have ⟨ne, plain⟩ := h p hp
  have assigns : Assigns arg p.1 p.2 := ⟨eq.symm, plain⟩
  simp [assigns.nameless_eq, ne]

theorem execute_exportVars_written (h : env.Exportable) :
    (Command.exportVars (env.all.map written)).execute ctx .empty = (env, {}) := by
  by_cases none : env.all.map written = []
  case pos =>
    have empty : Environment.empty = env := Environment.ext (List.map_eq_nil_iff.mp none).symm
    rw [none, ← empty]
    rfl
  case neg =>
    have named : ∀ p ∈ env.all, p.1 ≠ "" := fun p hp => (h p hp).left
    rw [execute_exportVars none, assignments_written h, nameless_written h, Environment.overlay_empty_all named]
    rfl

end Command

end VirtualShell
