namespace VirtualShell

-- Names are ordered by code point, so that every listing of a table comes out in the same order.
abbrev NameTable (α : Type) := List (String × α)

namespace NameTable

variable {α : Type}

def Ordered (t : NameTable α) : Prop := t.Pairwise (·.1 < ·.1)

def get? (t : NameTable α) (name : String) : Option α := t.lookup name

def insert (name : String) (value : α) : NameTable α → NameTable α
  | [] => [(name, value)]
  | (n, v) :: t =>
    if name < n then (name, value) :: (n, v) :: t
    else if name = n then (name, value) :: t
    else (n, v) :: insert name value t

def erase (name : String) (t : NameTable α) : NameTable α := t.filter (·.1 ≠ name)

-- The table of pairs in any order. Of two values for one name the later one stays.
def ofPairs (pairs : List (String × α)) : NameTable α :=
  pairs.foldl (fun t p => insert p.1 p.2 t) []

theorem mem_insert {name : String} {value : α} {t : NameTable α} {p : String × α}
    (h : p ∈ insert name value t) : p = (name, value) ∨ p ∈ t := by
  induction t with
  | nil => simpa [insert] using h
  | cons q t ih =>
    unfold insert at h
    split at h
    · simpa using h
    · split at h
      · rcases List.mem_cons.mp h with h | h
        · exact .inl h
        · exact .inr (.tail _ h)
      · rcases List.mem_cons.mp h with h | h
        · exact .inr (h ▸ .head _)
        · exact (ih h).imp_right (.tail _)

theorem ordered_nil : Ordered ([] : NameTable α) := .nil

theorem ordered_insert {name : String} {value : α} {t : NameTable α} (h : Ordered t) :
    Ordered (insert name value t) := by
  induction t with
  | nil => exact List.pairwise_singleton ..
  | cons q t ih =>
    have ⟨first, rest⟩ := List.pairwise_cons.mp h
    unfold insert
    split
    case isTrue lt =>
      refine List.pairwise_cons.mpr ⟨fun p mem => ?_, h⟩
      rcases List.mem_cons.mp mem with eq | mem
      · exact eq ▸ lt
      · exact String.lt_trans lt (first p mem)
    case isFalse ge =>
      split
      case isTrue eq => exact List.pairwise_cons.mpr ⟨fun p mem => eq ▸ first p mem, rest⟩
      case isFalse ne =>
        refine List.pairwise_cons.mpr ⟨fun p mem => ?_, ih rest⟩
        rcases mem_insert mem with eq | mem
        · subst eq
          have le := String.not_lt.mp ge
          exact Decidable.byContradiction fun gt => ne (String.le_antisymm (String.not_lt.mp gt) le)
        · exact first p mem

theorem ordered_erase {name : String} {t : NameTable α} (h : Ordered t) : Ordered (erase name t) :=
  h.filter _

theorem ordered_ofPairs (pairs : List (String × α)) : Ordered (ofPairs pairs) := by
  suffices ∀ t : NameTable α, Ordered t → Ordered (pairs.foldl (fun t p => insert p.1 p.2 t) t) from
    this [] ordered_nil
  induction pairs with
  | nil => exact fun _ h => h
  | cons p pairs ih => exact fun _ h => ih _ (ordered_insert h)

theorem insert_last {name : String} {value : α} {t : NameTable α} (h : ∀ p ∈ t, p.1 < name) :
    insert name value t = t ++ [(name, value)] := by
  induction t
  case nil => rfl
  case cons q t hi =>
    have lt : q.1 < name := h q (.head _)
    have ne : name ≠ q.1 := fun eq => String.lt_irrefl _ (eq ▸ lt)
    have rest := hi fun p mem => h p (.tail _ mem)
    simp [insert, String.lt_asymm lt, ne, rest]

theorem ofPairs_of_ordered {t : NameTable α} (h : Ordered t) : ofPairs t = t := by
  suffices ∀ front : NameTable α, Ordered (front ++ t) →
      t.foldl (fun t p => insert p.1 p.2 t) front = front ++ t from this [] h
  clear h
  induction t
  case nil => simp
  case cons p t hi =>
    intro front h
    have last : ∀ q ∈ front, q.1 < p.1 := fun q mem =>
      (List.pairwise_append.mp h).right.right q mem p (.head _)
    have h : Ordered (front ++ [p] ++ t) := by simpa using h
    simpa [insert_last last] using hi (front ++ [p]) h

theorem get?_cons (name n : String) (value : α) (t : NameTable α) :
    get? ((n, value) :: t) name = if name = n then some value else t.get? name := by
  unfold get?
  rw [List.lookup_cons]
  split <;> simp_all

theorem get?_insert (name other : String) (value : α) (t : NameTable α) :
    (insert name value t).get? other = if other = name then some value else t.get? other := by
  induction t
  case nil => exact get?_cons ..
  case cons p t hi =>
    unfold insert
    split
    case isTrue => exact get?_cons ..
    case isFalse =>
      split
      case isTrue eq =>
        subst eq
        rw [get?_cons, get?_cons]
        split <;> rfl
      case isFalse ne =>
        rw [get?_cons, get?_cons, hi]
        split
        case isTrue eq => exact (if_neg fun same => ne (same.symm.trans eq)).symm
        case isFalse => rfl

theorem get?_erase (name other : String) (t : NameTable α) :
    (erase name t).get? other = if other = name then none else t.get? other := by
  induction t
  case nil => exact (ite_self _).symm
  case cons p t hi =>
    by_cases eq : p.1 = name
    case pos =>
      have gone : erase name (p :: t) = erase name t := by simp [erase, eq]
      rw [gone, hi, get?_cons, eq]
      split <;> rfl
    case neg =>
      have kept : erase name (p :: t) = p :: erase name t := by simp [erase, eq]
      rw [kept, get?_cons, get?_cons, hi]
      split
      case isTrue same => exact (if_neg fun h => eq (same.symm.trans h)).symm
      case isFalse => rfl

theorem mem_of_get? {t : NameTable α} {name : String} {value : α} (h : t.get? name = some value) :
    (name, value) ∈ t := by
  have ⟨_, _, eq, _⟩ := List.lookup_eq_some_iff.mp h
  simp [eq]

theorem get?_of_mem {t : NameTable α} {name : String} {value : α} (h : Ordered t)
    (mem : (name, value) ∈ t) : t.get? name = some value := by
  have ⟨front, rest, eq⟩ := List.append_of_mem mem
  subst eq
  refine List.lookup_eq_some_iff.mpr ⟨front, rest, rfl, fun p hp => ?_⟩
  have lt : p.1 < name := (List.pairwise_append.mp h).right.right p hp _ (.head _)
  have ne : name ≠ p.1 := fun eq => String.lt_irrefl _ (eq ▸ lt)
  simpa using ne

theorem filter_of_mem {t : NameTable α} {name : String} {value : α} (h : Ordered t)
    (mem : (name, value) ∈ t) : t.filter (·.1 = name) = [(name, value)] := by
  have ⟨front, rest, eq⟩ := List.append_of_mem mem
  subst eq
  have ⟨_, back, before⟩ := List.pairwise_append.mp h
  have ⟨behind, _⟩ := List.pairwise_cons.mp back
  have none_front : front.filter (·.1 = name) = [] := by
    refine List.filter_eq_nil_iff.mpr fun p hp => ?_
    have lt : p.1 < name := before p hp _ (.head _)
    simpa using fun eq => String.lt_irrefl _ (eq ▸ lt)
  have none_rest : rest.filter (·.1 = name) = [] := by
    refine List.filter_eq_nil_iff.mpr fun p hp => ?_
    have lt : name < p.1 := behind p hp
    simpa using fun eq => String.lt_irrefl _ (eq ▸ lt)
  simp [none_front, none_rest]

end NameTable

end VirtualShell
