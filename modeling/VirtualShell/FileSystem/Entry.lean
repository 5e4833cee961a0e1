import VirtualShell.NameTable

namespace VirtualShell

inductive Entry
  | file (content : String)
  | directory (children : List (String × Entry))

namespace Entry

mutual

def decEq : (a b : Entry) → Decidable (a = b)
  | .file a, .file b => if h : a = b then isTrue (h ▸ rfl) else isFalse (by simpa using h)
  | .file _, .directory _ => isFalse nofun
  | .directory _, .file _ => isFalse nofun
  | .directory as, .directory bs =>
    match decEqAll as bs with
    | isTrue h => isTrue (h ▸ rfl)
    | isFalse h => isFalse (by simpa using h)
termination_by structural a => a

def decEqAll : (as bs : List (String × Entry)) → Decidable (as = bs)
  | [], [] => isTrue rfl
  | [], _ :: _ => isFalse nofun
  | _ :: _, [] => isFalse nofun
  | (m, a) :: as, (n, b) :: bs =>
    if h : m = n then
      match decEq a b with
      | isTrue h₁ =>
        match decEqAll as bs with
        | isTrue h₂ => isTrue (by rw [h, h₁, h₂])
        | isFalse h₂ => isFalse (by simp [h₂])
      | isFalse h₁ => isFalse (by simp [h₁])
    else isFalse (by simp [h])
termination_by structural as => as

end

instance : DecidableEq Entry := decEq

instance : Inhabited Entry := ⟨.directory []⟩

def isDirectory : Entry → Bool
  | .file _ => false
  | .directory _ => true

def content? : Entry → Option String
  | .file content => some content
  | .directory _ => none

def children? : Entry → Option (NameTable Entry)
  | .file _ => none
  | .directory children => some children

mutual

def Ordered : Entry → Prop
  | .file _ => True
  | .directory children => NameTable.Ordered children ∧ AllOrdered children
termination_by structural e => e

def AllOrdered : List (String × Entry) → Prop
  | [] => True
  | (_, e) :: rest => e.Ordered ∧ AllOrdered rest
termination_by structural es => es

end

theorem allOrdered_iff {es : List (String × Entry)} : AllOrdered es ↔ ∀ p ∈ es, p.2.Ordered := by
  induction es with
  | nil => simp [AllOrdered]
  | cons p es ih => simp [AllOrdered, ih]

mutual

-- The same entry with every directory in order. Of two children with one name the later stays.
def normalize : Entry → Entry
  | .file content => .file content
  | .directory children => .directory (NameTable.ofPairs (normalizeAll children))
termination_by structural e => e

def normalizeAll : List (String × Entry) → List (String × Entry)
  | [] => []
  | (name, e) :: rest => (name, e.normalize) :: normalizeAll rest
termination_by structural es => es

end

theorem isDirectory_normalize (e : Entry) : e.normalize.isDirectory = e.isDirectory := by
  cases e <;> rfl

theorem mem_ofPairs {es : List (String × Entry)} {p : String × Entry} (h : p ∈ NameTable.ofPairs es) :
    p ∈ es := by
  suffices ∀ t : NameTable Entry,
      p ∈ es.foldl (fun t p => NameTable.insert p.1 p.2 t) t → p ∈ t ∨ p ∈ es by
    simpa using this [] h
  clear h
  induction es with
  | nil => exact fun _ h => .inl h
  | cons q es ih =>
    intro t h
    rcases ih _ h with h | h
    · rcases NameTable.mem_insert h with h | h
      · exact .inr (h ▸ .head _)
      · exact .inl h
    · exact .inr (.tail _ h)

mutual

theorem ordered_normalize : (e : Entry) → e.normalize.Ordered
  | .file _ => trivial
  | .directory children =>
    ⟨NameTable.ordered_ofPairs _, allOrdered_iff.mpr fun _ h =>
      allOrdered_iff.mp (allOrdered_normalizeAll children) _ (mem_ofPairs h)⟩
termination_by structural e => e

theorem allOrdered_normalizeAll : (es : List (String × Entry)) → AllOrdered (normalizeAll es)
  | [] => trivial
  | (_, e) :: rest => ⟨ordered_normalize e, allOrdered_normalizeAll rest⟩
termination_by structural es => es

end

@[elab_as_elim]
theorem induct {P : Entry → Prop} (file : ∀ content, P (.file content))
    (directory : ∀ children, (∀ p ∈ children, P p.2) → P (.directory children)) : ∀ e, P e :=
  go
where
  go : ∀ e, P e
    | .file content => file content
    | .directory children => directory children (goAll children)
  goAll : (es : List (String × Entry)) → ∀ p ∈ es, P p.2
    | [] => nofun
    | (_, e) :: rest => List.forall_mem_cons.mpr ⟨go e, goAll rest⟩

theorem normalizeAll_eq_self {es : List (String × Entry)} (h : ∀ p ∈ es, p.2.normalize = p.2) :
    normalizeAll es = es := by
  induction es
  case nil => rfl
  case cons p es hi =>
    have ⟨hp, h⟩ := List.forall_mem_cons.mp h
    rw [normalizeAll, hp, hi h]

theorem normalize_of_ordered {e : Entry} (h : e.Ordered) : e.normalize = e := by
  induction e using induct
  case file => rfl
  case directory children hi =>
    have ⟨ho, h⟩ := h
    have all := normalizeAll_eq_self fun p mem => hi p mem (allOrdered_iff.mp h p mem)
    rw [normalize, all, NameTable.ofPairs_of_ordered ho]

end Entry

end VirtualShell
