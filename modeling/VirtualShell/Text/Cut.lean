namespace VirtualShell.Text

def octets : List Char → Nat
  | [] => 0
  | c :: s => c.utf8Size + octets s

def around? (sep : Char) (s : String) : Option (String × String) :=
  match s.toList.dropWhile (· != sep) with
  | [] => none
  | _ :: rest => some (String.ofList (s.toList.takeWhile (· != sep)), String.ofList rest)

theorem around?_of_not_mem {sep : Char} {a : String} (b : String) (h : sep ∉ a.toList) :
    around? sep (a ++ String.singleton sep ++ b) = some (a, b) := by
  have plain : ∀ c ∈ a.toList, (c != sep) = true := fun c mem => by
    rw [bne_iff_ne]
    intro eq
    exact h (eq ▸ mem)
  have text : (a ++ String.singleton sep ++ b).toList = a.toList ++ sep :: b.toList := by simp
  rw [around?, text, List.dropWhile_append_of_pos plain, List.takeWhile_append_of_pos plain]
  simp

theorem mem_around? {sep : Char} {s a b : String} (h : around? sep s = some (a, b)) :
    (∀ c ∈ a.toList, c ∈ s.toList) ∧ ∀ c ∈ b.toList, c ∈ s.toList := by
  unfold around? at h
  split at h
  case h_1 => contradiction
  case h_2 d rest hr =>
    cases h
    have tail : ∀ c ∈ rest, c ∈ s.toList := by
      intro c hc
      have : c ∈ s.toList.dropWhile (· != sep) := hr ▸ .tail d hc
      exact (List.dropWhile_sublist _).subset this
    constructor
    · intro c hc
      exact (List.takeWhile_sublist _).subset (by simpa using hc)
    · intro c hc
      exact tail c (by simpa using hc)

theorem around?_eq_some_iff {sep : Char} {s a b : String} :
    around? sep s = some (a, b) ↔ s = a ++ String.singleton sep ++ b ∧ sep ∉ a.toList := by
  refine ⟨fun h => ?_, fun ⟨spelled, plain⟩ => spelled ▸ around?_of_not_mem b plain⟩
  unfold around? at h
  split at h
  case h_1 => contradiction
  case h_2 d rest hr =>
    cases h
    have found : d = sep := by simpa [hr] using List.head?_dropWhile_not (· != sep) s.toList
    have whole := List.takeWhile_append_dropWhile (p := (· != sep)) (l := s.toList)
    constructor
    · apply String.toList_injective
      rw [hr, found] at whole
      simpa using whole.symm
    · intro mem
      have ne := List.all_eq_true.mp List.all_takeWhile sep (by simpa using mem)
      exact absurd rfl (bne_iff_ne.mp ne)

-- The two parts of a text before and from an octet offset, if that lies between characters.
def cut? : Nat → List Char → Option (List Char × List Char)
  | 0, s => some ([], s)
  | _ + 1, [] => none
  | n + 1, c :: s =>
    if c.utf8Size ≤ n + 1 then (cut? (n + 1 - c.utf8Size) s).map fun p => (c :: p.1, p.2)
    else none

theorem cut?_zero (s : List Char) : cut? 0 s = some ([], s) := by
  cases s <;> rfl

theorem cut?_octets (a b : List Char) : cut? (octets a) (a ++ b) = some (a, b) := by
  induction a with
  | nil => exact cut?_zero b
  | cons c a ih =>
    have pos := c.utf8Size_pos
    have eq : octets (c :: a) = (c.utf8Size - 1 + octets a) + 1 := by
      simp [octets]; omega
    have sub : c.utf8Size - 1 + octets a + 1 - c.utf8Size = octets a := by omega
    rw [eq, List.cons_append, cut?, if_pos (by omega), sub, ih]
    rfl

end VirtualShell.Text
