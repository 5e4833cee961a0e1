import VirtualShell.Text.Ranges

namespace VirtualShell.Text

-- The Unicode property White_Space.
def blankRanges : Ranges :=
  [(0x0009, 0x000D), (0x0020, 0x0020), (0x0085, 0x0085), (0x00A0, 0x00A0), (0x1680, 0x1680),
   (0x2000, 0x200A), (0x2028, 0x2029), (0x202F, 0x202F), (0x205F, 0x205F), (0x3000, 0x3000)]

def isBlank (c : Char) : Bool := blankRanges.has c

def fields (sep : Char → Bool) (s : List Char) : List (List Char) :=
  (s.splitOnP sep).filter (!·.isEmpty)

theorem fields_append_cons {sep : Char → Bool} {c : Char} (a b : List Char) (h : sep c) :
    fields sep (a ++ c :: b) = fields sep a ++ fields sep b := by
  simp only [fields, List.splitOnP_append_cons a b h, List.filter_append]

theorem fields_cons {sep : Char → Bool} {c : Char} (s : List Char) (h : sep c) :
    fields sep (c :: s) = fields sep s :=
  fields_append_cons [] s h

theorem fields_append_of_forall {sep : Char → Bool} (a : List Char) {b : List Char}
    (h : ∀ c ∈ b, sep c) : fields sep (a ++ b) = fields sep a := by
  induction b generalizing a
  case nil => rw [List.append_nil]
  case cons c b hi =>
    have ⟨hc, hb⟩ := List.forall_mem_cons.mp h
    have none : fields sep b = [] := hi [] hb
    rw [fields_append_cons a b hc, none, List.append_nil]

theorem fields_eq_singleton {sep : Char → Bool} {s : List Char} (ne : s ≠ [])
    (h : ∀ c ∈ s, sep c = false) : fields sep s = [s] := by
  rw [fields, List.splitOnP_eq_singleton h]
  simp [ne]

theorem mem_splitOnP {sep : Char → Bool} {s w : List Char} (h : w ∈ s.splitOnP sep) :
    ∀ c ∈ w, sep c = false ∧ c ∈ s := by
  induction s generalizing w
  case nil => simp_all
  case cons d s hi =>
    rw [List.splitOnP_cons_eq_if_modifyHead] at h
    split at h
    case isTrue =>
      cases h
      case head => nofun
      case tail h => exact fun c hc => (hi h c hc).imp_right (.tail _)
    case isFalse hd =>
      have ⟨first, rest, hs⟩ := List.exists_cons_of_ne_nil (List.splitOnP_ne_nil sep s)
      rw [hs, List.modifyHead_cons] at h
      rw [hs] at hi
      intro c hc
      cases h
      case head =>
        cases hc
        case head => exact ⟨by simpa using hd, .head _⟩
        case tail hc => exact (hi (.head _) c hc).imp_right (.tail _)
      case tail h => exact (hi (.tail _ h) c hc).imp_right (.tail _)

theorem ne_nil_of_mem_fields {sep : Char → Bool} {s w : List Char} (h : w ∈ fields sep s) :
    w ≠ [] := by
  simpa using (List.mem_filter.mp h).right

theorem mem_fields {sep : Char → Bool} {s w : List Char} (h : w ∈ fields sep s) :
    ∀ c ∈ w, sep c = false ∧ c ∈ s :=
  mem_splitOnP (List.mem_filter.mp h).left

theorem mem_intercalate {sep : String} {parts : List String} {c : Char}
    (h : c ∈ (sep.intercalate parts).toList) : c ∈ sep.toList ∨ ∃ part ∈ parts, c ∈ part.toList := by
  induction parts
  case nil => simp at h
  case cons part parts hi =>
    cases parts
    case nil => exact .inr ⟨part, .head _, by simpa using h⟩
    case cons next parts =>
      rw [String.intercalate_cons_cons, String.toList_append, String.toList_append] at h
      cases List.mem_append.mp h
      case inl h =>
        cases List.mem_append.mp h
        case inl h => exact .inr ⟨part, .head _, h⟩
        case inr h => exact .inl h
      case inr h => exact (hi h).imp_right fun ⟨p, hp, hc⟩ => ⟨p, .tail _ hp, hc⟩

def words (line : String) : List String :=
  (fields isBlank line.toList).map String.ofList

theorem mem_words {line word : String} (h : word ∈ words line) :
    ∀ c ∈ word.toList, isBlank c = false ∧ c ∈ line.toList := by
  have ⟨w, hw, eq⟩ := List.mem_map.mp h
  subst eq
  intro c hc
  exact mem_fields hw c (by simpa using hc)

theorem words_join (front rest : String) : words (front ++ " " ++ rest) = words front ++ words rest := by
  have text : (front ++ " " ++ rest).toList = front.toList ++ ' ' :: rest.toList := by simp
  rw [words, text, fields_append_cons _ _ (by decide), List.map_append]
  rfl

structure IsWord (w : String) : Prop where
  ne    : w ≠ ""
  plain : ∀ c ∈ w.toList, isBlank c = false

theorem isWord_iff {w : String} : IsWord w ↔ w ≠ "" ∧ w.toList.any isBlank = false :=
  ⟨fun h => ⟨h.ne, by simpa using h.plain⟩, fun h => ⟨h.left, by simpa using h.right⟩⟩

instance (w : String) : Decidable (IsWord w) :=
  decidable_of_iff _ isWord_iff.symm

theorem IsWord.words_eq {w : String} (h : IsWord w) : words w = [w] := by
  have single : fields isBlank w.toList = [w.toList] :=
    fields_eq_singleton (mt String.toList_eq_nil_iff.mp h.ne) h.plain
  simp [words, single]

def allBlank (line : String) : Bool := line.toList.all isBlank

end VirtualShell.Text
