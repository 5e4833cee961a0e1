import Mathlib.Data.List.DropRight
import VirtualShell.Command.Execute
import VirtualShell.Completion
import VirtualShell.Proofs.HistoryLog

namespace VirtualShell

namespace Text

variable {sep : Char → Bool}

theorem fields_append_of_gap {gap : List Char} (s : List Char) (h : ∀ c ∈ gap, sep c) :
    fields sep (gap ++ s) = fields sep s := by
  induction gap
  case nil => rfl
  case cons c gap hi =>
    have ⟨hc, rest⟩ := List.forall_mem_cons.mp h
    exact (fields_cons (gap ++ s) hc).trans (hi rest)

theorem fields_around_gap {gap : List Char} (a b : List Char) (ne : gap ≠ []) (h : ∀ c ∈ gap, sep c) :
    fields sep (a ++ (gap ++ b)) = fields sep a ++ fields sep b := by
  have ⟨c, cs, eq⟩ := List.exists_cons_of_ne_nil ne
  subst eq
  have ⟨hc, rest⟩ := List.forall_mem_cons.mp h
  rw [List.cons_append, fields_append_cons a _ hc, fields_append_of_gap b rest]

theorem allBlank_empty : allBlank "" := rfl

theorem allBlank_iff {line : String} : allBlank line ↔ ∀ c ∈ line.toList, isBlank c := List.all_eq_true

variable {line gap word : String}

theorem words_of_allBlank (h : allBlank line) : words line = [] := by
  have none : fields isBlank line.toList = [] := fields_append_of_forall [] (allBlank_iff.mp h)
  rw [words, none, List.map_nil]

theorem words_gap_append (h : allBlank gap) (rest : String) : words (gap ++ rest) = words rest := by
  rw [words, String.toList_append, fields_append_of_gap _ (allBlank_iff.mp h), ← words]

theorem words_append_gap (h : allBlank gap) (front : String) : words (front ++ gap) = words front := by
  rw [words, String.toList_append, fields_append_of_forall _ (allBlank_iff.mp h), ← words]

theorem words_around_gap (h : allBlank gap) (ne : gap ≠ "") (front rest : String) :
    words (front ++ (gap ++ rest)) = words front ++ words rest := by
  have some : gap.toList ≠ [] := mt String.toList_eq_nil_iff.mp ne
  rw [words, String.toList_append, String.toList_append, fields_around_gap _ _ some (allBlank_iff.mp h),
    List.map_append, ← words, ← words]

def trim (line : String) : String :=
  String.ofList ((line.toList.dropWhile isBlank).rdropWhile isBlank)

theorem trim_eq_empty_iff : trim line = "" ↔ allBlank line := by
  have ends : trim line = "" ↔ ∀ c ∈ line.toList.dropWhile isBlank, isBlank c := by
    rw [trim, ← String.toList_eq_nil_iff, String.toList_ofList, List.rdropWhile_eq_nil_iff]
  rw [ends, allBlank_iff]
  constructor
  case mp =>
    intro back
    rw [← List.takeWhile_append_dropWhile (p := isBlank) (l := line.toList)]
    exact List.forall_mem_append.mpr ⟨fun c hc => List.mem_takeWhile_imp hc, back⟩
  case mpr => exact fun h c hc => h c ((List.dropWhile_sublist _).subset hc)

-- Words with blanks behind each, of which the last one's may be missing.
inductive Row : List String → String → Prop
  | last {word gap : String} (isWord : IsWord word) (blank : allBlank gap) : Row [word] (word ++ gap)
  | cons {word gap rest : String} {words : List String} (isWord : IsWord word) (blank : allBlank gap)
      (ne : gap ≠ "") (later : Row words rest) : Row (word :: words) (word ++ (gap ++ rest))

inductive Spaced (words : List String) (line : String) : Prop
  | intro {gap rest : String} (blank : allBlank gap) (row : Row words rest) (spelled : line = gap ++ rest)

theorem Row.words_eq {ws : List String} (h : Row ws line) : words line = ws := by
  induction h
  case last isWord blank => rw [words_append_gap blank, isWord.words_eq]
  case cons isWord blank ne _ hi => rw [words_around_gap blank ne, isWord.words_eq, hi, List.singleton_append]

theorem Spaced.words_eq {ws : List String} (h : Spaced ws line) : words line = ws := by
  have ⟨blank, row, spelled⟩ := h
  rw [spelled, words_gap_append blank, row.words_eq]

theorem Spaced.ne_nil {ws : List String} (h : Spaced ws line) : ws ≠ [] := by
  have ⟨_, row, _⟩ := h
  cases row <;> nofun

theorem allBlank_cons {c : Char} (hc : isBlank c) (h : allBlank line) : allBlank (String.singleton c ++ line) := by
  rw [allBlank_iff] at h ⊢
  simpa using ⟨hc, h⟩

theorem IsWord.cons {c : Char} (hc : isBlank c = false) (h : ∀ d ∈ word.toList, isBlank d = false) :
    IsWord (String.singleton c ++ word) where
  ne eq := by simpa using congrArg String.toList eq
  plain := by simpa using ⟨hc, h⟩

theorem IsWord.single {c : Char} (hc : isBlank c = false) : IsWord (String.singleton c) where
  ne eq := by simpa using congrArg String.toList eq
  plain := by simpa using hc

theorem Row.extend {c : Char} {ws : List String} (hc : isBlank c = false) (h : Row ws line) :
    ∃ ws, Row ws (String.singleton c ++ line) := by
  cases h
  case last isWord blank =>
    rw [← String.append_assoc]
    exact ⟨_, .last (.cons hc isWord.plain) blank⟩
  case cons isWord blank ne later =>
    rw [← String.append_assoc]
    exact ⟨_, .cons (.cons hc isWord.plain) blank ne later⟩

theorem spaced_cons {c : Char} {ws : List String} {rest : String} (hc : isBlank c = false) (blank : allBlank gap)
    (row : Row ws rest) : ∃ ws, Spaced ws (String.singleton c ++ (gap ++ rest)) := by
  by_cases none : gap = ""
  case pos =>
    have ⟨ws, row⟩ := row.extend hc
    exact ⟨ws, .intro allBlank_empty row (by simp [none])⟩
  case neg => exact ⟨_, .intro allBlank_empty (.cons (.single hc) blank none row) String.empty_append.symm⟩

-- A line is read from its end, character by character: a blank joins the gap in front of what was
-- read, another character begins a word there or joins the one that begins it.
theorem allBlank_or_spaced (line : String) : allBlank line ∨ ∃ ws, Spaced ws line := by
  suffices ∀ s : List Char, allBlank (String.ofList s) ∨ ∃ ws, Spaced ws (String.ofList s) by
    simpa using this line.toList
  intro s
  induction s
  case nil => exact .inl rfl
  case cons c s hi =>
    have text : String.ofList (c :: s) = String.singleton c ++ String.ofList s :=
      String.toList_injective (by simp)
    rw [text]
    cases hc : isBlank c
    case true =>
      refine hi.imp (allBlank_cons hc) fun ⟨ws, ⟨blank, row, spelled⟩⟩ => ?_
      exact ⟨ws, .intro (allBlank_cons hc blank) row (by rw [spelled, String.append_assoc])⟩
    case false =>
      refine .inr ?_
      rcases hi with blank | ⟨ws, ⟨blank, row, spelled⟩⟩
      · exact ⟨_, .intro allBlank_empty (.last (.single hc) blank) String.empty_append.symm⟩
      · exact spelled ▸ spaced_cons hc blank row

theorem spaced_iff {ws : List String} : Spaced ws line ↔ words line = ws ∧ ws ≠ [] := by
  refine ⟨fun h => ⟨h.words_eq, h.ne_nil⟩, fun ⟨eq, ne⟩ => ?_⟩
  rcases allBlank_or_spaced line with blank | ⟨others, h⟩
  · exact absurd (eq.symm.trans (words_of_allBlank blank)) ne
  · exact h.words_eq.symm.trans eq ▸ h

end Text

namespace Command

theorem parse_ne_blank (name : String) (args : List String) : parse name args ≠ .blank := by
  unfold parse
  split
  case h_4 | h_8 => split <;> nofun
  all_goals nofun

theorem parseLine_spaced {name : String} {args : List String} {line : String}
    (h : Text.Spaced (name :: args) line) : parseLine line = parse name args := by
  rw [parseLine, h.words_eq]

theorem parseLine_eq_blank_iff {line : String} : parseLine line = .blank ↔ Text.allBlank line := by
  constructor
  case mp =>
    intro h
    refine (Text.allBlank_or_spaced line).resolve_right fun ⟨ws, spaced⟩ => ?_
    have ⟨name, args, eq⟩ := List.exists_cons_of_ne_nil spaced.ne_nil
    subst eq
    exact parse_ne_blank name args ((parseLine_spaced spaced).symm.trans h)
  case mpr =>
    intro h
    rw [parseLine, Text.words_of_allBlank h]

end Command

namespace History

def Reached (h : History) : Prop :=
  ∃ capacity requests, h = (answerAll answer (ofCapacity capacity) requests).1

theorem all_add_of_allBlank {line : String} (h : History) (blank : Text.allBlank line) :
    (h.add line).all = h.all :=
  congrArg RingBuffer.toList (if_pos (.inl blank))

theorem reached_ofCapacity (capacity : Nat) : (ofCapacity capacity).Reached := ⟨capacity, [], rfl⟩

theorem all_add_ofCapacity {line : String} (capacity : Nat) (written : ¬Text.allBlank line) :
    ((ofCapacity capacity).add line).all = [line] := by
  have kept := ((keeps_ofCapacity capacity).add line).all_eq
  have room : ¬max capacity 1 < 1 := Nat.not_lt.mpr (Nat.le_max_right ..)
  rw [kept]
  simp [Log.add, Log.ofEntries, Log.extended, Log.bounded, Log.empty, written, room]

theorem allBlank_iff_all_add {line : String} :
    Text.allBlank line ↔ ∀ h : History, h.Reached → (h.add line).all = h.all := by
  refine ⟨fun blank h _ => h.all_add_of_allBlank blank, fun unchanged => ?_⟩
  by_contra written
  have same := unchanged _ (reached_ofCapacity 1)
  rw [all_add_ofCapacity 1 written] at same
  exact nomatch same

end History

theorem Completion.ofLine_of_blank {line : String} {c : Char} (mem : c ∈ line.toList) (blank : Text.isBlank c) :
    ofLine line = .none :=
  if_pos (.inr (List.any_eq_true.mpr ⟨c, mem, blank⟩))

namespace Command

theorem only_words_matter :
    (∀ name args line, Text.Spaced (name :: args) line → parseLine line = parse name args) ∧
    (∀ ws line other, Text.Spaced ws line → Text.Spaced ws other → ∀ ctx env,
      (parseLine line).execute ctx env = (parseLine other).execute ctx env) ∧
    (∀ line, Text.trim line = "" ∨ ∃ ws, Text.Spaced ws line) ∧
    (∀ line, (parseLine line = .blank ↔ Text.trim line = "") ∧
      (Text.trim line = "" ↔ ∀ h : History, h.Reached → (h.add line).all = h.all)) ∧
    ∀ line, ∀ c ∈ line.toList, Text.isBlank c → Completion.ofLine line = .none := by
  refine ⟨fun _ _ _ => parseLine_spaced, ?same, fun line => ?either, fun line => ⟨?parsed, ?recorded⟩,
    fun _ _ => Completion.ofLine_of_blank⟩
  case same =>
    intro ws line other h ho ctx env
    rw [parseLine, parseLine, h.words_eq, ho.words_eq]
  case either =>
    rw [Text.trim_eq_empty_iff]
    exact Text.allBlank_or_spaced line
  case parsed => rw [Text.trim_eq_empty_iff, parseLine_eq_blank_iff]
  case recorded => rw [Text.trim_eq_empty_iff, History.allBlank_iff_all_add]

theorem only_words_matter_wide :
    let ws := ["cat", "a", "é"]
    let line := "\u3000cat\u00a0a\u2028\u205fé\u0085"
    let other := "cat a é"
    let gap := "\t\u00a0\u3000"
    let ctx : Context := ⟨"/", .empty, [], .epoch⟩
    Text.Spaced ws line ∧ parseLine line = .cat ["a", "é"] ∧ Text.Spaced ws other ∧
      (parseLine line).execute ctx .empty = (parseLine other).execute ctx .empty ∧
      Text.trim gap = "" ∧ parseLine gap = .blank ∧ '\u00a0' ∈ gap.toList ∧ Completion.ofLine gap = .none := by
  intro ws line other gap ctx
  have ⟨parses, same, _, agree, completes⟩ := only_words_matter
  have spaced : Text.Spaced ws line := Text.spaced_iff.mpr ⟨by decide +kernel, nofun⟩
  have plain : Text.Spaced ws other := Text.spaced_iff.mpr ⟨by decide +kernel, nofun⟩
  have empty : Text.trim gap = "" := by decide +kernel
  have mem : '\u00a0' ∈ gap.toList := by decide
  exact ⟨spaced, parses _ _ _ spaced, plain, same _ _ _ spaced plain ctx .empty, empty, (agree gap).left.mpr empty, mem,
    completes gap _ mem (by decide)⟩

end Command

end VirtualShell
