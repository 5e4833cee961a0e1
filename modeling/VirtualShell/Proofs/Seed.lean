import VirtualShell.FileSystem.Seed
import VirtualShell.Proofs.JsonReader

namespace VirtualShell

namespace Entry

mutual

def toValue (brief : Bool) : Entry → Json
  | .file content => .object [("type", .string "file"), ("content", .string content)]
  | .directory children =>
    .object (("type", .string "directory") ::
      if brief && children.isEmpty then [] else [("children", .object (toMembers brief children))])
termination_by structural e => e

def toMembers (brief : Bool) : List (String × Entry) → List (String × Json)
  | [] => []
  | (name, e) :: rest => (name, e.toValue brief) :: toMembers brief rest
termination_by structural es => es

end

def member (name : String) (text : List Char) : List Char := Json.quote name ++ ": ".toList ++ text

mutual

def briefly : Entry → List Char
  | .file content =>
    '\x7b' :: member "type" (Json.quote "file") ++ ", ".toList ++ member "content" (Json.quote content)
      ++ ['\x7d']
  | .directory children =>
    '\x7b' :: member "type" (Json.quote "directory")
      ++ (if children.isEmpty then []
        else ", ".toList ++ member "children" ('\x7b' :: brieflyAll children ++ ['\x7d']))
      ++ ['\x7d']
termination_by structural e => e

def brieflyAll : List (String × Entry) → List Char
  | [] => []
  | (name, e) :: rest =>
    member name e.briefly ++ (if rest.isEmpty then [] else [',']) ++ brieflyAll rest
termination_by structural es => es

end

variable {brief : Bool}

theorem entriesOf?_toMembers {es : List (String × Entry)}
    (h : ∀ p ∈ es, ofJson? false (p.2.toValue brief) = some p.2) :
    entriesOf? (toMembers brief es) = some es := by
  induction es
  case nil => rfl
  case cons p es hi =>
    have ⟨hp, h⟩ := List.forall_mem_cons.mp h
    simp [toMembers, entriesOf?, hp, hi h]

theorem ofJson?_toValue (e : Entry) (root : Bool) : ofJson? root (e.toValue brief) = some e := by
  induction e using induct generalizing root
  case file content => rfl
  case directory children hi =>
    have entries := entriesOf?_toMembers fun p mem => hi p mem false
    cases h : brief && children.isEmpty
    case false =>
      simp [toValue, h, ofJson?, Kind.ofMembers?, Kind.ofTag?, childrenOf?, entries]
    case true =>
      have ⟨hb, hc⟩ : brief = true ∧ children = [] := by simpa using h
      subst hb hc
      rfl

theorem memberNesting_toMembers {es : List (String × Entry)} {n : Nat} :
    Json.memberNesting (toMembers brief es) ≤ n ↔ ∀ p ∈ es, (p.2.toValue brief).nesting ≤ n := by
  induction es
  case nil => simp [toMembers, Json.memberNesting]
  case cons p es hi => simp only [toMembers, Json.memberNesting, Nat.max_le, hi, List.forall_mem_cons]

-- The directories below an entry, itself included, that cost more than one level: all of them, or
-- in a brief value those that have children.
def Holds (brief : Bool) (e : Entry) (names : List String) : Prop :=
  ∃ children, FileSystem.descend e names = some (.directory children) ∧ (brief → children ≠ [])

theorem not_holds_file {content : String} {names : List String} :
    ¬(file content).Holds brief names := by
  intro ⟨children, h, _⟩
  cases names <;> cases h

theorem holds_directory_nil {children : List (String × Entry)} :
    (directory children).Holds brief [] ↔ (brief → children ≠ []) := by
  simp [Holds, FileSystem.descend]

theorem holds_directory_cons {children : List (String × Entry)} {name : String} {names : List String}
    (h : NameTable.Ordered children) :
    (directory children).Holds brief (name :: names) ↔
      ∃ p ∈ children, p.1 = name ∧ p.2.Holds brief names := by
  have descend : FileSystem.descend (directory children) (name :: names) =
      (NameTable.get? children name).bind (FileSystem.descend · names) := rfl
  simp only [Holds, descend, Option.bind_eq_some_iff]
  constructor
  case mp =>
    intro ⟨_, ⟨e, he, hd⟩, hc⟩
    exact ⟨(name, e), NameTable.mem_of_get? he, rfl, _, hd, hc⟩
  case mpr =>
    intro ⟨p, hp, hn, _, hd, hc⟩
    exact ⟨_, ⟨p.2, NameTable.get?_of_mem h (hn ▸ hp), hd⟩, hc⟩

theorem not_holds_empty {names : List String} : ¬(directory []).Holds true names := by
  cases names
  case nil => simp [holds_directory_nil]
  case cons name names => simp [holds_directory_cons List.Pairwise.nil]

theorem length_lt_succ_of_holds {children : List (String × Entry)} (h : NameTable.Ordered children)
    {n : Nat} :
    (∀ names, (directory children).Holds brief names → names.length < n + 1) ↔
      ∀ p ∈ children, ∀ names, p.2.Holds brief names → names.length < n := by
  constructor
  case mp =>
    intro hn p hp names hd
    have below := (holds_directory_cons h).mpr ⟨p, hp, rfl, hd⟩
    exact Nat.lt_of_succ_lt_succ (hn (p.1 :: names) below)
  case mpr =>
    intro hn names hd
    cases names
    case nil => exact Nat.succ_pos n
    case cons name names =>
      have ⟨p, hp, _, below⟩ := (holds_directory_cons h).mp hd
      exact Nat.succ_lt_succ (hn p hp names below)

theorem nesting_file (content : String) : ((file content).toValue brief).nesting = 1 := rfl

theorem nesting_directory {children : List (String × Entry)} (h : brief → children ≠ []) :
    ((directory children).toValue brief).nesting =
      Json.memberNesting (toMembers brief children) + 2 := by
  have h : (brief && children.isEmpty) = false := by simpa using h
  simp [toValue, h, Json.nesting, Json.memberNesting]

-- Every directory costs two levels, one for itself and one for its children.
theorem nesting_toValue_le {e : Entry} (h : e.Ordered) (n : Nat) :
    (e.toValue brief).nesting ≤ 2 * n + 1 ↔ ∀ names, e.Holds brief names → names.length < n := by
  induction e using induct generalizing n
  case file content => simp [nesting_file, not_holds_file]
  case directory children hi =>
    have ⟨ho, h⟩ := h
    by_cases hc : brief → children ≠ []
    case neg =>
      have ⟨hb, he⟩ : brief = true ∧ children = [] := by simpa using hc
      subst hb he
      simp [not_holds_empty, toValue, Json.nesting, Json.memberNesting]
    case pos =>
      have root : (directory children).Holds brief [] := holds_directory_nil.mpr hc
      rw [nesting_directory hc]
      cases n
      case zero =>
        constructor
        case mp => omega
        case mpr => exact fun h => absurd (h [] root) (Nat.not_lt_zero _)
      case succ n =>
        have : Json.memberNesting (toMembers brief children) + 2 ≤ 2 * (n + 1) + 1 ↔
            ∀ p ∈ children, (p.2.toValue brief).nesting ≤ 2 * n + 1 := by
          rw [← memberNesting_toMembers]
          omega
        rw [this, length_lt_succ_of_holds ho]
        exact forall₂_congr fun p hp => hi p hp (allOrdered_iff.mp h p hp) n

open Json (Writes)

theorem writes_newLine (depth : Nat) : Writes (newLine depth) [] := by
  refine .spaces fun c mem => ?_
  cases List.mem_cons.mp mem
  case inl h => exact h ▸ rfl
  case inr h => exact List.eq_of_mem_replicate h ▸ rfl

theorem writes_name (name : String) :
    Writes (Json.quote name ++ ": ".toList) [.string name, .colon] :=
  .append (.quote name) (.append .colon (.space rfl))

theorem writes_member {text : List Char} {ts : List Json.Token} (name : String) (h : Writes text ts) :
    Writes (member name text) (.string name :: .colon :: ts) :=
  (writes_name name).append h

theorem writes_pretty_file (content : String) (depth : Nat) :
    Writes ((file content).pretty depth) ((file content).toValue false).tokens := by
  have type : Writes "\"type\": \"file\",".toList [.string "type", .colon, .string "file", .comma] :=
    (writes_member "type" (.quote "file")).append .comma
  have key : Writes "\"content\": ".toList [.string "content", .colon] := writes_name "content"
  have line := writes_newLine (depth + 1)
  exact .append (.append (.append (.append (.append (.append (.append .openBrace line) type) line) key)
    (.quote content)) (writes_newLine depth)) .closeBrace

theorem isEmpty_toMembers (es : List (String × Entry)) : (toMembers brief es).isEmpty = es.isEmpty := by
  cases es <;> rfl

theorem tail_memberTokens (name : String) (e : Entry) (rest : List (String × Entry)) :
    (Json.memberTokens (toMembers brief ((name, e) :: rest))).tail =
      .string name :: .colon :: (e.toValue brief).tokens ++ (if rest.isEmpty then [] else [.comma])
        ++ (Json.memberTokens (toMembers brief rest)).tail := by
  rw [← isEmpty_toMembers rest, List.append_assoc, ← Json.memberTokens_eq]
  rfl

theorem writes_prettyAll {es : List (String × Entry)} {depth : Nat}
    (h : ∀ p ∈ es, Writes (p.2.pretty depth) (p.2.toValue false).tokens) :
    Writes (prettyAll depth es) (Json.memberTokens (toMembers false es)).tail := by
  induction es
  case nil => exact .nil
  case cons p rest hi =>
    have ⟨hp, h⟩ := List.forall_mem_cons.mp h
    have member := ((writes_newLine depth).append (writes_name p.1)).append hp
    rw [tail_memberTokens, prettyAll]
    simpa using (member.append (.separator rest.isEmpty)).append (hi h)

theorem writes_pretty (e : Entry) (depth : Nat) :
    Writes (e.pretty depth) (e.toValue false).tokens := by
  induction e using induct generalizing depth
  case file content => exact writes_pretty_file content depth
  case directory children hi =>
    have type : Writes "\"type\": \"directory\",".toList
        [.string "type", .colon, .string "directory", .comma] :=
      (writes_member "type" (.quote "directory")).append .comma
    have key : Writes "\"children\": \x7b".toList [.string "children", .colon, .openBrace] :=
      .append (writes_name "children") .openBrace
    have line := writes_newLine (depth + 1)
    have all := writes_prettyAll fun p mem => hi p mem (depth + 2)
    have close : Writes (if children.isEmpty then [] else newLine (depth + 1)) [] := by
      cases children.isEmpty
      case true => exact .nil
      case false => exact line
    have h := ((((((Writes.openBrace.append line).append type).append line).append key).append all).append
      close).append ((Writes.closeBrace.append (writes_newLine depth)).append .closeBrace)
    simpa [pretty, toValue, Json.tokens, Json.memberTokens] using h

theorem writes_brieflyAll {es : List (String × Entry)}
    (h : ∀ p ∈ es, Writes p.2.briefly (p.2.toValue true).tokens) :
    Writes (brieflyAll es) (Json.memberTokens (toMembers true es)).tail := by
  induction es
  case nil => exact .nil
  case cons p rest hi =>
    have ⟨hp, h⟩ := List.forall_mem_cons.mp h
    have member := writes_member p.1 hp
    rw [tail_memberTokens, brieflyAll]
    simpa using (member.append (.separator rest.isEmpty)).append (hi h)

theorem writes_briefly (e : Entry) : Writes e.briefly (e.toValue true).tokens := by
  have next : Writes ", ".toList [.comma] := .append .comma (.space rfl)
  induction e using induct
  case file content =>
    have type := writes_member "type" (.quote "file")
    have content := writes_member "content" (.quote content)
    have h := (((Writes.openBrace.append type).append next).append content).append .closeBrace
    simpa [briefly, toValue, Json.tokens, Json.memberTokens] using h
  case directory children hi =>
    have type := writes_member "type" (.quote "directory")
    cases children
    case nil =>
      have h := (Writes.openBrace.append type).append .closeBrace
      simpa [briefly, toValue, Json.tokens, Json.memberTokens] using h
    case cons child rest =>
      have all := (Writes.openBrace.append (writes_brieflyAll hi)).append .closeBrace
      have children := next.append (writes_member "children" all)
      have h := ((Writes.openBrace.append type).append children).append .closeBrace
      simpa [briefly, toValue, Json.tokens, Json.memberTokens] using h

def chain : Nat → Entry
  | 0 => .directory []
  | n + 1 => .directory [("", chain n)]

theorem ordered_chain (n : Nat) : (chain n).Ordered := by
  induction n
  case zero => exact ⟨NameTable.ordered_nil, trivial⟩
  case succ n hi => exact ⟨List.pairwise_singleton .., hi, trivial⟩

theorem nesting_chain (brief : Bool) (n : Nat) :
    ((chain n).toValue brief).nesting = 2 * n + if brief then 1 else 2 := by
  induction n
  case zero => cases brief <;> rfl
  case succ n hi =>
    have : ((directory [("", chain n)]).toValue brief).nesting = _ := nesting_directory fun _ => nofun
    rw [chain, this]
    simp only [toMembers, Json.memberNesting, hi]
    omega

end Entry

namespace FileSystem

def DirectoriesWithin (fs : FileSystem) (levels : Nat) : Prop :=
  ∀ names children, descend fs.root names = some (.directory children) → names.length ≤ levels

def toBriefJson (fs : FileSystem) : String := String.ofList fs.root.briefly

theorem ofJson_of_writes {fs : FileSystem} {text : List Char} {brief : Bool}
    (h : Json.Writes text (fs.root.toValue brief).tokens) :
    ofJson (String.ofList text) =
      if (fs.root.toValue brief).nesting ≤ Json.maxDepth then .ok fs else .error .malformed := by
  have same : ofRoot? fs.root = some fs := by
    have ⟨root, directory, ordered⟩ := fs
    simp [ofRoot?, directory, Entry.normalize_of_ordered ordered]
  rw [ofJson, Json.read?_of_writes h]
  by_cases deep : (fs.root.toValue brief).nesting ≤ Json.maxDepth
  case pos => simp [deep, Entry.ofJson?_toValue, same]
  case neg => simp [deep]

theorem nesting_le_iff (fs : FileSystem) :
    (fs.root.toValue false).nesting ≤ Json.maxDepth ↔ fs.DirectoriesWithin 62 := by
  have h : (fs.root.toValue false).nesting ≤ 2 * 63 + 1 ↔ _ := Entry.nesting_toValue_le fs.ordered 63
  rw [Json.maxDepth, h]
  constructor
  case mp => exact fun h names children hd => Nat.le_of_lt_succ (h names ⟨children, hd, nofun⟩)
  case mpr =>
    intro h names ⟨children, hd, _⟩
    exact Nat.lt_succ_of_le (h names children hd)

-- The last tree can be read, since its text does not mention the children of the last directory,
-- but not once it is written again.
theorem ofJson_toJson :
    (∀ fs : FileSystem, ofJson fs.toJson = .ok fs ↔ fs.DirectoriesWithin 62) ∧
      (∀ fs : FileSystem, ¬fs.DirectoriesWithin 62 → ofJson fs.toJson = .error .malformed) ∧
      ∃ fs : FileSystem, ofJson fs.toBriefJson = .ok fs ∧ ofJson fs.toJson = .error .malformed := by
  have written (fs : FileSystem) := ofJson_of_writes (fs.root.writes_pretty 0)
  refine ⟨fun fs => ?_, fun fs h => ?_, ?_⟩
  · rw [toJson, written, ← nesting_le_iff]
    split <;> simp_all
  · rw [toJson, written, if_neg (mt fs.nesting_le_iff.mp h)]
  · let fs : FileSystem := ⟨Entry.chain 63, rfl, Entry.ordered_chain 63⟩
    have brief : ofJson fs.toBriefJson = _ := ofJson_of_writes fs.root.writes_briefly
    refine ⟨fs, ?_, ?_⟩
    · rw [brief, Entry.nesting_chain]
      rfl
    · rw [toJson, written, Entry.nesting_chain]
      rfl

end FileSystem

end VirtualShell
