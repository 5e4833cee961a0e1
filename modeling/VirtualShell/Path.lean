import VirtualShell.Text.Blank

namespace VirtualShell.Path

def segments (path : String) : List String :=
  (Text.fields (· = '/') path.toList).map String.ofList

theorem mem_segments {path part : String} (h : part ∈ segments path) :
    part ≠ "" ∧ '/' ∉ part.toList ∧ ∀ c ∈ part.toList, c ∈ path.toList := by
  have ⟨w, hw, hp⟩ := List.mem_map.mp h
  subst hp
  have mem := Text.mem_fields hw
  refine ⟨?_, ?_, ?_⟩
  · simpa using Text.ne_nil_of_mem_fields hw
  · intro slash
    have := (mem _ (by simpa using slash)).left
    simp at this
  · intro c hc
    exact (mem c (by simpa using hc)).right

structure IsSegment (name : String) : Prop where
  ne    : name ≠ ""
  slash : '/' ∉ name.toList
  plain : name ≠ "." ∧ name ≠ ".."

theorem isSegment_iff {name : String} :
    IsSegment name ↔ name ≠ "" ∧ '/' ∉ name.toList ∧ name ≠ "." ∧ name ≠ ".." :=
  ⟨fun ⟨ne, slash, plain⟩ => ⟨ne, slash, plain⟩, fun ⟨ne, slash, plain⟩ => ⟨ne, slash, plain⟩⟩

instance (name : String) : Decidable (IsSegment name) :=
  decidable_of_iff _ isSegment_iff.symm

namespace IsSegment

variable {name : String}

theorem fields_eq (h : IsSegment name) : Text.fields (· = '/') name.toList = [name.toList] := by
  refine Text.fields_eq_singleton (mt String.toList_eq_nil_iff.mp h.ne) fun c hc => ?_
  simp only [decide_eq_false_iff_not]
  rintro rfl
  exact h.slash hc

theorem segments_eq (h : IsSegment name) : segments name = [name] := by
  simp [segments, h.fields_eq]

end IsSegment

def ofSegments (parts : List String) : String := "/" ++ "/".intercalate parts

theorem toList_ofSegments (parts : List String) :
    (ofSegments parts).toList = '/' :: ['/'].intercalate (parts.map String.toList) := by
  simp [ofSegments]

theorem segments_ofSegments {parts : List String} (h : ∀ part ∈ parts, IsSegment part) :
    segments (ofSegments parts) = parts := by
  suffices Text.fields (· = '/') (['/'].intercalate (parts.map String.toList)) = parts.map String.toList by
    rw [segments, toList_ofSegments, Text.fields_cons _ (by simp), this]
    simp
  induction parts
  case nil => rfl
  case cons part parts hi =>
    have single := (h part (.head _)).fields_eq
    replace hi := hi fun p hp => h p (.tail _ hp)
    cases parts
    case nil => simpa using single
    case cons next parts =>
      simp only [List.map_cons, List.intercalate_cons_cons] at hi ⊢
      rw [List.append_assoc, List.singleton_append, Text.fields_append_cons _ _ (by simp), single, hi]
      rfl

theorem ofSegments_append {parts : List String} (ne : parts ≠ []) (part : String) (more : List String) :
    ofSegments (parts ++ part :: more) = ofSegments parts ++ "/" ++ "/".intercalate (part :: more) := by
  suffices "/".intercalate (parts ++ part :: more) = "/".intercalate parts ++ "/" ++ "/".intercalate (part :: more) by
    simp only [ofSegments, this, String.append_assoc]
  induction parts
  case nil => contradiction
  case cons first parts hi =>
    cases parts
    case nil => simp [String.intercalate_cons_cons]
    case cons next parts =>
      have later := hi nofun
      simp only [List.cons_append, String.intercalate_cons_cons] at later ⊢
      simp only [later, String.append_assoc]

theorem segments_join (front rest : String) :
    segments (front ++ "/" ++ rest) = segments front ++ segments rest := by
  have text : (front ++ "/" ++ rest).toList = front.toList ++ '/' :: rest.toList := by simp
  rw [segments, text, Text.fields_append_cons _ _ (by simp), List.map_append]
  rfl

theorem mem_ofSegments {parts : List String} {c : Char} (h : c ∈ (ofSegments parts).toList) :
    c = '/' ∨ ∃ part ∈ parts, c ∈ part.toList := by
  rw [ofSegments, String.toList_append] at h
  cases List.mem_append.mp h
  case inl h => exact .inl (by simpa using h)
  case inr h => exact (Text.mem_intercalate h).imp_left fun h => by simpa using h

-- One step down, up or nowhere. A step up from the root stays there.
def walk (parts : List String) (segment : String) : List String :=
  if segment = ".." then parts.dropLast
  else if segment = "." then parts
  else parts ++ [segment]

theorem mem_walk {parts : List String} {segment part : String} (h : part ∈ walk parts segment) :
    part ∈ parts ∨ part = segment ∧ part ≠ "." ∧ part ≠ ".." := by
  unfold walk at h
  split at h
  case isTrue => exact .inl (List.dropLast_subset _ h)
  case isFalse up =>
    split at h
    case isTrue => exact .inl h
    case isFalse here =>
      cases List.mem_append.mp h
      case inl h => exact .inl h
      case inr h =>
        cases List.mem_singleton.mp h
        exact .inr ⟨rfl, here, up⟩

theorem mem_foldl_walk {parts segs : List String} {part : String} (h : part ∈ segs.foldl walk parts) :
    part ∈ parts ∨ part ∈ segs ∧ part ≠ "." ∧ part ≠ ".." := by
  induction segs generalizing parts
  case nil => exact .inl h
  case cons seg segs hi =>
    cases hi h
    case inl h => exact (mem_walk h).imp_right fun ⟨eq, plain⟩ => ⟨eq ▸ .head _, plain⟩
    case inr h => exact .inr ⟨.tail _ h.left, h.right⟩

theorem foldl_walk_of_plain {segs : List String} (parts : List String)
    (h : ∀ seg ∈ segs, seg ≠ "." ∧ seg ≠ "..") : segs.foldl walk parts = parts ++ segs := by
  induction segs generalizing parts
  case nil => simp
  case cons seg segs hi =>
    have ⟨⟨here, up⟩, rest⟩ := List.forall_mem_cons.mp h
    simp [walk, here, up, hi _ rest]

theorem IsSegment.of_mem_foldl_walk {path part : String} (h : part ∈ (segments path).foldl walk []) :
    IsSegment part := by
  have ⟨mem, plain⟩ := (mem_foldl_walk h).resolve_left (by simp)
  have ⟨ne, slash, _⟩ := mem_segments mem
  exact ⟨ne, slash, plain⟩

def isAbsolute (path : String) : Bool := path.toList.head? = some '/'

theorem IsSegment.isAbsolute_eq {name : String} (h : IsSegment name) : isAbsolute name = false := by
  simp only [isAbsolute, decide_eq_false_iff_not]
  exact fun slash => h.slash (List.mem_of_mem_head? slash)

theorem isAbsolute_ofSegments (parts : List String) : isAbsolute (ofSegments parts) := by
  simp [isAbsolute, toList_ofSegments]

theorem isAbsolute_join {front : String} (ne : front ≠ "") (rest : String) :
    isAbsolute (front ++ "/" ++ rest) = isAbsolute front := by
  have ⟨c, cs, eq⟩ := List.exists_cons_of_ne_nil (mt String.toList_eq_nil_iff.mp ne)
  simp [isAbsolute, eq]

-- The canonical path of an input read from a base. Whether it exists is not asked.
def canonicalize (base input : String) : String :=
  let path := if isAbsolute input then input else base ++ "/" ++ input
  ofSegments ((segments path).foldl walk [])

-- A canonical path is `/`, or `/`-joined segments of which none is empty, `.` or `..`. It need not
-- lead anywhere.
structure Canonical (path : String) : Prop where
  eq_ofSegments : path = ofSegments (segments path)
  plain : ∀ part ∈ segments path, part ≠ "." ∧ part ≠ ".."

theorem Canonical.of_segments {parts : List String} (h : ∀ part ∈ parts, IsSegment part) :
    Canonical (ofSegments parts) := by
  have hs := segments_ofSegments h
  constructor
  · rw [hs]
  · rw [hs]
    exact fun part hp => (h part hp).plain

theorem canonical_root : Canonical "/" :=
  have : Canonical (ofSegments []) := .of_segments nofun
  this

theorem canonical_canonicalize (base input : String) : Canonical (canonicalize base input) :=
  .of_segments fun _ => .of_mem_foldl_walk

namespace Canonical

variable {path other : String}

theorem isAbsolute (h : Canonical path) : isAbsolute path :=
  h.eq_ofSegments ▸ isAbsolute_ofSegments _

theorem ext (h : Canonical path) (ho : Canonical other) (eq : segments path = segments other) : path = other :=
  calc path = ofSegments (segments path)  := h.eq_ofSegments
    _       = ofSegments (segments other) := congrArg ofSegments eq
    _       = other                       := ho.eq_ofSegments.symm

end Canonical

theorem mem_canonicalize {base input : String} {c : Char} (h : c ∈ (canonicalize base input).toList) :
    c = '/' ∨ c ∈ base.toList ∨ c ∈ input.toList := by
  cases mem_ofSegments h
  case inl h => exact .inl h
  case inr h =>
    have ⟨part, hp, hc⟩ := h
    have ⟨mem, _⟩ := (mem_foldl_walk hp).resolve_left (by simp)
    replace hc := (mem_segments mem).right.right c hc
    split at hc
    case isTrue => exact .inr (.inr hc)
    case isFalse =>
      simp at hc
      exact hc.elim (.inr ∘ .inl) (·.imp_right .inr)

def trimSlashes (path : String) : String :=
  String.ofList (path.toList.reverse.dropWhile (· = '/')).reverse

theorem toList_eq_trimSlashes (path : String) :
    ∃ n, path.toList = (trimSlashes path).toList ++ List.replicate n '/' := by
  have slashes : path.toList.reverse.takeWhile (· = '/') =
      List.replicate (path.toList.reverse.takeWhile (· = '/')).length '/' := by
    refine List.eq_replicate_of_mem fun c hc => ?_
    simpa using List.all_eq_true.mp List.all_takeWhile c hc
  have whole := congrArg List.reverse (List.takeWhile_append_dropWhile (p := (· = '/')) (l := path.toList.reverse))
  rw [List.reverse_append, List.reverse_reverse, slashes, List.reverse_replicate] at whole
  exact ⟨_, by simpa [trimSlashes] using whole.symm⟩

theorem segments_trimSlashes (path : String) : segments (trimSlashes path) = segments path := by
  have ⟨n, eq⟩ := toList_eq_trimSlashes path
  have slashes : ∀ c ∈ List.replicate n '/', decide (c = '/') = true := by simp
  rw [segments, segments, eq, Text.fields_append_of_forall _ slashes]

theorem isAbsolute_trimSlashes_join {path : String} (h : isAbsolute path) (rest : String) :
    isAbsolute (trimSlashes path ++ "/" ++ rest) := by
  have ⟨n, eq⟩ := toList_eq_trimSlashes path
  cases ht : (trimSlashes path).toList
  case nil => simp [isAbsolute, ht]
  case cons c cs => simpa [isAbsolute, ht, eq] using h

-- Puts the home directory in place of a leading `~` segment. `~name` is left alone.
def expandHome (input home : String) : String :=
  match input.toList with
  | ['~'] => home
  | '~' :: '/' :: rest => trimSlashes home ++ "/" ++ String.ofList rest
  | _ => input

theorem mem_trimSlashes {path : String} {c : Char} (h : c ∈ (trimSlashes path).toList) :
    c ∈ path.toList := by
  simp only [trimSlashes, String.toList_ofList, List.mem_reverse] at h
  simpa using (List.dropWhile_sublist _).subset h

theorem mem_expandHome {input home : String} {c : Char} (h : c ∈ (expandHome input home).toList) :
    c = '/' ∨ c ∈ input.toList ∨ c ∈ home.toList := by
  unfold expandHome at h
  split at h
  case h_1 => exact .inr (.inr h)
  case h_2 rest hi =>
    simp only [String.toList_append, String.toList_ofList, List.mem_append] at h
    cases h
    case inl h =>
      cases h
      case inl h => exact .inr (.inr (mem_trimSlashes h))
      case inr h => exact .inl (by simpa using h)
    case inr h => exact .inr (.inl (hi ▸ .tail _ (.tail _ h)))
  case h_3 => exact .inr (.inl h)

def basename (path : String) : String := (segments path).getLast?.getD "/"

theorem getLast?_segments {path : String} (h : segments path ≠ []) :
    (segments path).getLast? = some (basename path) := by
  rw [basename, List.getLast?_eq_some_getLast h]
  rfl

theorem mem_basename {path : String} {c : Char} (h : c ∈ (basename path).toList) :
    c = '/' ∨ c ∈ path.toList := by
  unfold basename at h
  cases hl : (segments path).getLast?
  case none => simp [hl] at h; exact .inl h
  case some part =>
    rw [hl] at h
    exact .inr ((mem_segments (List.mem_of_getLast? hl)).right.right c h)

end VirtualShell.Path
