import VirtualShell.Path

namespace VirtualShell.Path

-- The segments that an input is read behind.
def origin (base input : String) : List String :=
  if isAbsolute input then [] else (segments base).foldl walk []

theorem origin_root (input : String) : origin "/" input = [] := by
  unfold origin
  split
  · rfl
  · rfl

theorem segments_canonicalize (base input : String) :
    segments (canonicalize base input) = (segments input).foldl walk (origin base input) := by
  have parts (path : String) : segments (ofSegments ((segments path).foldl walk [])) = (segments path).foldl walk [] :=
    segments_ofSegments fun _ => .of_mem_foldl_walk
  rw [canonicalize, parts, origin]
  split
  · rfl
  · rw [segments_join, List.foldl_append]

theorem segments_canonicalize_root (input : String) :
    segments (canonicalize "/" input) = (segments input).foldl walk [] := by
  rw [segments_canonicalize, origin_root]

namespace Canonical

variable {path name : String}

theorem foldl_walk (h : Canonical path) : (segments path).foldl walk [] = segments path :=
  foldl_walk_of_plain [] h.plain

theorem origin_eq (h : Canonical path) {input : String} (relative : Path.isAbsolute input = false) :
    origin path input = segments path := by
  rw [origin, relative, h.foldl_walk]
  rfl

theorem canonicalize_eq (h : Canonical path) (base : String) : canonicalize base path = path := by
  refine (canonical_canonicalize base path).ext h ?_
  rw [segments_canonicalize, origin, if_pos h.isAbsolute, h.foldl_walk]

theorem isSegment (h : Canonical path) (mem : name ∈ segments path) : IsSegment name :=
  have ⟨ne, slash, _⟩ := mem_segments mem
  ⟨ne, slash, h.plain name mem⟩

theorem segments_down (h : Canonical path) (hn : IsSegment name) :
    segments (canonicalize path name) = segments path ++ [name] := by
  have ⟨here, up⟩ := hn.plain
  rw [segments_canonicalize, hn.segments_eq, h.origin_eq hn.isAbsolute_eq]
  simp [walk, here, up]

theorem segments_down_iff (h : Canonical path) :
    segments (canonicalize path name) = segments path ++ [name] ↔ IsSegment name := by
  refine ⟨fun below => ?_, h.segments_down⟩
  exact (canonical_canonicalize path name).isSegment (by simp [below])

theorem canonicalize_empty (h : Canonical path) : canonicalize path "" = path := by
  refine (canonical_canonicalize path "").ext h ?_
  rw [segments_canonicalize, h.origin_eq (by decide)]
  rfl

theorem canonicalize_here (h : Canonical path) : canonicalize path "." = path := by
  refine (canonical_canonicalize path ".").ext h ?_
  rw [segments_canonicalize, h.origin_eq (by decide)]
  rfl

theorem segments_eq_nil_iff (h : Canonical path) : segments path = [] ↔ path = "/" := by
  constructor
  case mp => exact fun none => h.ext canonical_root none
  case mpr =>
    rintro rfl
    rfl

theorem segments_up (h : Canonical path) : segments (canonicalize path "..") = (segments path).dropLast := by
  rw [segments_canonicalize, h.origin_eq (by decide)]
  rfl

theorem segments_eq_up_concat (h : Canonical path) (root : path ≠ "/") :
    segments path = segments (canonicalize path "..") ++ [basename path] := by
  have ne : segments path ≠ [] := mt h.segments_eq_nil_iff.mp root
  have last : (segments path).getLast ne = basename path := by
    rw [basename, List.getLast?_eq_some_getLast ne, Option.getD_some]
  rw [h.segments_up, ← last, List.dropLast_concat_getLast ne]

theorem canonicalize_up_basename (h : Canonical path) (root : path ≠ "/") :
    canonicalize (canonicalize path "..") (basename path) = path := by
  have parts := h.segments_eq_up_concat root
  have name : IsSegment (basename path) := h.isSegment (by rw [parts]; simp)
  refine (canonical_canonicalize _ _).ext h ?_
  rw [(canonical_canonicalize path "..").segments_down name, ← parts]

theorem canonicalize_root_up : canonicalize "/" ".." = "/" :=
  (canonical_canonicalize "/" "..").ext canonical_root canonical_root.segments_up

end Canonical

theorem canonicalize_canonical_base (base input : String) :
    canonicalize (canonicalize "/" base) input = canonicalize base input := by
  refine (canonical_canonicalize _ _).ext (canonical_canonicalize _ _) ?_
  have same : origin (canonicalize "/" base) input = origin base input := by
    rw [origin, (canonical_canonicalize "/" base).foldl_walk, segments_canonicalize_root, origin]
  rw [segments_canonicalize, segments_canonicalize, same]

theorem canonicalize_join (base : String) {front rest : String} (ne : front ≠ "")
    (relative : isAbsolute rest = false) :
    canonicalize base (front ++ "/" ++ rest) = canonicalize (canonicalize base front) rest := by
  refine (canonical_canonicalize _ _).ext (canonical_canonicalize _ _) ?_
  -- whether the input is absolute shows in its first part
  have same : origin base (front ++ "/" ++ rest) = origin base front := by
    rw [origin, isAbsolute_join ne, origin]
  calc segments (canonicalize base (front ++ "/" ++ rest))
    _ = (segments rest).foldl walk ((segments front).foldl walk (origin base front)) := by
      rw [segments_canonicalize, segments_join, List.foldl_append, same]
    _ = (segments rest).foldl walk (segments (canonicalize base front)) := by
      rw [segments_canonicalize base front]
    _ = segments (canonicalize (canonicalize base front) rest) := by
      rw [segments_canonicalize _ rest, (canonical_canonicalize base front).origin_eq relative]

theorem canonicalize_normal_form :
    (∀ base input, Canonical (canonicalize base input)) ∧
    (∀ base path, Canonical path → canonicalize base path = path) ∧
    (∀ base input, canonicalize base input = canonicalize (canonicalize "/" base) input) ∧
    ∀ base front rest, front ≠ "" → isAbsolute rest = false →
      canonicalize base (front ++ "/" ++ rest) = canonicalize (canonicalize base front) rest :=
  ⟨canonical_canonicalize, fun base _ h => h.canonicalize_eq base,
    fun base input => (canonicalize_canonical_base base input).symm,
    fun base _ _ ne relative => canonicalize_join base ne relative⟩

theorem canonicalize_normal_form_climbing :
    Canonical "/c" ∧ canonicalize "a//b/" "/c" = "/c" ∧
      ("../../.." ≠ "" ∧ isAbsolute "../c/./" = false) ∧
      canonicalize "a/../b" ("../../.." ++ "/" ++ "../c/./") = "/c" ∧
      canonicalize (canonicalize "a/../b" "../../..") "../c/./" = "/c" := by
  have ⟨canonical, fixed, _, join⟩ := canonicalize_normal_form
  have once : canonicalize "a/../b" ("../../.." ++ "/" ++ "../c/./") = "/c" := by decide +kernel
  have plain : Canonical "/c" := once ▸ canonical ..
  have ne : "../../.." ≠ "" := by decide
  have relative : isAbsolute "../c/./" = false := by decide
  exact ⟨plain, fixed _ _ plain, ⟨ne, relative⟩, once, (join _ _ _ ne relative).symm.trans once⟩

end VirtualShell.Path
