import VirtualShell.Proofs.CanonicalPath
import VirtualShell.Proofs.Operand

namespace VirtualShell

namespace Path

theorem expandHome_of_isAbsolute {path : String} (h : isAbsolute path) (home : String) :
    expandHome path home = path := by
  have slash : path.toList.head? = some '/' := by simpa [isAbsolute] using h
  unfold expandHome
  split
  case h_1 eq => simp [eq] at slash
  case h_2 eq => simp [eq] at slash
  case h_3 => rfl

theorem expandHome_tilde (home : String) : expandHome "~" home = home :=
  rfl

theorem expandHome_below (rest home : String) :
    expandHome ("~/" ++ rest) home = trimSlashes home ++ "/" ++ rest := by
  simp [expandHome]

theorem canonicalize_expandHome_below {home rest : String} (h : Canonical (home ++ "/" ++ rest)) (ne : home ≠ "")
    (base : String) : canonicalize base (expandHome ("~/" ++ rest) home) = home ++ "/" ++ rest := by
  have absolute : isAbsolute home := isAbsolute_join ne rest ▸ h.isAbsolute
  refine (canonical_canonicalize _ _).ext h ?_
  rw [expandHome_below, segments_canonicalize, origin, if_pos (isAbsolute_trimSlashes_join absolute rest),
    segments_join, segments_trimSlashes, ← segments_join, h.foldl_walk]

end Path

namespace Session

section

variable {home : String} (ne : home ≠ "") (root : home ≠ "/")
include ne root

theorem shorten_append (tail : List Char) : shorten (some home) (home ++ String.ofList tail) =
    match tail with
    | [] => "~"
    | '/' :: rest => "~/" ++ String.ofList rest
    | _ => home ++ String.ofList tail := by
  have front : home.toList.isPrefixOf (home ++ String.ofList tail).toList := by simp
  have rest : (home ++ String.ofList tail).toList.drop home.length = tail := by
    rw [String.toList_append, String.toList_ofList, ← String.length_toList, List.drop_left]
  refine (if_neg (not_or.mpr ⟨ne, root⟩)).trans ((if_pos front).trans ?_)
  generalize (home ++ String.ofList tail).toList.drop home.length = behind at rest ⊢
  subst rest
  rfl

theorem shorten_self : shorten (some home) home = "~" := by
  simpa using shorten_append ne root []

theorem shorten_join (rest : String) : shorten (some home) (home ++ "/" ++ rest) = "~/" ++ rest := by
  have split : home ++ "/" ++ rest = home ++ String.ofList ('/' :: rest.toList) := by simp [← String.toList_inj]
  rw [split, shorten_append ne root]
  simp

end

theorem shorten_cases (home : Option String) (path : String) :
    shorten home path = path ∨ (home = some path ∧ shorten home path = "~") ∨
      ∃ front rest, home = some front ∧ front ≠ "" ∧ path = front ++ "/" ++ rest ∧
        shorten home path = "~/" ++ rest := by
  cases home
  case none => exact .inl rfl
  case some front =>
    by_cases plain : front = "" ∨ front = "/"
    case pos => exact .inl (by simp [shorten, plain])
    case neg =>
      have ⟨ne, root⟩ := not_or.mp plain
      by_cases hp : front.toList <+: path.toList
      case neg => exact .inl (by simp [shorten, plain, hp])
      case pos =>
        have ⟨tail, eq⟩ := hp
        have eq : path = front ++ String.ofList tail := by simp [← String.toList_inj, eq]
        subst eq
        have short := shorten_append ne root tail
        split at short
        case h_1 => exact .inr (.inl ⟨by simp, short⟩)
        case h_2 rest => exact .inr (.inr ⟨front, String.ofList rest, rfl, ne, by simp [← String.toList_inj], short⟩)
        case h_3 => exact .inl short

theorem canonicalize_expandHome_shorten {path : String} (h : Path.Canonical path) (home : Option String)
    (base : String) : Path.canonicalize base (Path.expandHome (shorten home path) (home.getD "/")) = path := by
  rcases shorten_cases home path with short | ⟨rfl, short⟩ | ⟨front, rest, rfl, ne, rfl, short⟩
  case inl => rw [short, Path.expandHome_of_isAbsolute h.isAbsolute, h.canonicalize_eq]
  case inr.inl => rw [short, Path.expandHome_tilde, Option.getD_some, h.canonicalize_eq]
  case inr.inr => rw [short, Option.getD_some, Path.canonicalize_expandHome_below h ne]

-- Names of siblings that begin like the home directory's do not count.
theorem shorten_tilde_iff {home path : String} (hh : Path.Canonical home) (root : home ≠ "/")
    (hp : Path.Canonical path) : (shorten (some home) path).toList.head? = some '~' ↔
      Path.segments home <+: Path.segments path := by
  have slash : path.toList.head? = some '/' := by simpa [Path.isAbsolute] using hp.isAbsolute
  constructor
  case mp =>
    intro tilde
    rcases shorten_cases (some home) path with short | ⟨same, _⟩ | ⟨front, rest, same, _, below, _⟩
    case inl => simp [short, slash] at tilde
    case inr.inl => cases same; exact List.prefix_refl _
    case inr.inr =>
      cases same
      rw [below, Path.segments_join]
      exact List.prefix_append ..
  case mpr =>
    rintro ⟨more, eq⟩
    have ne : home ≠ "" := fun empty => by simpa [empty, Path.isAbsolute] using hh.isAbsolute
    have inside : Path.segments home ≠ [] := fun none => root (hh.eq_ofSegments.trans (congrArg _ none))
    cases more
    case nil =>
      have same : path = home := hp.ext hh (by simpa using eq.symm)
      simp [same, shorten_self ne root]
    case cons part more =>
      have below : path = home ++ "/" ++ "/".intercalate (part :: more) := by
        rw [hp.eq_ofSegments, ← eq, Path.ofSegments_append inside, ← hh.eq_ofSegments]
      simp [below, shorten_join ne root]

variable {s : Session}

theorem canonicalize_expandHome_shortCwd (canonical : Path.Canonical s.cwd) (base : String) :
    Path.canonicalize base (Path.expandHome s.shortCwd (Command.home s.env)) = s.cwd :=
  canonicalize_expandHome_shorten canonical (s.env.get? "HOME") base

theorem home_eq {t : Session} (h : t.env.get? "HOME" = s.env.get? "HOME") :
    Command.home t.env = Command.home s.env :=
  congrArg (·.getD "/") h

theorem execute_cd_shortCwd (canonical : Path.Canonical s.cwd) {t : Session}
    (home : t.env.get? "HOME" = s.env.get? "HOME") (hd : t.fs.isDirectory s.cwd) :
    (Command.cd (some s.shortCwd)).execute t.context t.env = (t.env, { newCwd := some s.cwd }) := by
  have target : Command.target t.context t.env s.shortCwd = s.cwd := by
    rw [Command.target, home_eq home, canonicalize_expandHome_shortCwd canonical]
  have ⟨children, hr⟩ := FileSystem.isDirectory_iff.mp hd
  have hr : t.context.fs.resolve (Command.target t.context t.env s.shortCwd) = some (.directory children) :=
    target.symm ▸ hr
  have ⟨_, _, cd⟩ := Command.answers_of_directory hr
  rw [Command.execute_cd, cd, target]

theorem shortCwd_leads_back (s : Session) (canonical : Path.Canonical s.cwd) :
    (∀ base, Path.canonicalize base (Path.expandHome s.shortCwd (Command.home s.env)) = s.cwd) ∧
    (∀ t : Session, t.env.get? "HOME" = s.env.get? "HOME" →
      (Path.Canonical t.cwd → t.shortCwd = s.shortCwd → t.cwd = s.cwd) ∧
      (t.fs.isDirectory s.cwd →
        (Command.cd (some s.shortCwd)).execute t.context t.env = (t.env, { newCwd := some s.cwd }))) ∧
    ∀ home, s.env.get? "HOME" = some home → Path.Canonical home → home ≠ "/" →
      (s.shortCwd.toList.head? = some '~' ↔ Path.segments home <+: Path.segments s.cwd) := by
  refine ⟨canonicalize_expandHome_shortCwd canonical, fun t same => ⟨fun ht short => ?_, execute_cd_shortCwd canonical same⟩,
    fun home set hh root => ?_⟩
  case refine_1 =>
    have there := canonicalize_expandHome_shortCwd ht "/"
    rw [short, home_eq same] at there
    exact there.symm.trans (canonicalize_expandHome_shortCwd canonical "/")
  case refine_2 =>
    rw [shortCwd, set]
    exact shorten_tilde_iff hh root canonical

theorem shortCwd_leads_back_below :
    let s := new { home := "/project", cwd := "/project/workspace/src" }
    let t := (s.run "cd /").1
    let sibling := new { home := "/project/work" }
    Path.Canonical s.cwd ∧ t.env.get? "HOME" = s.env.get? "HOME" ∧ t.fs.isDirectory s.cwd ∧
      s.shortCwd = "~/workspace/src" ∧
      (Command.cd (some s.shortCwd)).execute t.context t.env = (t.env, { newCwd := some s.cwd }) ∧
      s.env.get? "HOME" = some "/project" ∧ Path.Canonical "/project" ∧
      Path.segments "/project" <+: Path.segments s.cwd ∧
      Path.Canonical sibling.cwd ∧ sibling.shortCwd = "/project/workspace" ∧
      ¬Path.segments "/project/work" <+: Path.segments sibling.cwd := by
  intro s t sibling
  have canonical : Path.Canonical s.cwd := ⟨by decide +kernel, by decide +kernel⟩
  have beside : Path.Canonical sibling.cwd := ⟨by decide +kernel, by decide +kernel⟩
  have project : Path.Canonical "/project" := ⟨by decide +kernel, by decide +kernel⟩
  have work : Path.Canonical "/project/work" := ⟨by decide +kernel, by decide +kernel⟩
  have same : t.env.get? "HOME" = s.env.get? "HOME" := by decide +kernel
  have directory : t.fs.isDirectory s.cwd := by decide +kernel
  have set : s.env.get? "HOME" = some "/project" := by decide +kernel
  have short : s.shortCwd = "~/workspace/src" := by decide +kernel
  have long : sibling.shortCwd = "/project/workspace" := by decide +kernel
  have ⟨_, others, below⟩ := shortCwd_leads_back s canonical
  have ⟨_, _, apart⟩ := shortCwd_leads_back sibling beside
  have ancestor := (below _ set project (by decide)).mp (by rw [short]; decide)
  have none := mt (apart "/project/work" (by decide +kernel) work (by decide)).mpr (by rw [long]; decide)
  exact ⟨canonical, same, directory, short, (others t same).right directory, set, project, ancestor,
    beside, long, none⟩

end Session

end VirtualShell
