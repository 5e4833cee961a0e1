import VirtualShell.Proofs.Call
import VirtualShell.Proofs.CommandText

namespace VirtualShell

open Alphabet

variable {A : Alphabet}

def Key.Over (A : Alphabet) : Key → Prop
  | .char c => A.Has c
  | _ => True

namespace Session

structure Over (A : Alphabet) (s : Session) : Prop where
  env     : s.env.Over A
  cwd     : A.Spells s.cwd
  host    : A.Spells s.host
  history : s.history.Over A
  line    : s.line.Over A

structure Options.Over (A : Alphabet) (o : Options) : Prop where
  user : A.Spells o.user
  host : A.Spells o.host
  home : A.Spells o.home
  cwd  : A.Spells o.cwd
  env  : ∀ p ∈ o.env, A.Spells p.1 ∧ A.Spells p.2

variable {s : Session}

theorem Options.Over.startDirectory {o : Options} (h : o.Over A) : A.Spells o.startDirectory := by
  unfold Options.startDirectory
  have root : A.Spells "/" := spells_ascii rfl
  have path := root.canonicalize h.cwd
  dsimp only
  split
  case isTrue => exact path
  case isFalse => exact root

theorem over_new {o : Options} (h : o.Over A) : (new o).Over A := by
  have env := (Environment.over_seeded h.user h.host h.home h.startDirectory).overlay h.env
  have cwd : A.Spells (new o).cwd := by
    dsimp only [new]
    exact h.startDirectory
  exact ⟨env, cwd, h.host, History.over_ofCapacity _, Line.over_empty⟩

-- A line of output as it is shown: its characters, with returns before the line breaks.
theorem terminalLine_eq {line : OutputLine} (h : line.Over A) :
    ∃ body, terminalLine line.plain = body ++ newLine ∧
      ∀ c ∈ body.toList, A.Has c ∨ c = '\r' ∨ c = '\n' := by
  refine ⟨_, rfl, fun c hc => ?_⟩
  rw [String.toList_ofList] at hc
  have ⟨d, hd, hc⟩ := List.mem_flatMap.mp hc
  have hd : d ∈ line.plain.toList := by
    split at hd
    · exact List.dropLast_subset _ hd
    · exact hd
  split at hc
  case isTrue => exact .inr (by simpa using hc)
  case isFalse ne =>
    cases List.mem_singleton.mp hc
    exact .inl ((h c hd).resolve_right ne)

namespace Over

theorem user (h : s.Over A) : A.Spells s.user := h.env.getD "USER" (spells_ascii rfl)

theorem shortCwd (h : s.Over A) : A.Spells s.shortCwd := by
  unfold Session.shortCwd shorten
  split
  case h_1 => exact h.cwd
  case h_2 home hh =>
    split
    case isTrue => exact h.cwd
    case isFalse =>
      split
      case isTrue =>
        split
        case h_1 => exact spells_ascii rfl
        case h_2 rest hr =>
          have tail : ∀ c ∈ rest, A.Has c := by
            intro c hc
            have : c ∈ s.cwd.toList.drop home.length := hr ▸ .tail '/' hc
            exact h.cwd c (List.mem_of_mem_drop this)
          exact Spells.append (spells_ascii rfl) (spells_ofList tail)
        case h_3 => exact h.cwd
      case isFalse => exact h.cwd

theorem prompt (h : s.Over A) : A.Spells s.prompt :=
  ((((h.user.append (spells_ascii rfl)).append h.host).append (spells_ascii rfl)).append h.shortCwd).append
    (spells_ascii rfl)

theorem apply (h : s.Over A) {o : Outcome} (hp : ∀ path, o.newCwd = some path → A.Spells path) :
    (s.apply o).Over A := by
  have closed {t : Session} (ht : t.Over A) : (if o.exit then { t with closed := true } else t).Over A := by
    split
    · exact ⟨ht.env, ht.cwd, ht.host, ht.history, ht.line⟩
    · exact ht
  unfold Session.apply
  split
  case h_1 path eq =>
    have path := hp path eq
    exact closed ⟨h.env.set (spells_ascii rfl) path, path, h.host, h.history, h.line⟩
  case h_2 => exact closed h

theorem dispatch (h : s.Over A) {line : String} (hl : A.Spells line) : (s.dispatch line).1.Over A := by
  have command := Command.over_parseLine hl
  have env : ((Command.parseLine line).execute s.context s.env).1.Over A :=
    Command.over_execute h.env command
  have kept : { s with env := ((Command.parseLine line).execute s.context s.env).1 }.Over A :=
    ⟨env, h.cwd, h.host, h.history, h.line⟩
  exact kept.apply fun path hp => Command.spells_newCwd h.cwd h.env command hp

theorem run (h : s.Over A) {line : String} (hl : A.Spells line) : (s.run line).1.Over A := by
  have recorded : { s with history := s.history.add line }.Over A :=
    ⟨h.env, h.cwd, h.host, h.history.add hl, h.line⟩
  exact recorded.dispatch hl

theorem output (h : s.Over A) (hf : s.fs.Over A) {line : String} (hl : A.Spells line) :
    ∀ shown ∈ (s.dispatch line).2.output, shown.Over A := by
  have history : ∀ text ∈ s.context.history, A.Spells text := h.history.all
  have cwd : A.Spells s.context.cwd := h.cwd
  have fs : s.context.fs.Over A := hf
  exact Command.over_output cwd fs history h.env (Command.over_parseLine hl)

theorem withLine (h : s.Over A) {line : Line} (hl : line.Over A) : (s.withLine line).1.Over A :=
  ⟨h.env, h.cwd, h.host, h.history, hl⟩

theorem edit (h : s.Over A) {op : Line → Bool × Line} (ho : (op s.line).2.Over A) :
    (s.edit op).1.Over A := by
  unfold Session.edit
  split
  case h_1 line eq =>
    rw [eq] at ho
    exact h.withLine ho
  case h_2 => exact h

theorem move (h : s.Over A) {op : Line → Bool × Line} (ho : (op s.line).2.Over A) :
    (s.move op).1.Over A := by
  unfold Session.move
  split
  case h_1 line eq =>
    rw [eq] at ho
    exact h.withLine ho
  case h_2 => exact h

theorem browse (h : s.Over A) {step : History → Option String × History}
    (ho : (step s.history).2.Over A ∧ ∀ text, (step s.history).1 = some text → A.Spells text) :
    (s.browse step).1.Over A := by
  have ⟨history, entry⟩ := ho
  simp only [Session.browse]
  split
  case h_1 text eq => exact ⟨h.env, h.cwd, h.host, history, entry text eq⟩
  case h_2 => exact ⟨h.env, h.cwd, h.host, history, h.line⟩

theorem complete (h : s.Over A) : s.complete.1.Over A := by
  unfold Session.complete
  split
  case h_1 text eq =>
    exact h.withLine ((Completion.spells_ofLine s.line.text A).left text eq)
  case h_2 => exact h
  case h_3 => exact h

theorem entered (h : s.Over A) : { s with line := .empty, history := s.history.add s.line.text }.Over A :=
  ⟨h.env, h.cwd, h.host, h.history.add h.line, Line.over_empty⟩

theorem submit (h : s.Over A) : s.submit.1.Over A := h.entered.dispatch h.line

theorem press (h : s.Over A) {key : Key} (hk : key.Over A) : (s.press key).1.Over A := by
  cases key
  case char c => exact h.withLine (h.line.insert hk)
  case backspace => exact h.edit h.line.backspace
  case delete => exact h.edit h.line.delete
  case enter => exact h.submit
  case tab => exact h.complete
  case up => exact h.browse h.history.previous
  case down => exact h.browse h.history.next
  case left => exact h.move h.line.left
  case right => exact h.move h.line.right
  case home => exact h.move h.line
  case endOfLine => exact h.move h.line
  case interrupt => exact h.withLine Line.over_empty
  case clearScreen => exact h
  case killLine =>
    simp only [Session.press]
    split
    · exact h
    · exact h.withLine Line.over_empty
  case endOfInput =>
    simp only [Session.press]
    split
    · have exit : A.Spells "exit" := spells_ascii rfl
      exact h.dispatch exit
    · exact h.edit h.line.delete

theorem feedKey (h : s.Over A) {key : Key} (hk : key.Over A) : (s.feedKey key).1.Over A := by
  unfold Session.feedKey
  split
  · exact h
  · exact h.press hk

theorem feedKeys (h : s.Over A) {keys : List Key} (hk : ∀ key ∈ keys, key.Over A) :
    (s.feedKeys keys).1.Over A := by
  induction keys generalizing s
  case nil => exact h
  case cons key keys hi =>
    have ⟨first, rest⟩ := List.forall_mem_cons.mp hk
    exact hi (h.feedKey first) rest

theorem withDecoder (h : s.Over A) (decoder : Decoder) : { s with decoder }.Over A :=
  ⟨h.env, h.cwd, h.host, h.history, h.line⟩

theorem withClock (h : s.Over A) (clock : LocalTime) : { s with clock }.Over A :=
  ⟨h.env, h.cwd, h.host, h.history, h.line⟩

end Over

end Session

end VirtualShell
