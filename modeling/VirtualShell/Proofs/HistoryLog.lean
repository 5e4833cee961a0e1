import Mathlib.Data.List.Chain
import VirtualShell.History
import VirtualShell.Proofs.Queue

namespace VirtualShell.History

inductive Request
  | add (line : String)
  | previous
  | next
  | get (index : Nat)
  | all
  deriving DecidableEq, Repr

inductive Reply
  | done
  | line (text : Option String)
  | lines (texts : List String)
  deriving DecidableEq, Repr

def answer (h : History) : Request → History × Reply
  | .add line => (h.add line, .done)
  | .previous => (h.previous.2, .line h.previous.1)
  | .next => (h.next.2, .line h.next.1)
  | .get index => (h, .line (h.get? index))
  | .all => (h, .lines h.all)

def answerAll {σ : Type} (answer : σ → Request → σ × Reply) (state : σ) : List Request → σ × List Reply
  | [] => (state, [])
  | request :: requests =>
    let (state, reply) := answer state request
    let (state, replies) := answerAll answer state requests
    (state, reply :: replies)

-- Lines from oldest to newest, and a position among them or behind the last one.
structure Log where
  entries   : List String
  cursor    : Nat
  cursor_le : cursor ≤ entries.length

namespace Log

def empty : Log := ⟨[], 0, Nat.le_refl 0⟩

def ofEntries (entries : List String) : Log := ⟨entries, entries.length, Nat.le_refl _⟩

-- The lines with a new one, unless it is blank or repeats the last.
def extended (entries : List String) (line : String) : List String :=
  if Text.allBlank line ∨ entries.getLast? = some line then entries else entries ++ [line]

def bounded (capacity : Nat) (entries : List String) : List String :=
  if capacity < entries.length then entries.tail else entries

def add (capacity : Nat) (log : Log) (line : String) : Log :=
  ofEntries (bounded capacity (extended log.entries line))

def previous (log : Log) : Option String × Log :=
  if h : 0 < log.cursor then
    have := log.cursor_le
    (some log.entries[log.cursor - 1], ⟨log.entries, log.cursor - 1, by omega⟩)
  else (none, log)

def next (log : Log) : Option String × Log :=
  if h : log.cursor < log.entries.length then
    let text := if inside : log.cursor + 1 < log.entries.length then log.entries[log.cursor + 1] else ""
    (some text, ⟨log.entries, log.cursor + 1, h⟩)
  else (none, log)

def answer (capacity : Nat) (log : Log) : Request → Log × Reply
  | .add line => (log.add capacity line, .done)
  | .previous => (log.previous.2, .line log.previous.1)
  | .next => (log.next.2, .line log.next.1)
  | .get index => (log, .line log.entries[index]?)
  | .all => (log, .lines log.entries)

structure Tidy (capacity : Nat) (entries : List String) : Prop where
  length_le : entries.length ≤ capacity
  not_blank : ∀ line ∈ entries, ¬Text.allBlank line
  apart     : entries.IsChain (· ≠ ·)

theorem tidy_bounded_extended {capacity : Nat} {entries : List String} (h : Tidy capacity entries)
    (line : String) : Tidy capacity (bounded capacity (extended entries line)) := by
  have := h.length_le
  unfold extended
  split
  case isTrue =>
    rw [bounded, if_neg (Nat.not_lt.mpr h.length_le)]
    exact h
  case isFalse new =>
    have ⟨not_blank, ne⟩ := not_or.mp new
    have blanks : ∀ text ∈ entries ++ [line], ¬Text.allBlank text :=
      List.forall_mem_append.mpr ⟨h.not_blank, List.forall_mem_singleton.mpr not_blank⟩
    have chain : (entries ++ [line]).IsChain (· ≠ ·) := by
      refine h.apart.append (.singleton line) fun last hl first hf eq => ?_
      cases Option.some.inj hf
      exact ne (eq ▸ hl)
    unfold bounded
    split
    case isTrue =>
      -- one line too many: the oldest goes, and the others keep their neighbours
      refine ⟨?_, fun text ht => blanks text (List.mem_of_mem_tail ht), chain.tail⟩
      simpa using h.length_le
    case isFalse room => exact ⟨Nat.le_of_not_lt room, blanks, chain⟩

theorem tidy_answer {capacity : Nat} {log : Log} (h : Tidy capacity log.entries) (request : Request) :
    Tidy capacity (log.answer capacity request).1.entries := by
  cases request
  case add line => exact tidy_bounded_extended h line
  case previous =>
    simp only [answer, previous]
    split <;> exact h
  case next =>
    simp only [answer, next]
    split <;> exact h
  case get => exact h
  case all => exact h

end Log

structure Keeps (capacity : Nat) (h : History) (log : Log) : Prop where
  sound       : h.entries.Sound
  capacity_eq : h.capacity = capacity
  all_eq      : h.all = log.entries
  cursor_eq   : h.cursor = log.cursor

namespace Keeps

variable {capacity : Nat} {h : History} {log : Log}

theorem size_eq (k : Keeps capacity h log) : h.entries.size = log.entries.length := by
  rw [← k.all_eq]
  exact k.sound.length_toList.symm

theorem get?_eq (k : Keeps capacity h log) (index : Nat) : h.entries.get? index = log.entries[index]? := by
  rw [← k.all_eq]
  exact (k.sound.getElem?_toList index).symm

theorem toList_push (k : Keeps capacity h log) (line : String) :
    (h.entries.push line).1.toList = Log.bounded capacity (log.entries ++ [line]) := by
  have le := k.sound.size_le
  have : h.entries.toList = log.entries := k.all_eq
  rw [k.sound.toList_push, this, Log.bounded, List.length_append, ← k.size_eq, ← k.capacity_eq,
    RingBuffer.displaced]
  by_cases full : h.entries.size = h.entries.capacity
  case pos => simp [full, History.capacity]
  case neg =>
    have : ¬h.entries.capacity < h.entries.size + 1 := by omega
    simp [full, this, History.capacity]

theorem add (k : Keeps capacity h log) (line : String) : Keeps capacity (h.add line) (log.add capacity line) := by
  have last : h.entries.last? = log.entries.getLast? := by
    rw [k.sound.last?_eq]
    exact congrArg List.getLast? k.all_eq
  simp only [History.add, Log.add, Log.extended, last]
  split
  case isTrue =>
    have fits : ¬capacity < log.entries.length := by
      rw [← k.size_eq, ← k.capacity_eq]
      exact Nat.not_lt.mpr k.sound.size_le
    rw [Log.bounded, if_neg fits]
    exact ⟨k.sound, k.capacity_eq, k.all_eq, k.size_eq⟩
  case isFalse =>
    have sound := k.sound.push line
    have entries := k.toList_push line
    refine ⟨sound, ?_, entries, ?_⟩
    · exact (RingBuffer.capacity_push ..).trans k.capacity_eq
    · exact sound.length_toList.symm.trans (congrArg List.length entries)

theorem previous (k : Keeps capacity h log) :
    h.previous.1 = log.previous.1 ∧ Keeps capacity h.previous.2 log.previous.2 := by
  have := log.cursor_le
  simp only [History.previous, Log.previous, k.cursor_eq]
  by_cases hc : log.cursor = 0
  case pos => simpa [hc] using k
  case neg =>
    have inside : log.cursor - 1 < log.entries.length := by omega
    simp only [hc, Nat.pos_of_ne_zero hc, k.get?_eq, List.getElem?_eq_getElem inside]
    exact ⟨rfl, k.sound, k.capacity_eq, k.all_eq, rfl⟩

theorem next (k : Keeps capacity h log) :
    h.next.1 = log.next.1 ∧ Keeps capacity h.next.2 log.next.2 := by
  simp only [History.next, Log.next, History.size, k.cursor_eq, k.size_eq]
  by_cases hc : log.cursor < log.entries.length
  case pos =>
    have cursor : ∀ kept, Keeps capacity { h with cursor := log.cursor + 1 } ⟨log.entries, log.cursor + 1, kept⟩ :=
      fun _ => ⟨k.sound, k.capacity_eq, k.all_eq, rfl⟩
    simp only [Nat.not_le.mpr hc, hc]
    refine ⟨?_, cursor hc⟩
    by_cases inside : log.cursor + 1 < log.entries.length
    case pos => simp [inside, Nat.ne_of_lt inside, k.get?_eq]
    case neg =>
      have : log.cursor + 1 = log.entries.length := by omega
      simp [this]
  case neg =>
    simp only [Nat.le_of_not_lt hc, hc]
    exact ⟨rfl, k⟩

theorem answer (k : Keeps capacity h log) (request : Request) :
    (h.answer request).2 = (log.answer capacity request).2 ∧
      Keeps capacity (h.answer request).1 (log.answer capacity request).1 := by
  cases request
  case add line => exact ⟨rfl, k.add line⟩
  case previous => exact k.previous.imp_left (congrArg Reply.line)
  case next => exact k.next.imp_left (congrArg Reply.line)
  case get index => exact ⟨congrArg Reply.line (k.get?_eq index), k⟩
  case all => exact ⟨congrArg Reply.lines k.all_eq, k⟩

end Keeps

theorem keeps_ofCapacity (capacity : Nat) :
    Keeps (max capacity 1) (ofCapacity capacity) .empty where
  sound       := RingBuffer.sound_ofCapacity (Nat.le_max_right capacity 1)
  capacity_eq := by simp [ofCapacity, History.capacity, RingBuffer.ofCapacity, RingBuffer.capacity]
  all_eq      := rfl
  cursor_eq   := rfl

theorem Keeps.answerAll {capacity : Nat} {h : History} {log : Log} (k : Keeps capacity h log)
    (tidy : Log.Tidy capacity log.entries) (requests : List Request) :
    let run := History.answerAll History.answer h requests
    let spec := History.answerAll (Log.answer capacity) log requests
    run.2 = spec.2 ∧ Keeps capacity run.1 spec.1 ∧ Log.Tidy capacity spec.1.entries := by
  induction requests generalizing h log
  case nil => exact ⟨rfl, k, tidy⟩
  case cons request requests hi =>
    have ⟨reply, k⟩ := k.answer request
    have ⟨replies, rest⟩ := hi k (Log.tidy_answer tidy request)
    exact ⟨congr (congrArg List.cons reply) replies, rest⟩

theorem answers_as_log (capacity : Nat) (requests : List Request) :
    let run := answerAll answer (ofCapacity capacity) requests
    let spec := answerAll (Log.answer (max capacity 1)) .empty requests
    run.2 = spec.2 ∧ run.1.all = spec.1.entries ∧ run.1.cursor = spec.1.cursor ∧
      run.1.all.length ≤ max capacity 1 ∧ run.1.cursor ≤ run.1.all.length ∧
      (∀ line ∈ run.1.all, ¬Text.allBlank line) ∧ run.1.all.IsChain (· ≠ ·) := by
  intro run spec
  have none : Log.Tidy (max capacity 1) Log.empty.entries := ⟨Nat.zero_le _, nofun, .nil⟩
  have ⟨replies, keeps, tidy⟩ := (keeps_ofCapacity capacity).answerAll none requests
  rw [keeps.all_eq, keeps.cursor_eq]
  exact ⟨replies, rfl, rfl, tidy.length_le, spec.1.cursor_le, tidy.not_blank, tidy.apart⟩

end VirtualShell.History
