import VirtualShell.Proofs.ReadBoundary

namespace VirtualShell

inductive Arrival
  | char (c : Char) (now : Nat)
  | octets (octets : List UInt8) (now : Nat)
  deriving DecidableEq, Repr

namespace Decoder

variable {d : Decoder} {past : List (Char × Nat)}

def receive (d : Decoder) : Arrival → Decoder
  | .char c now => (d.feedChar c now).1
  | .octets octets now => (d.feed octets now).1

def receiveAll (d : Decoder) (arrivals : List Arrival) : Decoder := arrivals.foldl receive d

def decoded (d : Decoder) : Arrival → List (Char × Nat)
  | .char c now => [(c, now)]
  | .octets octets now => (d.characters octets).map (·, now)

def decodedAll (d : Decoder) : List Arrival → List (Char × Nat)
  | [] => []
  | arrival :: arrivals => d.decoded arrival ++ (d.receive arrival).decodedAll arrivals

section

variable {P : Decoder → List (Char × Nat) → Prop}
  (start : ∀ {d past} tail, P d past → P { d with afterReturn := false, tail } past)
  (read : ∀ {d past} c now, P d past → P (d.read c now).1 (past ++ [(c, now)]))
include read

theorem readAll_keeps (now : Nat) (cs : List Char) (h : P d past) :
    P (d.readAll now cs).1 (past ++ cs.map (·, now)) := by
  induction cs generalizing d past
  case nil => exact (List.append_nil past).symm ▸ h
  case cons c cs hi =>
    rw [List.map_cons, List.append_cons]
    exact hi (read c now h)

include start

theorem receive_keeps (arrival : Arrival) (h : P d past) : P (d.receive arrival) (past ++ d.decoded arrival) := by
  cases arrival
  case char c now => exact read c now (start d.tail h)
  case octets octets now => exact readAll_keeps read now _ (start _ h)

-- What holds at the start of every arrival and behind every character holds behind all that arrives.
theorem receiveAll_keeps (arrivals : List Arrival) (h : P d past) :
    P (d.receiveAll arrivals) (past ++ d.decodedAll arrivals) := by
  induction arrivals generalizing d past
  case nil => exact (List.append_nil past).symm ▸ h
  case cons arrival arrivals hi =>
    rw [decodedAll, ← List.append_assoc]
    exact hi (receive_keeps start read arrival h)

theorem decodedAll_keeps (arrivals : List Arrival) (h : P d []) : P (d.receiveAll arrivals) (d.decodedAll arrivals) :=
  receiveAll_keeps start read arrivals h

end

theorem characters_nil (h : Utf8.Kept d.tail) : d.characters [] = [] := by
  rw [characters, List.append_nil, Utf8.repair_eq_run, h]

theorem kept_feed (d : Decoder) (octets : List UInt8) (now : Nat) : Utf8.Kept (d.feed octets now).1.tail := by
  rw [tail_feed, Utf8.repair_eq_run]
  exact Utf8.kept_run _ Utf8.kept_nil

theorem tail_read (d : Decoder) (c : Char) (now : Nat) : (d.read c now).1.tail = d.tail :=
  congrArg (·.1.tail) (d.read_withTail c now d.tail)

theorem kept_receiveAll (arrivals : List Arrival) (h : Utf8.Kept d.tail) : Utf8.Kept (d.receiveAll arrivals).tail := by
  induction arrivals generalizing d
  case nil => exact h
  case cons arrival arrivals hi =>
    refine hi ?_
    cases arrival
    case char c now => exact (tail_read _ c now).symm ▸ h
    case octets octets now => exact d.kept_feed octets now

theorem decodedAll_octets (reads : List (List UInt8 × Nat)) (h : Utf8.Kept d.tail) :
    (d.decodedAll (reads.map fun (octets, now) => .octets octets now)).map Prod.fst =
      d.characters (reads.flatMap Prod.fst) := by
  induction reads generalizing d
  case nil => exact (characters_nil h).symm
  case cons r reads hi =>
    obtain ⟨octets, now⟩ := r
    have split : d.characters (octets ++ reads.flatMap Prod.fst) = _ :=
      congrArg Prod.fst (d.repair_feed octets _ now)
    rw [List.flatMap_cons, split, ← hi (d.kept_feed octets now)]
    simp [decodedAll, decoded, receive, Function.comp_def]

end Decoder

end VirtualShell
