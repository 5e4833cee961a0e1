import VirtualShell.Text.Utf8

namespace VirtualShell.Utf8

def push (unit : List UInt8) (b : UInt8) : Option Char × List UInt8 :=
  if isWhole (unit ++ [b]) then (some (Char.ofNat (codePoint (unit ++ [b]))), [])
  else (none, unit ++ [b])

-- An octet that does not fit drops what was kept and is read afresh.
def step (unit : List UInt8) (b : UInt8) : Option Char × List UInt8 :=
  if continues unit b then push unit b
  else if continues [] b then push [] b
  else (none, [])

def run (unit : List UInt8) : List UInt8 → List Char × List UInt8
  | [] => ([], unit)
  | b :: rest =>
    let (c, unit) := step unit b
    let (cs, unit) := run unit rest
    (c.toList ++ cs, unit)

theorem run_append (unit a b : List UInt8) :
    run unit (a ++ b) = ((run unit a).1 ++ (run (run unit a).2 b).1, (run (run unit a).2 b).2) := by
  induction a generalizing unit
  case nil => rfl
  case cons x a hi => simp [run, hi]

theorem run_takeUnit {unit octets : List UInt8} (h : isWhole unit = false) :
    run unit octets =
      if isWhole (takeUnit unit octets).1 then
        (Char.ofNat (codePoint (takeUnit unit octets).1) :: (run [] (takeUnit unit octets).2).1,
          (run [] (takeUnit unit octets).2).2)
      else run (takeUnit unit octets).1 (takeUnit unit octets).2 := by
  induction octets generalizing unit
  case nil => simp [takeUnit, h]
  case cons b rest hi =>
    by_cases hc : continues unit b
    case neg => simp [takeUnit, hc, h]
    case pos =>
      cases hw : isWhole (unit ++ [b])
      case false => simp [takeUnit, hc, h, run, step, push, hw, ← hi hw]
      case true =>
        -- a whole character takes in nothing more
        have : takeUnit (unit ++ [b]) rest = (unit ++ [b], rest) := by
          cases rest <;> simp [takeUnit, hw]
        simp [takeUnit, hc, h, run, step, push, hw, this]

theorem takeUnit_stops {unit octets rest : List UInt8} {b : UInt8}
    (hw : isWhole (takeUnit unit octets).1 = false) (hr : (takeUnit unit octets).2 = b :: rest) :
    continues (takeUnit unit octets).1 b = false := by
  induction octets generalizing unit
  case nil => contradiction
  case cons d octets hi =>
    rw [takeUnit] at hw hr ⊢
    split at hw
    case isTrue h =>
      simp only [h, if_true] at hr ⊢
      cases hr
      simpa [hw] using h
    case isFalse h =>
      simp only [h] at hr ⊢
      exact hi hw hr

theorem step_of_not_continues {unit : List UInt8} {b : UInt8} (h : continues unit b = false) :
    step unit b = step [] b := by
  simp only [step, h]
  cases continues [] b <;> rfl

theorem run_validPart (octets : List UInt8) :
    run [] octets =
      ((validPart octets).1 ++ (run [] (validPart octets).2).1, (run [] (validPart octets).2).2) := by
  fun_induction validPart octets
  case case1 => rfl
  case case2 octets c rest h _ cs tail hv hi =>
    have front := eq_of_character? h
    rw [run_takeUnit rfl, if_pos front.left, front.right.left, front.right.right, hi, hv]
    rfl

theorem character?_validPart (octets : List UInt8) : character? (validPart octets).2 = none := by
  fun_induction validPart octets
  case case1 h => exact h
  case case2 hv hi => simpa [hv] using hi

theorem isWhole_of_character? {octets : List UInt8} (h : character? octets = none) :
    isWhole (takeUnit [] octets).1 = false := by
  simpa [character?] using h

theorem run_of_flaw?_none {octets : List UInt8} (hc : character? octets = none)
    (hf : flaw? octets = none) : run [] octets = ([], octets) := by
  have hr : (takeUnit [] octets).2 = [] := by simpa [flaw?] using hf
  have hu := takeUnit_append [] octets
  rw [hr, List.append_nil, List.nil_append] at hu
  have hw := isWhole_of_character? hc
  rw [run_takeUnit rfl, hw, hr, hu]
  rfl

theorem run_of_flaw?_some {octets : List UInt8} {n : Nat} (hc : character? octets = none)
    (hf : flaw? octets = some n) : run [] octets = run [] (octets.drop n) := by
  simp only [flaw?, Option.ite_none_left_eq_some, Option.some.injEq] at hf
  have hw := isWhole_of_character? hc
  cases hr : (takeUnit [] octets).2
  case nil => simp [hr] at hf
  case cons b rest =>
    have hb := takeUnit_stops hw hr
    have hu := takeUnit_append [] octets
    rw [hr, List.nil_append] at hu
    cases ht : (takeUnit [] octets).1
    case nil =>
      -- not even a first octet: it is passed over by itself
      rw [ht] at hb hu hf
      have : n = 1 := by simpa using hf.right.symm
      simp [← hu, this, run, step, hb]
    case cons a unit =>
      have : n = (a :: unit).length := by simpa [ht] using hf.right.symm
      rw [run_takeUnit rfl, hw, hr, ht, ← hu, ht, this, List.drop_left]
      rw [ht] at hb
      simp [run, step_of_not_continues hb]

theorem repair_eq_run (octets : List UInt8) : repair octets = run [] octets := by
  fun_induction repair octets
  case case1 octets h =>
    rw [run_validPart, run_of_flaw?_none (character?_validPart _) h]
    simp
  case case2 octets n h _ cs tail hr hi =>
    rw [run_validPart, run_of_flaw?_some (character?_validPart _) h, ← hi, hr]

-- The beginning of a character, as it is kept between reads.
def Kept (unit : List UInt8) : Prop := run [] unit = ([], unit)

theorem kept_nil : Kept [] := rfl

inductive Begun : List UInt8 → Prop
  | nil : Begun []
  | octet {unit : List UInt8} {b : UInt8} (front : Begun unit) (fits : continues unit b)
      (part : isWhole (unit ++ [b]) = false) : Begun (unit ++ [b])

theorem begun_push {unit : List UInt8} {b : UInt8} (h : Begun unit) (fits : continues unit b) :
    Begun (push unit b).2 := by
  unfold push
  split
  case isTrue => exact .nil
  case isFalse part => exact h.octet fits (by simpa using part)

theorem begun_step {unit : List UInt8} (b : UInt8) (h : Begun unit) : Begun (step unit b).2 := by
  unfold step
  split
  case isTrue fits => exact begun_push h fits
  case isFalse =>
    split
    case isTrue fits => exact begun_push .nil fits
    case isFalse => exact .nil

theorem begun_run {unit : List UInt8} (octets : List UInt8) (h : Begun unit) :
    Begun (run unit octets).2 := by
  induction octets generalizing unit
  case nil => exact h
  case cons b octets hi => exact hi (begun_step b h)

theorem Begun.kept {unit : List UInt8} (h : Begun unit) : Kept unit := by
  induction h
  case nil => exact kept_nil
  case octet fits part hi =>
    rw [Kept] at hi ⊢
    simp [run_append, hi, run, step, fits, push, part]

theorem kept_iff_begun {unit : List UInt8} : Kept unit ↔ Begun unit where
  mp h  := by
    have begun : Begun (run [] unit).2 := begun_run unit .nil
    rwa [h] at begun
  mpr h := h.kept

theorem kept_run {unit : List UInt8} (octets : List UInt8) (hk : Kept unit) :
    Kept (run unit octets).2 :=
  (begun_run octets (kept_iff_begun.mp hk)).kept

theorem repair_append (a b : List UInt8) :
    repair (a ++ b) =
      ((repair a).1 ++ (repair ((repair a).2 ++ b)).1, (repair ((repair a).2 ++ b)).2) := by
  have hk : Kept (run [] a).2 := kept_run a kept_nil
  rw [Kept] at hk
  simp [repair_eq_run, run_append, hk]

end VirtualShell.Utf8
