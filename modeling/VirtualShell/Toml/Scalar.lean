import VirtualShell.Toml.Basic

namespace VirtualShell.Toml

def isSpace (c : Char) : Bool := c = ' ' || c = '\t'

def isSpaceOrBreak (c : Char) : Bool := isSpace c || c = '\n'

def isPlain (c : Char) : Bool := c = '\t' || (0x20 ≤ c.toNat && c.toNat != 0x7F)

def scalarValue? (hex : List Char) : Option Char :=
  let n := Text.number 16 hex
  if (hex.all fun c => (Text.hexValue? c).isSome) && n.isValidChar then some (Char.ofNat n) else none

def escape? : List Char → Option (Char × List Char)
  | 'b' :: s => some ('\x08', s)
  | 't' :: s => some ('\t', s)
  | 'n' :: s => some ('\n', s)
  | 'f' :: s => some ('\x0c', s)
  | 'r' :: s => some ('\r', s)
  | '"' :: s => some ('"', s)
  | '\\' :: s => some ('\\', s)
  | 'u' :: a :: b :: c :: d :: s => (scalarValue? [a, b, c, d]).map (·, s)
  | 'U' :: a :: b :: c :: d :: e :: f :: g :: h :: s => (scalarValue? [a, b, c, d, e, f, g, h]).map (·, s)
  | _ => none

theorem length_escape? {s rest : List Char} {c : Char} (h : escape? s = some (c, rest)) :
    rest.length < s.length := by
  unfold escape? at h
  split at h <;> simp at h
  case h_8 => obtain ⟨_, -, -, rfl⟩ := h; simp; omega
  case h_9 => obtain ⟨_, -, -, rfl⟩ := h; simp; omega
  all_goals (obtain ⟨-, rfl⟩ := h; simp)

def basicString? : List Char → Option (List Char × List Char)
  | [] => none
  | c :: s =>
    if c = '"' then some ([], s)
    else if c = '\\' then
      match h : escape? s with
      | none => none
      | some (d, rest) =>
        have := length_escape? h
        (basicString? rest).map fun (t, rest) => (d :: t, rest)
    else if isPlain c then (basicString? s).map fun (t, rest) => (c :: t, rest)
    else none
termination_by s => s.length
decreasing_by all_goals (simp; try omega)

def literalString? : List Char → Option (List Char × List Char)
  | [] => none
  | c :: s =>
    if c = '\'' then some ([], s)
    else if isPlain c then (literalString? s).map fun (t, rest) => (c :: t, rest)
    else none

-- The end of a string between threefold quotes: up to two more quotes before it are its own.
def closing? (q : Char) : List Char → Option (List Char × List Char)
  | a :: b :: c :: s =>
    if a = q ∧ b = q ∧ c = q then
      match s with
      | d :: e :: s =>
        if d = q ∧ e = q then some ([q, q], s)
        else if d = q then some ([q], e :: s)
        else some ([], d :: e :: s)
      | [d] => if d = q then some ([q], []) else some ([], [d])
      | [] => some ([], [])
    else none
  | _ => none

-- A string between threefold double quotes, read behind them. A backslash at the end of a line
-- drops the break and all space behind it.
def longBasicString? : List Char → Option (List Char × List Char)
  | [] => none
  | c :: s =>
    match closing? '"' (c :: s) with
    | some (t, rest) => some (t, rest)
    | none =>
      if c = '\\' then
        if (s.dropWhile isSpace).head? = some '\n' then
          have : (s.dropWhile isSpaceOrBreak).length ≤ s.length := (List.dropWhile_sublist _).length_le
          longBasicString? (s.dropWhile isSpaceOrBreak)
        else
          match h : escape? s with
          | none => none
          | some (d, rest) =>
            have := length_escape? h
            (longBasicString? rest).map fun (t, rest) => (d :: t, rest)
      else if isPlain c || c = '\n' then (longBasicString? s).map fun (t, rest) => (c :: t, rest)
      else none
termination_by s => s.length
decreasing_by all_goals (simp; try omega)

def longLiteralString? : List Char → Option (List Char × List Char)
  | [] => none
  | c :: s =>
    match closing? '\'' (c :: s) with
    | some (t, rest) => some (t, rest)
    | none =>
      if isPlain c || c = '\n' then (longLiteralString? s).map fun (t, rest) => (c :: t, rest)
      else none

def afterOpening : List Char → List Char
  | '\n' :: s => s
  | s => s

def string? : List Char → Option (String × List Char)
  | '"' :: '"' :: '"' :: s => (longBasicString? (afterOpening s)).map fun (t, rest) => (String.ofList t, rest)
  | '\'' :: '\'' :: '\'' :: s => (longLiteralString? (afterOpening s)).map fun (t, rest) => (String.ofList t, rest)
  | '"' :: s => (basicString? s).map fun (t, rest) => (String.ofList t, rest)
  | '\'' :: s => (literalString? s).map fun (t, rest) => (String.ofList t, rest)
  | _ => none

def moreDigits? (isDigit : Char → Bool) : List Char → Option (List Char × List Char)
  | [] => some ([], [])
  | ['_'] => none
  | '_' :: c :: s =>
    if isDigit c then (moreDigits? isDigit s).map fun (t, rest) => (c :: t, rest) else none
  | c :: s =>
    if isDigit c then (moreDigits? isDigit s).map fun (t, rest) => (c :: t, rest)
    else some ([], c :: s)

def based? (base : Nat) (isDigit : Char → Bool) : List Char → Option (Nat × List Char)
  | [] => none
  | c :: s =>
    if isDigit c then
      (moreDigits? isDigit s).map fun (t, rest) => (Text.number base (c :: t), rest)
    else none

def decimal? : List Char → Option (Nat × List Char)
  | '0' :: s => some (0, s)
  | s => based? 10 Char.isDigit s

def integerBound : Nat := 9223372036854775808

def integer? (s : List Char) : Option (Int × List Char) := do
  let (n, rest) ← match s with
    | '0' :: 'x' :: s =>
      (based? 16 (fun c => (Text.hexValue? c).isSome) s).map fun (n, rest) => ((n : Int), rest)
    | '0' :: 'o' :: s =>
      (based? 8 (fun c => '0' ≤ c && c ≤ '7') s).map fun (n, rest) => ((n : Int), rest)
    | '0' :: 'b' :: s =>
      (based? 2 (fun c => c = '0' || c = '1') s).map fun (n, rest) => ((n : Int), rest)
    | '-' :: s => (decimal? s).map fun (n, rest) => (-(n : Int), rest)
    | '+' :: s => (decimal? s).map fun (n, rest) => ((n : Int), rest)
    | s => (decimal? s).map fun (n, rest) => ((n : Int), rest)
  if -(integerBound : Int) ≤ n ∧ n < integerBound then some (n, rest) else none

def scalar? (s : List Char) : Option (Scalar × List Char) :=
  match s with
  | 't' :: 'r' :: 'u' :: 'e' :: s => some (.bool true, s)
  | 'f' :: 'a' :: 'l' :: 's' :: 'e' :: s => some (.bool false, s)
  | c :: s =>
    if c = '"' ∨ c = '\'' then (string? (c :: s)).map fun (t, rest) => (.string t, rest)
    else (integer? (c :: s)).map fun (n, rest) => (.integer n, rest)
  | [] => none

end VirtualShell.Toml
