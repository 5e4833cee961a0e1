import VirtualShell.Toml.Scalar

namespace VirtualShell.Toml

-- The text with every line break a single line feed. A carriage return alone is no break.
def unifyBreaks? : List Char → Option (List Char)
  | [] => some []
  | '\r' :: '\n' :: s => (unifyBreaks? s).map ('\n' :: ·)
  | c :: s => if c = '\r' then none else (unifyBreaks? s).map (c :: ·)

def skipSpace (s : List Char) : List Char := s.dropWhile isSpace

def isBare (c : Char) : Bool := c.isAlphanum || c = '-' || c = '_'

def keyPart? (s : List Char) : Option (String × List Char) :=
  match s with
  | '"' :: s => (basicString? s).map fun (t, rest) => (String.ofList t, rest)
  | '\'' :: s => (literalString? s).map fun (t, rest) => (String.ofList t, rest)
  | s =>
    let part := s.takeWhile isBare
    if part.isEmpty then none else some (String.ofList part, s.dropWhile isBare)

-- A key of at most so many parts between dots, and the rest behind it and the space after it.
def keyOf? : Nat → List Char → Option (List String × List Char)
  | 0, _ => none
  | n + 1, s => do
    let (part, rest) ← keyPart? (skipSpace s)
    match skipSpace rest with
    | '.' :: rest =>
      let (key, rest) ← keyOf? n rest
      return (part :: key, rest)
    | rest => return ([part], rest)

def key? (s : List Char) : Option (List String × List Char) := keyOf? s.length s

def scalarPair? (s : List Char) : Option ((List String × Scalar) × List Char) := do
  match ← key? s with
  | (key, '=' :: rest) =>
    let (v, rest) ← scalar? (skipSpace rest)
    return ((key, v), skipSpace rest)
  | _ => none

def morePairs? : Nat → List Char → Option (List (List String × Scalar) × List Char)
  | 0, _ => none
  | n + 1, s =>
    match s with
    | '\x7d' :: rest => some ([], rest)
    | ',' :: rest => do
      let (p, rest) ← scalarPair? rest
      let (ps, rest) ← morePairs? n rest
      return (p :: ps, rest)
    | _ => none

def table? (s : List Char) : Option (List (List String × Scalar) × List Char) :=
  match skipSpace s with
  | '\x7d' :: rest => some ([], rest)
  | s => do
    let (p, rest) ← scalarPair? s
    let (ps, rest) ← morePairs? rest.length rest
    return (p :: ps, rest)

def value? (s : List Char) : Option (Value × List Char) :=
  match s with
  | '\x7b' :: s => (table? s).map fun (ps, rest) => (.table ps, rest)
  | s =>
    match moment? s with
    | some (m, rest) => some (.moment m, rest)
    | none => (scalar? s).map fun (v, rest) => (.scalar v, rest)

def endLine? (s : List Char) : Option (List Char) :=
  let s := match skipSpace s with
    | '#' :: s => s.dropWhile isPlain
    | s => s
  match s with
  | [] => some []
  | '\n' :: s => some s
  | _ => none

def statement? (s : List Char) : Option (Statement × List Char) :=
  match s with
  | '[' :: s => do
    match ← key? s with
    | (key, ']' :: rest) => return (.header key, ← endLine? rest)
    | _ => none
  | s => do
    match ← key? s with
    | (key, '=' :: rest) =>
      let (v, rest) ← value? (skipSpace rest)
      return (.pair key v, ← endLine? rest)
    | _ => none

def linesOf? : Nat → List Char → Option (List Statement)
  | 0, s => if s.isEmpty then some [] else none
  | n + 1, s =>
    if s.isEmpty then some []
    else
      match endLine? s with
      | some rest => linesOf? n rest
      | none => do
        let (t, rest) ← statement? (skipSpace s)
        return t :: (← linesOf? n rest)

def statements? (text : String) : Option (List Statement) := do
  let s := match text.toList with
    | '\uFEFF' :: s => s
    | s => s
  let s ← unifyBreaks? s
  linesOf? s.length s

end VirtualShell.Toml
