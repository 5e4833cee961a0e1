import VirtualShell.Json.Reader
import VirtualShell.Proofs.JsonText

namespace VirtualShell.Json

mutual

def tokens : Json → List Token
  | .string s => [.string s]
  | .array elements => .openBracket :: (elementTokens elements).tail ++ [.closeBracket]
  | .object members => .openBrace :: (memberTokens members).tail ++ [.closeBrace]
  | v => [.scalar v]
termination_by structural v => v

def elementTokens : List Json → List Token
  | [] => []
  | v :: rest => .comma :: v.tokens ++ elementTokens rest
termination_by structural elements => elements

def memberTokens : List (String × Json) → List Token
  | [] => []
  | (name, v) :: rest => .comma :: .string name :: .colon :: v.tokens ++ memberTokens rest
termination_by structural members => members

end

theorem memberTokens_eq (members : List (String × Json)) :
    memberTokens members =
      (if members.isEmpty then [] else [.comma]) ++ (memberTokens members).tail := by
  cases members <;> rfl

mutual

def nesting : Json → Nat
  | .array elements => elementNesting elements + 1
  | .object members => memberNesting members + 1
  | _ => 0
termination_by structural v => v

def elementNesting : List Json → Nat
  | [] => 0
  | v :: rest => max v.nesting (elementNesting rest)
termination_by structural elements => elements

def memberNesting : List (String × Json) → Nat
  | [] => 0
  | (_, v) :: rest => max v.nesting (memberNesting rest)
termination_by structural members => members

end

theorem tokens_eq_cons (v : Json) : ∃ t ts, v.tokens = t :: ts ∧ t ≠ .closeBracket := by
  cases v <;> exact ⟨_, _, rfl, nofun⟩

namespace Reader

variable {stack : List Frame}

@[simp] theorem run_nil (r : Reader) : run r [] = some r := rfl

@[simp] theorem run_cons (r : Reader) (t : Token) (ts : List Token) :
    run r (t :: ts) = (step r t).bind (run · ts) := rfl

-- An array that was just opened is one that holds nothing yet, but for the comma.
theorem run_firstElement (elements : List Json) (ts : List Token) :
    run (.firstElement stack) ((elementTokens elements).tail ++ .closeBracket :: ts) =
      run (.afterElement [] stack) (elementTokens elements ++ .closeBracket :: ts) := by
  cases elements
  case nil => rfl
  case cons v rest =>
    have ⟨t, more, h, hb⟩ := v.tokens_eq_cons
    simp [elementTokens, h, step]

theorem run_firstName (members : List (String × Json)) (ts : List Token) :
    run (.firstName stack) ((memberTokens members).tail ++ .closeBrace :: ts) =
      run (.afterMember [] stack) (memberTokens members ++ .closeBrace :: ts) := by
  cases members <;> rfl

theorem fits_max {α : Type} {depth n n' : Nat} (x y : α) :
    (if depth + 1 + n ≤ maxDepth then if depth + (n' + 1) ≤ maxDepth then x else y else y) =
      if depth + (max n n' + 1) ≤ maxDepth then x else y := by
  split
  case isTrue h =>
    have : depth + (max n n' + 1) ≤ maxDepth ↔ depth + (n' + 1) ≤ maxDepth := by omega
    simp only [this]
  case isFalse h => rw [if_neg (by omega)]

mutual

-- The containers around a value and those within it share what may be open at once.
theorem run_tokens (stack : List Frame) (ts : List Token) (h : stack.length ≤ maxDepth) :
    (v : Json) → run (.value stack) (v.tokens ++ ts) =
      if stack.length + v.nesting ≤ maxDepth then run (complete v stack) ts else none
  | .array elements => by
    by_cases room : stack.length < maxDepth
    case pos =>
      have : run (.value stack) ((Json.array elements).tokens ++ ts) =
          run (.firstElement stack) ((elementTokens elements).tail ++ .closeBracket :: ts) := by
        simp [tokens, step, start, room]
      rw [this, run_firstElement, run_elements stack ts room elements []]
      rfl
    case neg =>
      have : ¬stack.length + (Json.array elements).nesting ≤ maxDepth := by
        simp only [nesting]
        omega
      simp [tokens, step, start, room, this]
  | .object members => by
    by_cases room : stack.length < maxDepth
    case pos =>
      have : run (.value stack) ((Json.object members).tokens ++ ts) =
          run (.firstName stack) ((memberTokens members).tail ++ .closeBrace :: ts) := by
        simp [tokens, step, start, room]
      rw [this, run_firstName, run_members stack ts room members []]
      rfl
    case neg =>
      have : ¬stack.length + (Json.object members).nesting ≤ maxDepth := by
        simp only [nesting]
        omega
      simp [tokens, step, start, room, this]
  | .string s => by simp [tokens, step, start, nesting, h]
  | .null => by simp [tokens, step, start, nesting, h]
  | .bool b => by simp [tokens, step, start, nesting, h]
  | .natural n => by simp [tokens, step, start, nesting, h]
  | .number => by simp [tokens, step, start, nesting, h]
termination_by structural v => v

theorem run_elements (stack : List Frame) (ts : List Token) (h : stack.length < maxDepth) :
    (elements front : List Json) →
      run (.afterElement front stack) (elementTokens elements ++ .closeBracket :: ts) =
        if stack.length + (Json.array elements).nesting ≤ maxDepth then
          run (complete (.array (front ++ elements)) stack) ts
        else none
  | [], front => by
    have : stack.length + (Json.array []).nesting ≤ maxDepth := h
    simp [elementTokens, step, this]
  | v :: rest, front => by
    have hv := run_tokens (.array front :: stack) (elementTokens rest ++ .closeBracket :: ts) h v
    have hr := run_elements stack ts h rest (front ++ [v])
    have step : run (.afterElement front stack) (elementTokens (v :: rest) ++ .closeBracket :: ts) =
        run (.value (.array front :: stack)) (v.tokens ++ (elementTokens rest ++ .closeBracket :: ts)) := by
      simp [elementTokens, step]
    rw [step, hv, complete, hr, List.append_assoc]
    exact fits_max _ _
termination_by structural elements => elements

theorem run_members (stack : List Frame) (ts : List Token) (h : stack.length < maxDepth) :
    (members front : List (String × Json)) →
      run (.afterMember front stack) (memberTokens members ++ .closeBrace :: ts) =
        if stack.length + (Json.object members).nesting ≤ maxDepth then
          run (complete (.object (front ++ members)) stack) ts
        else none
  | [], front => by
    have : stack.length + (Json.object []).nesting ≤ maxDepth := h
    simp [memberTokens, step, this]
  | (key, v) :: rest, front => by
    have hv := run_tokens (.object front key :: stack) (memberTokens rest ++ .closeBrace :: ts) h v
    have hr := run_members stack ts h rest (front ++ [(key, v)])
    have step : run (.afterMember front stack) (memberTokens ((key, v) :: rest) ++ .closeBrace :: ts) =
        run (.value (.object front key :: stack)) (v.tokens ++ (memberTokens rest ++ .closeBrace :: ts)) := by
      simp [memberTokens, step]
    rw [step, hv, complete, hr, List.append_assoc]
    exact fits_max _ _
termination_by structural members => members

end

end Reader

theorem read?_of_writes {text : List Char} {v : Json} (h : Writes text v.tokens) :
    read? (String.ofList text) = if v.nesting ≤ maxDepth then some v else none := by
  have run := Reader.run_tokens [] [] (Nat.zero_le _) v
  rw [List.append_nil, List.length_nil, Nat.zero_add] at run
  simp only [read?, String.toList_ofList, h.tokens, bind, Option.bind_some, run]
  split <;> rfl

end VirtualShell.Json
