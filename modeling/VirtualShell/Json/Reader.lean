import VirtualShell.Json.Token

namespace VirtualShell.Json

inductive Frame
  | array (elements : List Json)
  | object (members : List (String × Json)) (key : String)

def maxDepth : Nat := 127

-- What has been read, by what must come next. The stack holds the containers around it.
inductive Reader
  | value (stack : List Frame)
  | firstElement (stack : List Frame)
  | afterElement (elements : List Json) (stack : List Frame)
  | firstName (stack : List Frame)
  | name (members : List (String × Json)) (stack : List Frame)
  | colon (members : List (String × Json)) (key : String) (stack : List Frame)
  | afterMember (members : List (String × Json)) (stack : List Frame)
  | done (v : Json)

namespace Reader

def complete (v : Json) : List Frame → Reader
  | [] => .done v
  | .array elements :: stack => .afterElement (elements ++ [v]) stack
  | .object members key :: stack => .afterMember (members ++ [(key, v)]) stack

def start (stack : List Frame) : Token → Option Reader
  | .scalar v => some (complete v stack)
  | .string s => some (complete (.string s) stack)
  | .openBracket => if stack.length < maxDepth then some (.firstElement stack) else none
  | .openBrace => if stack.length < maxDepth then some (.firstName stack) else none
  | _ => none

def step : Reader → Token → Option Reader
  | .value stack, t => start stack t
  | .firstElement stack, .closeBracket => some (complete (.array []) stack)
  | .firstElement stack, t => start (.array [] :: stack) t
  | .afterElement elements stack, .comma => some (.value (.array elements :: stack))
  | .afterElement elements stack, .closeBracket => some (complete (.array elements) stack)
  | .firstName stack, .closeBrace => some (complete (.object []) stack)
  | .firstName stack, .string key => some (.colon [] key stack)
  | .name members stack, .string key => some (.colon members key stack)
  | .colon members key stack, .colon => some (.value (.object members key :: stack))
  | .afterMember members stack, .comma => some (.name members stack)
  | .afterMember members stack, .closeBrace => some (complete (.object members) stack)
  | _, _ => none

def run (r : Reader) (ts : List Token) : Option Reader := ts.foldlM step r

end Reader

def read? (text : String) : Option Json := do
  match ← Reader.run (.value []) (← tokens? text.toList) with
  | .done v => some v
  | _ => none

end VirtualShell.Json
