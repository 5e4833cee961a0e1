namespace VirtualShell

inductive Json
  | null
  | bool (b : Bool)
  -- a whole number without sign, point or exponent, below 2^64
  | natural (n : Nat)
  | number
  | string (s : String)
  | array (elements : List Json)
  | object (members : List (String × Json))

end VirtualShell
