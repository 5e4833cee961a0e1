import VirtualShell.Toml.Moment

namespace VirtualShell.Toml

inductive Scalar
  | string (s : String)
  | integer (n : Int)
  | bool (b : Bool)
  deriving DecidableEq, Repr

inductive Value
  | scalar (v : Scalar)
  | table (pairs : List (List String × Scalar))
  | moment (m : Moment)
  deriving DecidableEq, Repr

inductive Statement
  | pair (key : List String) (v : Value)
  | header (key : List String)
  deriving DecidableEq, Repr

end VirtualShell.Toml
