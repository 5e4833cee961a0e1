import VirtualShell.Command.Basic

namespace VirtualShell

inductive Completion
  | single (line : String)
  | multiple (names : List String)
  | none
  deriving DecidableEq, Repr

namespace Completion

def candidates (partialName : String) : List String :=
  Command.names.filter fun name => partialName.toList.isPrefixOf name.toList

def ofLine (line : String) : Completion :=
  if line.isEmpty ∨ line.toList.any Text.isBlank then .none
  else
    match candidates line with
    | [] => .none
    | [name] => .single (name ++ " ")
    | names => .multiple names

end Completion

end VirtualShell
