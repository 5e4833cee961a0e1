import VirtualShell.Text.Blank

namespace VirtualShell

inductive CommandError
  | missingOperand (command operand : String)
  | unknownCommand (name : String)
  deriving DecidableEq, Repr

def CommandError.message : CommandError → String
  | .missingOperand command operand => command ++ ": missing " ++ operand ++ " operand"
  | .unknownCommand name => name ++ ": command not found"

inductive Command
  | blank
  | ls (path : Option String)
  | cd (path : Option String)
  | pwd
  | cat (paths : List String)
  | echo (args : List String)
  | env
  | exportVars (assignments : List String)
  | unsetVars (names : List String)
  | history
  | clear
  | whoami
  | date
  | help
  | exit
  | invalid (e : CommandError)
  | unknown (name : String)
  deriving DecidableEq, Repr

namespace Command

def names : List String :=
  ["cat", "cd", "clear", "date", "echo", "env", "exit", "export", "help", "history", "ls", "pwd",
   "unset", "whoami"]

def parse (name : String) (args : List String) : Command :=
  match name with
  | "ls" => .ls args.head?
  | "cd" => .cd args.head?
  | "pwd" => .pwd
  | "cat" => if args.isEmpty then .invalid (.missingOperand "cat" "file") else .cat args
  | "echo" => .echo args
  | "env" => .env
  | "export" => .exportVars args
  | "unset" =>
    if args.isEmpty then .invalid (.missingOperand "unset" "variable name") else .unsetVars args
  | "history" => .history
  | "clear" | "cls" => .clear
  | "whoami" => .whoami
  | "date" => .date
  | "help" | "?" => .help
  | "exit" => .exit
  | _ => .unknown name

def parseLine (line : String) : Command :=
  match Text.words line with
  | [] => .blank
  | name :: args => parse name args

theorem parseLine_join {name operand : String} (hn : Text.IsWord name) (ho : Text.IsWord operand) :
    parseLine (name ++ " " ++ operand) = parse name [operand] := by
  rw [parseLine, Text.words_join, hn.words_eq, ho.words_eq]
  rfl

end Command

end VirtualShell
