namespace VirtualShell.Host

inductive ReadFailure
  | notFound
  | isADirectory
  | notADirectory
  | notText
  | other (reason : String)
  deriving DecidableEq, Repr

def ReadFailure.message : ReadFailure → String
  | .notFound => "No such file or directory (os error 2)"
  | .isADirectory => "Is a directory (os error 21)"
  | .notADirectory => "Not a directory (os error 20)"
  | .notText => "stream did not contain valid UTF-8"
  | .other reason => reason

abbrev Reader (m : Type → Type) := String → ExceptT ReadFailure m String

end VirtualShell.Host
