namespace VirtualShell.Text

def padded (fill : Char) (size n : Nat) : String :=
  let digits := toString n
  String.ofList (List.replicate (size - digits.length) fill) ++ digits

end VirtualShell.Text
