import VirtualShell.Output

namespace VirtualShell

inductive Chunk
  -- text to write as it is, line breaks and cursor movements included
  | text (s : String) (color : Option Color)
  | clearScreen
  | bell
  | exit
  deriving DecidableEq, Repr

namespace Chunk

def plain (s : String) : Chunk := .text s none

def colored (s : String) (color : Color) : Chunk := .text s (some color)

end Chunk

namespace Screen

def colorCode : Color → String
  | .red => "31"
  | .green => "32"
  | .yellow => "33"
  | .blue => "34"
  | .gray => "90"

def resetColor : String := "\x1b[0m"

def renderChunk (color : Bool) : Chunk → String
  | .text s (some c) => if color then "\x1b[" ++ colorCode c ++ "m" ++ s ++ resetColor else s
  | .text s none => s
  | .clearScreen => "\x1b[2J\x1b[H"
  | .bell => "\x07"
  | .exit => ""

def render (chunks : List Chunk) (color : Bool) : String :=
  String.join (chunks.map (renderChunk color))

theorem render_append (a b : List Chunk) (color : Bool) :
    render (a ++ b) color = render a color ++ render b color := by
  simp [render, String.join_append]

theorem toList_render_cons (chunk : Chunk) (chunks : List Chunk) (color : Bool) :
    (render (chunk :: chunks) color).toList = (renderChunk color chunk).toList ++ (render chunks color).toList := by
  simp [render]

end Screen

end VirtualShell
