import VirtualShell.Clock
import VirtualShell.Command.Basic
import VirtualShell.Command.Execute
import VirtualShell.Completion
import VirtualShell.Environment
import VirtualShell.FileSystem.Basic
import VirtualShell.FileSystem.Default
import VirtualShell.FileSystem.Entry
import VirtualShell.FileSystem.Seed
import VirtualShell.History
import VirtualShell.Host.Disk
import VirtualShell.Host.Path
import VirtualShell.Host.Reader
import VirtualShell.Json.Basic
import VirtualShell.Json.Quoted
import VirtualShell.Json.Reader
import VirtualShell.Json.Token
import VirtualShell.Key.Basic
import VirtualShell.Key.Decoder
import VirtualShell.Line
import VirtualShell.NameTable
import VirtualShell.Output
import VirtualShell.Path
import VirtualShell.Program.Arguments
import VirtualShell.Program.Basic
import VirtualShell.RingBuffer
import VirtualShell.Screen
import VirtualShell.Session.Basic
import VirtualShell.Settings.Basic
import VirtualShell.Settings.Options
import VirtualShell.Text.Blank
import VirtualShell.Text.Cut
import VirtualShell.Text.Hex
import VirtualShell.Text.Padded
import VirtualShell.Text.Quoted
import VirtualShell.Text.Ranges
import VirtualShell.Text.UnseenTable
import VirtualShell.Text.Utf8
import VirtualShell.Text.Width
import VirtualShell.Text.WidthTable
import VirtualShell.Toml.Basic
import VirtualShell.Toml.Moment
import VirtualShell.Toml.Reader
import VirtualShell.Toml.Scalar
import VirtualShell.Main
import VirtualShell.Proofs.Call
import VirtualShell.Proofs.WorkingDirectory
import VirtualShell.Proofs.Utf8
import VirtualShell.Proofs.ReadBoundary
import VirtualShell.Proofs.JsonReader
import VirtualShell.Proofs.Seed
import VirtualShell.Proofs.Alphabet
import VirtualShell.Proofs.CommandText
import VirtualShell.Proofs.SessionText
import VirtualShell.Proofs.GlyphWidth
import VirtualShell.Proofs.Display
import VirtualShell.Proofs.HistoryLog
import VirtualShell.Proofs.KeyGrammar
import VirtualShell.Proofs.KeyReading
import VirtualShell.Proofs.TypedLine
import VirtualShell.Proofs.Printable
import VirtualShell.Proofs.Closing
import VirtualShell.Proofs.DirectoryVariable
import VirtualShell.Proofs.KeySequence
import VirtualShell.Proofs.Keystroke
import VirtualShell.Proofs.CanonicalPath
import VirtualShell.Proofs.NameOrder
import VirtualShell.Proofs.Operand
import VirtualShell.Proofs.ShortDirectory
import VirtualShell.Proofs.HomeDirectory
import VirtualShell.Proofs.Listing
import VirtualShell.Proofs.Ascent
import VirtualShell.Proofs.Arrival
import VirtualShell.Proofs.Recovery
import VirtualShell.Proofs.Expiry
import VirtualShell.Proofs.Zipper
import VirtualShell.Proofs.Assignment
import VirtualShell.Proofs.Effect
import VirtualShell.Proofs.VariableToken
import VirtualShell.Proofs.LineWords
import VirtualShell.Proofs.Layers
import VirtualShell.Proofs.Coloring
import VirtualShell.Proofs.Utf8Beginning
import VirtualShell.Proofs.DecoderState
import VirtualShell.Proofs.OutputText
