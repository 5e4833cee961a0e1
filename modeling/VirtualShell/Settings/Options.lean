import VirtualShell.Session.Basic
import VirtualShell.Settings.Basic

namespace VirtualShell.Settings

def tree {m : Type → Type} [Monad m] (s : Settings) (read : Host.Reader m) :
    ExceptT SettingsError m FileSystem :=
  match s.seed with
  | some path => FileSystem.load read path
  | none => return .default

def options (s : Settings) (fs : FileSystem) : Session.Options :=
  let d : Session.Options := {}
  { user := s.user.getD d.user
    host := s.host.getD d.host
    home := s.home.getD d.home
    cwd := s.cwd.getD d.cwd
    env := s.env
    fs
    historyCapacity := s.historyCapacity.getD d.historyCapacity
    escapeTimeout := s.escapeTimeout.getD d.escapeTimeout }

end VirtualShell.Settings
