import ModemDialog.FileTree
import ModemDialog.Notice

/-! Settings read from a file. -/
namespace ModemDialog

structure SettingsUnreadable where
  path : Text
  fault : FileFault
  deriving DecidableEq, Repr

def SettingsUnreadable.message (u : SettingsUnreadable) : Text :=
  "failed to read config file ".toList ++ u.path ++ ": ".toList ++ u.fault.message

/-- The settings of a file, and a notice for every line that was passed over. -/
def Settings.load (files : FileTree) (path : Text) :
    Except SettingsUnreadable (Settings × List Notice) :=
  match files.readText path with
  | .error fault => .error ⟨path, fault⟩
  | .ok content =>
      let (s, problems) := parse content
      .ok (s, problems.map (.settingIgnored path))

end ModemDialog
