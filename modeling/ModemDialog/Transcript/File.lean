import ModemDialog.FileTree

/-! The file a transcript is written to. -/
namespace ModemDialog.Transcript

structure FileRefused where
  path : Text
  fault : FileFault
  deriving DecidableEq, Repr

namespace FileRefused

def headline (r : FileRefused) : Text := "Failed to create log file: ".toList ++ r.path

def message (r : FileRefused) : Text := r.headline ++ ": ".toList ++ r.fault.message

end FileRefused

/-- Make an empty file, or empty the one that is there. -/
def create (files : FileTree) (path : Text) :
    Except FileRefused (FileTree × List Text) :=
  match files.forWriting path with
  | .ok place => .ok (files.set place (.file []), place)
  | .error fault => .error ⟨path, fault⟩

end ModemDialog.Transcript
