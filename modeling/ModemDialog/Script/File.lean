import ModemDialog.FileTree
import ModemDialog.Script.Basic

/-! Scripts in files. -/
namespace ModemDialog.Script

/-- What follows the last dot of a file name that does not start with it. -/
def extensionOf? (path : Text) : Option Text :=
  match (FileTree.split path).getLast? with
  | none => none
  | some name =>
      if name = ['.', '.'] then none
      else
        let back := name.reverse.takeWhile (· ≠ '.')
        let front := name.reverse.dropWhile (· ≠ '.')
        if front.length ≤ 1 then none else some back.reverse

/-- A script path names a regular file with the right ending. -/
def validate (files : FileTree) (path : Text) : Except ScriptFault Unit :=
  match files.find path with
  | .error _ => .error (.file path .noSuchFile)
  | .ok (.file _) =>
      if extensionOf? path = some extension then .ok ()
      else .error (.file path .wrongExtension)
  | .ok _ => .error (.file path .notRegular)

def load (files : FileTree) (path : Text) : Except ScriptFault Script := do
  validate files path
  match files.readText path with
  | .ok content => .ok (ofText path content)
  | .error fault => .error (.file path (.unreadable fault.message))

end ModemDialog.Script
