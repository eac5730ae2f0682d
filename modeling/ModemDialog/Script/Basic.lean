import ModemDialog.Script.Directive

/-! Scripts as their unread significant lines, and what can be wrong with them. -/
namespace ModemDialog

structure ScriptLine where
  number : Nat
  text : Text
  deriving DecidableEq, Repr

/-- An open script; `pending` holds the lines not yet read. -/
structure Script where
  name : Text
  pending : List ScriptLine
  deriving DecidableEq, Repr

namespace Script

/-- The lines that are neither blank nor comments, trimmed; the first of `raw`
has the number `number`. -/
def significant : (number : Nat) → (raw : List Text) → List ScriptLine
  | _, [] => []
  | number, raw :: more =>
      let text := Text.trim raw
      if text.isEmpty || text.head? = some '#' then significant (number + 1) more
      else ⟨number, text⟩ :: significant (number + 1) more

def ofText (name content : Text) : Script :=
  ⟨name, significant 1 (Text.lines content)⟩

def next? (s : Script) : Option (ScriptLine × Script) :=
  match s.pending with
  | [] => none
  | line :: rest => some (line, { s with pending := rest })

def extension : Text := "scom".toList

end Script

inductive PathFault where
  | noSuchFile
  | notRegular
  | wrongExtension
  | unreadable (cause : Text)
  deriving DecidableEq, Repr

def PathFault.message : PathFault → Text
  | .noSuchFile => "no such file".toList
  | .notRegular => "not a regular file".toList
  | .wrongExtension => "expected a .".toList ++ Script.extension ++ " file".toList
  | .unreadable cause => cause

inductive LineFault where
  | directive (fault : Script.DirectiveFault)
  | notInLoop
  | missingPath
  deriving DecidableEq, Repr

def LineFault.message : LineFault → Text
  | .directive fault => fault.message
  | .notInLoop => "only commands and sleep are allowed inside a loop".toList
  | .missingPath => "missing script path".toList

inductive ScriptFault where
  | file (path : Text) (fault : PathFault)
  | unclosedLoop (script : Text) (line : Nat)
  | badLine (script : Text) (line : ScriptLine) (fault : LineFault)
  deriving DecidableEq, Repr

namespace ScriptFault

def site (script : Text) (line : Nat) : Text :=
  script ++ ':' :: Text.ofNat line ++ ": ".toList

def message : ScriptFault → Text
  | .file path fault => "script ".toList ++ path ++ ": ".toList ++ fault.message
  | .unclosedLoop script line => site script line ++ "loop has no matching loopend".toList
  | .badLine script line fault =>
      site script line.number ++ "invalid directive '".toList ++ line.text ++ "': ".toList ++
        fault.message

end ScriptFault
end ModemDialog
