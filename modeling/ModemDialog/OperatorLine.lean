import ModemDialog.Text.Basic

/-! What a line typed by the operator asks for. -/
namespace ModemDialog

inductive OperatorLine where
  | blank
  | halt
  | runScript (path : Text)
  | resume
  | send (command : Text)
  deriving DecidableEq, Repr

namespace OperatorLine

def parse (raw : Text) : OperatorLine :=
  let line := Text.trim raw
  if line.isEmpty then .blank
  else
    let (word, arguments) := Text.headWord line
    if (word = "exit".toList || word = "break".toList) && arguments.isEmpty then .halt
    else if word = "enscom".toList then
      if arguments.isEmpty then .resume else .runScript arguments
    else .send line

end OperatorLine
end ModemDialog
