import ModemDialog.Text.Basic

/-! Who is in charge: the operator, the scripts, or nobody any more. -/
namespace ModemDialog

inductive Mode where
  | interactive
  | scripted
  | halted
  deriving DecidableEq, Repr

namespace Mode

def name : Mode → Text
  | .interactive => "Interactive".toList
  | .scripted => "Scripted".toList
  | .halted => "Halted".toList

/-- Scripts start at once if there is one, unless the operator goes first. -/
def start (scripts manual : Bool) : Mode :=
  if scripts && !manual then .scripted else .interactive

/-- Nothing leads out of `halted`. -/
def switch (current next : Mode) : Mode :=
  if current = .halted then .halted else next

def scriptsExhausted (manual : Bool) (current : Mode) : Mode :=
  if current = .scripted then current.switch (if manual then .interactive else .halted)
  else current

end Mode
end ModemDialog
