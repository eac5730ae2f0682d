import ModemDialog.Text.Escaped
import ModemDialog.Text.Utf8

/-! The transcript: one line for each thing sent, received or noted. -/
namespace ModemDialog

inductive Origin where
  | operator
  | script
  deriving DecidableEq, Repr

namespace Origin

/-- Manual or automated. -/
def tag : Origin → Char
  | .operator => 'M'
  | .script => 'A'

def name : Origin → Text
  | .operator => "Interactive".toList
  | .script => "Scripted".toList

end Origin

inductive Direction where
  | outward
  | inward
  deriving DecidableEq, Repr

def Direction.tag : Direction → Char
  | .outward => 'O'
  | .inward => 'I'

namespace Transcript

inductive Entry where
  | moved (origin : Origin) (direction : Direction) (data : Bytes)
  | note (text : Text)
  deriving DecidableEq, Repr

def escape (data : Bytes) : Text := Escaped.encode (Utf8.decodeLossy data)

def Entry.body : Entry → Text
  | .moved origin direction data =>
      '[' :: origin.tag :: direction.tag :: "] '".toList ++ escape data ++ "'".toList
  | .note text => text

def Entry.line (stamp : Text) (e : Entry) : Text :=
  stamp ++ ' ' :: e.body ++ ['\n']

end Transcript
end ModemDialog
