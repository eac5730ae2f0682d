import ModemDialog.Text.Basic
import ModemDialog.Text.Printable

/-! Text in double quotes, with escapes for what would not be seen. -/
namespace ModemDialog.Text

def hexDigits (n : Nat) : Text := Nat.toDigits 16 n

/-- Backslash escapes by name where there is one, otherwise by number. -/
def quotedChar (c : Char) : Text :=
  if c = Char.ofNat 0 then ['\\', '0']
  else if c = '\t' then ['\\', 't']
  else if c = '\r' then ['\\', 'r']
  else if c = '\n' then ['\\', 'n']
  else if c = '\\' then ['\\', '\\']
  else if c = '"' then ['\\', '"']
  else if isAttached c || isUnseen c then
    ['\\', 'u', '\x7b'] ++ hexDigits c.toNat ++ ['\x7d']
  else [c]

def quoted (t : Text) : Text := '"' :: t.flatMap quotedChar ++ ['"']

end ModemDialog.Text
