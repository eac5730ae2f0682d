import ModemDialog.Text.Basic

/-! Backslash escapes. `encode` keeps a text on one line between single quotes;
`decode` reads the four named escapes and leaves every other backslash alone. -/
namespace ModemDialog.Escaped

def hexDigit (n : Nat) : Char :=
  if n < 10 then Char.ofNat (48 + n) else Char.ofNat (87 + n)

def encodeChar (c : Char) : Text :=
  if c = '\r' then ['\\', 'r']
  else if c = '\n' then ['\\', 'n']
  else if c = '\t' then ['\\', 't']
  else if c = '\\' then ['\\', '\\']
  else if c = '\x27' then ['\\', '\x27']
  else if c.toNat < 0x20 || c.toNat = 0x7F then
    ['\\', 'x', hexDigit (c.toNat / 16), hexDigit (c.toNat % 16)]
  else [c]

def encode (t : Text) : Text := t.flatMap encodeChar

def named? : Char → Option Char
  | 'r' => some '\r'
  | 'n' => some '\n'
  | 't' => some '\t'
  | '\\' => some '\\'
  | _ => none

def decode : Text → Text
  | [] => []
  | ['\\'] => ['\\']
  | '\\' :: c :: rest =>
      match named? c with
      | some d => d :: decode rest
      | none => '\\' :: c :: decode rest
  | c :: rest => c :: decode rest

end ModemDialog.Escaped
