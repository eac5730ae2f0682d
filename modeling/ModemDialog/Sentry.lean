import ModemDialog.Text.Quoted

/-! Sentries: the markers that end a modem's response. -/
namespace ModemDialog

inductive Delimiter where
  | crLf
  | cr
  | lf
  deriving DecidableEq, Repr

def Delimiter.text : Delimiter → Text
  | .crLf => ['\r', '\n']
  | .cr => ['\r']
  | .lf => ['\n']

/-- A plain sentry ends a response with its literal; a wildcard sentry with the
first delimiter behind it. -/
structure Sentry where
  literal : Text
  wildcard : Option Delimiter
  deriving DecidableEq, Repr

namespace Sentry

def plain (literal : Text) : Sentry := ⟨literal, none⟩

def marker (d : Delimiter) : Text := ['.', '*'] ++ d.text

/-- The sentry a pattern stands for: `.*` and a delimiter at its end make the
text in front of them the literal of a wildcard sentry. -/
def ofPattern (pattern : Text) : Sentry :=
  match (marker .crLf).isSuffixOf? pattern with
  | some literal => ⟨literal, some .crLf⟩
  | none =>
    match (marker .cr).isSuffixOf? pattern with
    | some literal => ⟨literal, some .cr⟩
    | none =>
      match (marker .lf).isSuffixOf? pattern with
      | some literal => ⟨literal, some .lf⟩
      | none => plain pattern

def pattern (s : Sentry) : Text :=
  s.literal ++ (s.wildcard.map marker).getD []

def display (s : Sentry) : Text :=
  Text.quoted s.literal ++
    match s.wildcard with
    | none => []
    | some d => " .. ".toList ++ Text.quoted d.text

def defaults : List Sentry := [
  plain "\r\nOK\r\n".toList,
  plain "\r\nERROR\r\n".toList,
  ⟨"\r\n+CME ERROR:".toList, some .crLf⟩]

end Sentry
end ModemDialog
