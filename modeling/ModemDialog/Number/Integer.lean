import ModemDialog.Text.Basic

/-! Unsigned decimal numerals with an optional plus sign and a largest value. -/
namespace ModemDialog

inductive NumeralFault where
  | empty
  | badDigit
  | tooLarge
  deriving DecidableEq, Repr

namespace NumeralFault

def message : NumeralFault → Text
  | .empty => "cannot parse integer from empty string".toList
  | .badDigit => "invalid digit found in string".toList
  | .tooLarge => "number too large to fit in target type".toList

end NumeralFault

namespace Numeral

def digit? (c : Char) : Option Nat :=
  if '0' ≤ c && c ≤ '9' then some (c.toNat - '0'.toNat) else none

/-- Read digits onto `value`; the first fault from the left is the one reported. -/
def digits (largest : Nat) : (value : Nat) → Text → Except NumeralFault Nat
  | value, [] => .ok value
  | value, c :: rest =>
      match digit? c with
      | none => .error .badDigit
      | some d =>
          if largest < value * 10 + d then .error .tooLarge
          else digits largest (value * 10 + d) rest

def parse (largest : Nat) : Text → Except NumeralFault Nat
  | [] => .error .empty
  | ['+'] => .error .badDigit
  | '+' :: rest => digits largest 0 rest
  | t => digits largest 0 t

def largestCount : Nat := 4294967295

def parseCount (t : Text) : Except NumeralFault Nat := parse largestCount t

end Numeral
end ModemDialog
