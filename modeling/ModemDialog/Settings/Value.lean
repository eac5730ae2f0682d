import ModemDialog.Settings.Basic
import ModemDialog.Text.Escaped

/-! Values of settings: rates, spans of seconds and choices, read from text. -/
namespace ModemDialog

inductive ValueFault where
  | notANumber (value : Text)
  | rateNotOffered (rate : Nat)
  | notSeconds (value : Text)
  | seconds (fault : SecondsFault)
  | notOffered (offered : List Text)
  | emptySentry
  deriving DecidableEq, Repr

def offeredRates : List Nat :=
  [110, 300, 600, 1200, 2400, 4800, 9600, 14400, 19200, 38400, 57600, 115200, 230400, 460800,
    921600]

namespace ValueFault

def message : ValueFault → Text
  | .notANumber value => "'".toList ++ value ++ "' is not a number".toList
  | .rateNotOffered rate =>
      Text.ofNat rate ++ " is not one of [".toList ++
        Text.join ", ".toList (offeredRates.map Text.ofNat) ++ "]".toList
  | .notSeconds value => "'".toList ++ value ++ "' is not a number of seconds".toList
  | .seconds fault => fault.message
  | .notOffered offered => "expected one of ".toList ++ Text.join ", ".toList offered
  | .emptySentry => "sentry must not be empty".toList

end ValueFault

namespace Value

def parseRate (value : Text) : Except ValueFault Nat :=
  match Numeral.parseCount (Text.trim value) with
  | .error _ => .error (.notANumber value)
  | .ok rate => if rate ∈ offeredRates then .ok rate else .error (.rateNotOffered rate)

def parseSeconds (value : Text) : Except ValueFault Duration :=
  match Decimal.parse (Text.trim value) with
  | .error _ => .error (.notSeconds value)
  | .ok x =>
      match Duration.ofSeconds x with
      | .error fault => .error (.seconds fault)
      | .ok d => .ok d

def choose (table : List (Text × α)) (value : Text) : Except ValueFault α :=
  match table.find? (·.1 = value) with
  | some (_, a) => .ok a
  | none => .error (.notOffered (table.map (·.1)))

def charSizes : List (Text × CharSize) :=
  [(['5'], .five), (['6'], .six), (['7'], .seven), (['8'], .eight)]

def parities : List (Text × Parity) :=
  [(['N'], .none), (['E'], .even), (['O'], .odd), (['M'], .mark), (['S'], .space)]

def stopBits : List (Text × StopBits) :=
  [(['1'], .one), (['1', '.', '5'], .oneAndHalf), (['2'], .two)]

def flowControls : List (Text × FlowControl) :=
  [(['N'], .none), (['X'], .xonXoff), (['R'], .rtsCts), (['D'], .dsrDtr)]

/-- A sentry in its escaped form, taken with every blank it has. -/
def parseSentry (value : Text) : Except ValueFault Sentry :=
  let decoded := Escaped.decode value
  if decoded.isEmpty then .error .emptySentry else .ok (.ofPattern decoded)

end Value
end ModemDialog
