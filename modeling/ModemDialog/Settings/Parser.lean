import ModemDialog.Settings.Value

/-! The settings file: `key=value` lines, blank lines and `#` comments. Each line
is judged alone; valid ones are assigned in order, the others are reported. -/
namespace ModemDialog

inductive Assignment where
  | command (t : Text)
  | expect (t : Text)
  | baud (rate : Nat)
  | charSize (s : CharSize)
  | parity (p : Parity)
  | stopBits (s : StopBits)
  | flow (f : FlowControl)
  | readTimeout (d : Duration)
  | writeTimeout (d : Duration)
  | sentry (s : Sentry)
  deriving DecidableEq, Repr

inductive SettingsProblem where
  | notAPair (line : Nat) (text : Text)
  | unknownKey (line : Nat) (key : Text)
  | badValue (line : Nat) (key value : Text) (fault : ValueFault)
  deriving DecidableEq, Repr

namespace SettingsProblem

def atLine (line : Nat) : Text := "line ".toList ++ Text.ofNat line ++ ": ".toList

def message : SettingsProblem → Text
  | .notAPair line text => atLine line ++ "expected key=value, got '".toList ++ text ++ "'".toList
  | .unknownKey line key => atLine line ++ "unknown key '".toList ++ key ++ "'".toList
  | .badValue line key value fault =>
      atLine line ++ "invalid value '".toList ++ value ++ "' for ".toList ++ key ++ ": ".toList ++
        fault.message

end SettingsProblem

namespace Assignment

def sentryKey : Text := "sentry".toList

def parse? (key value : Text) : Option (Except ValueFault Assignment) :=
  if key = "scvcmd".toList then some (.ok (.command value))
  else if key = "scvrsp".toList then some (.ok (.expect value))
  else if key = "baudrt".toList then some ((Value.parseRate value).map .baud)
  else if key = "bytesz".toList then some ((Value.choose Value.charSizes value).map .charSize)
  else if key = "parity".toList then some ((Value.choose Value.parities value).map .parity)
  else if key = "stpbit".toList then some ((Value.choose Value.stopBits value).map .stopBits)
  else if key = "flowct".toList then some ((Value.choose Value.flowControls value).map .flow)
  else if key = "rdtout".toList then some ((Value.parseSeconds value).map .readTimeout)
  else if key = "wrtout".toList then some ((Value.parseSeconds value).map .writeTimeout)
  else if key = sentryKey then some ((Value.parseSentry value).map .sentry)
  else none

def sentry? : Assignment → Option Sentry
  | .sentry s => some s
  | _ => none

end Assignment

namespace Settings

def judge (number : Nat) (raw : Text) : Option (Except SettingsProblem Assignment) :=
  let text := Text.trim raw
  if text.isEmpty || text.head? = some '#' then none
  else some <|
    match Text.cut? '=' text with
    | none => .error (.notAPair number text)
    | some (front, back) =>
        let key := Text.trim front
        let value := if key = Assignment.sentryKey then back else Text.trim back
        match Assignment.parse? key value with
        | none => .error (.unknownKey number key)
        | some (.error fault) => .error (.badValue number key value fault)
        | some (.ok a) => .ok a

def judgements : (number : Nat) → List Text → List (Except SettingsProblem Assignment)
  | _, [] => []
  | number, raw :: more =>
      (judge number raw).toList ++ judgements (number + 1) more

/-- Set one value; a sentry is kept apart, see `assignAll`. -/
def assign (s : Settings) : Assignment → Settings
  | .command t => { s with linkCheck := { s.linkCheck with command := t } }
  | .expect t => { s with linkCheck := { s.linkCheck with expect := t } }
  | .baud rate => { s with line := { s.line with baud := rate } }
  | .charSize x => { s with line := { s.line with charSize := x } }
  | .parity x => { s with line := { s.line with parity := x } }
  | .stopBits x => { s with line := { s.line with stopBits := x } }
  | .flow x => { s with line := { s.line with flow := x } }
  | .readTimeout d => { s with line := { s.line with readTimeout := d } }
  | .writeTimeout d => { s with line := { s.line with writeTimeout := d } }
  | .sentry _ => s

/-- Assign in order. The sentries named, if any, replace the whole set. -/
def assignAll (s : Settings) (as : List Assignment) : Settings :=
  let assigned := as.foldl assign s
  let own := as.filterMap Assignment.sentry?
  if own.isEmpty then assigned else { assigned with sentries := own }

def valid (js : List (Except SettingsProblem Assignment)) : List Assignment :=
  js.filterMap fun
    | .ok a => some a
    | .error _ => none

def problems (js : List (Except SettingsProblem Assignment)) : List SettingsProblem :=
  js.filterMap fun
    | .ok _ => none
    | .error p => some p

def parse (content : Text) : Settings × List SettingsProblem :=
  let js := judgements 1 (Text.lines content)
  (Settings.default.assignAll (valid js), problems js)

end Settings
end ModemDialog
