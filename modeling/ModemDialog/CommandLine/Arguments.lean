import ModemDialog.Settings.Value

/-! The arguments of the command line: options in any order, then the arguments of a
program to run. The first fault found, in the order of the arguments, is the one
reported. -/
namespace ModemDialog.CommandLine

inductive OptionName where
  | device
  | exec
  | script
  | manual
  | baud
  | config
  | log
  | logFile
  | timeout
  | verbose
  | help
  | version
  deriving DecidableEq, Repr

namespace OptionName

def all : List OptionName :=
  [device, exec, script, manual, baud, config, log, logFile, timeout, verbose, help, version]

def long : OptionName → Text
  | device => "device".toList
  | exec => "exec".toList
  | script => "script".toList
  | manual => "manual".toList
  | baud => "baud".toList
  | config => "config".toList
  | log => "log".toList
  | logFile => "log-file".toList
  | timeout => "timeout".toList
  | verbose => "verbose".toList
  | help => "help".toList
  | version => "version".toList

def letters : OptionName → List Char
  | device => ['d']
  | exec => ['x']
  | script => ['s', 'a']
  | manual => ['m']
  | baud => ['b']
  | config => ['c']
  | log => ['l']
  | logFile => []
  | timeout => ['t']
  | verbose => ['v']
  | help => ['h']
  | version => ['V']

def value? : OptionName → Option Text
  | device => some "DEVICE".toList
  | exec => some "PROGRAM".toList
  | script => some "SCRIPT".toList
  | baud => some "BAUD".toList
  | config => some "CONFIG".toList
  | logFile => some "LOG_FILE".toList
  | timeout => some "TIMEOUT".toList
  | _ => none

def isFlag (o : OptionName) : Bool := o.value?.isNone

def label (o : OptionName) : Text :=
  "--".toList ++ o.long ++ match o.value? with
    | some v => " <".toList ++ v ++ ['>']
    | none => []

def ofLong? (name : Text) : Option OptionName := all.find? (·.long = name)

def ofLetter? (c : Char) : Option OptionName := all.find? (c ∈ ·.letters)

end OptionName

inductive UsageFault where
  | unknown (argument : Text)
  | valueMissing (option : OptionName)
  | badValue (option : OptionName) (value : Text) (fault : ValueFault)
  | repeated (option : OptionName)
  | flagGivenValue (option : OptionName) (value : Text)
  | exclusive (given other : OptionName)
  | targetMissing
  deriving DecidableEq, Repr

def UsageFault.message : UsageFault → Text
  | .unknown argument => "unexpected argument '".toList ++ argument ++ "' found".toList
  | .valueMissing option =>
      "a value is required for '".toList ++ option.label ++ "' but none was supplied".toList
  | .badValue option value fault =>
      "invalid value '".toList ++ value ++ "' for '".toList ++ option.label ++ "': ".toList ++
        fault.message
  | .repeated option =>
      "the argument '".toList ++ option.label ++ "' cannot be used multiple times".toList
  | .flagGivenValue option value =>
      "unexpected value '".toList ++ value ++ "' for '".toList ++ option.label ++
        "' found; no more were expected".toList
  | .exclusive given other =>
      "the argument '".toList ++ given.label ++ "' cannot be used with '".toList ++
        other.label ++ ['\x27']
  | .targetMissing =>
      "the following required arguments were not provided:\n  <".toList ++
        OptionName.device.label ++ ['|'] ++ OptionName.exec.label ++ ['>']

inductive Halt where
  | help
  | version
  | fault (f : UsageFault)
  deriving DecidableEq, Repr

structure Arguments where
  device : Option Text
  exec : Option Text
  script : Option Text
  manual : Bool
  baud : Option Nat
  config : Option Text
  log : Bool
  logFile : Text
  timeout : Option Duration
  verbose : Bool
  operands : List Text
  deriving DecidableEq, Repr

/-- Options accepted so far, in order; one that waits to be accepted, with its value if
that has come; and the operands, in order. -/
structure Reading where
  given : List (OptionName × Text)
  waiting : Option (OptionName × Option Text)
  operands : List Text
  deriving DecidableEq, Repr

namespace Reading

def start : Reading := ⟨[], none, []⟩

/-- Paths may not be empty; a rate and a time have forms of their own. -/
def checkValue (o : OptionName) (value : Text) : Except Halt Unit :=
  match o with
  | .script | .config | .logFile =>
      if value.isEmpty then .error (.fault (.valueMissing o)) else .ok ()
  | .baud => (Value.parseRate value).map (fun _ => ()) |>.mapError (.fault <| .badValue o value ·)
  | .timeout =>
      (Value.parseSeconds value).map (fun _ => ()) |>.mapError (.fault <| .badValue o value ·)
  | _ => .ok ()

/-- Accept an option. A value that is missing is reported before a repetition, and that
before a bad value. -/
def accept (r : Reading) (o : OptionName) (value : Option Text) : Except Halt Reading :=
  match o with
  | .help => .error .help
  | .version => .error .version
  | _ =>
      if !o.isFlag && value.isNone then .error (.fault (.valueMissing o))
      else if r.given.any (·.1 = o) then .error (.fault (.repeated o))
      else do
        checkValue o (value.getD [])
        .ok { r with given := r.given ++ [(o, value.getD [])] }

def settle (r : Reading) : Except Halt Reading :=
  match r.waiting with
  | none => .ok r
  | some (o, value) => accept { r with waiting := none } o value

/-- An option that takes a value: accepted at once if the value is attached, and only
with the next option, operand or the end if it is an argument of its own. -/
def open? (r : Reading) (o : OptionName) : Option Text → Except Halt Reading
  | some value => do (← r.settle).accept o (some value)
  | none => do .ok { (← r.settle) with waiting := some (o, none) }

def flag (r : Reading) (o : OptionName) : Except Halt Reading := do
  (← r.settle).accept o none

def long (r : Reading) (argument : Text) : Except Halt Reading :=
  let (name, value) := match Text.cut? '=' argument with
    | some (name, value) => (name, some value)
    | none => (argument, none)
  match OptionName.ofLong? name with
  | none => .error (.fault (.unknown ("--".toList ++ name)))
  | some o =>
      if o.isFlag then
        match value with
        | some v => .error (.fault (.flagGivenValue o v))
        | none => r.flag o
      else r.open? o value

/-- Letters behind one dash. Those of flags may be joined; behind a letter that takes a
value the rest is the value, with or without an equals sign. -/
def letters (r : Reading) : Text → Except Halt Reading
  | [] => .ok r
  | c :: rest =>
      match OptionName.ofLetter? c with
      | none => .error (.fault (.unknown ['-', c]))
      | some o =>
          if o.isFlag then do letters (← r.flag o) rest
          else match rest with
            | [] => r.open? o none
            | '=' :: value => r.open? o (some value)
            | value => r.open? o (some value)

/-- The first operand; everything behind it is an operand too. -/
def operand (r : Reading) (argument : Text) (rest : List Text) : Except Halt Reading := do
  .ok { (← r.settle) with operands := argument :: rest }

def read (r : Reading) : List Text → Except Halt Reading
  | [] => r.settle
  | argument :: rest =>
      match argument with
      | ['-', '-'] =>
          match rest with
          | [] => r.settle
          | first :: more => r.operand first more
      | '-' :: '-' :: name => do read (← r.long name) rest
      | '-' :: c :: more => do read (← r.letters (c :: more)) rest
      | _ =>
          match r.waiting with
          | some (o, none) => read { r with waiting := some (o, some argument) } rest
          | _ => r.operand argument rest

def value? (r : Reading) (o : OptionName) : Option Text :=
  (r.given.find? (·.1 = o)).map (·.2)

def has (r : Reading) (o : OptionName) : Bool := (r.value? o).isSome

/-- A device and a program exclude each other, and one of them is needed. -/
def checkTarget (r : Reading) : Except UsageFault Unit :=
  match r.given.filter fun (o, _) => o = .device || o = .exec with
  | [] => .error .targetMissing
  | [_] => .ok ()
  | (a, _) :: (b, _) :: _ => .error (.exclusive a b)

end Reading

namespace Arguments

def defaultLog : Text := "sercom.log".toList

def ofReading (r : Reading) : Arguments where
  device := r.value? .device
  exec := r.value? .exec
  script := r.value? .script
  manual := r.has .manual
  baud := (r.value? .baud).bind fun t => (Value.parseRate t).toOption
  config := r.value? .config
  log := r.has .log
  logFile := (r.value? .logFile).getD defaultLog
  timeout := (r.value? .timeout).bind fun t => (Value.parseSeconds t).toOption
  verbose := r.has .verbose
  operands := r.operands

def parse (arguments : List Text) : Except Halt Arguments := do
  let r ← Reading.start.read arguments
  (r.checkTarget).mapError .fault
  .ok (ofReading r)

end Arguments
end ModemDialog.CommandLine
