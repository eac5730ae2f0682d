import ModemDialog.CommandLine.Arguments
import ModemDialog.CommandLine.Operator
import ModemDialog.Program
import ModemDialog.Settings.File
import ModemDialog.Terminal.SerialLine
import ModemDialog.Transcript.File

/-! The command line from its arguments to its exit code. -/
namespace ModemDialog.CommandLine

/-- What the command line finds: files, the device behind a terminal, and standard input;
and the stamp of a transcript line at a time. -/
structure World where
  files : FileTree
  device : Device
  input : Bytes
  staysOpen : Bool
  stamp : Nat → Text

/-- What it leaves: the exit code, standard output, the message on standard error, and
the files. -/
structure Report where
  code : Nat
  output : Bytes
  complaint : Text
  files : FileTree

def version : Text := "sercom 0.1.0\n".toList

def help : Text :=
  "Send commands to a serial modem, interactively or from .scom scripts

Usage: sercom [OPTIONS] <--device <DEVICE>|--exec <PROGRAM>> [ARGS]...

Arguments:
  [ARGS]...  Arguments to pass to the program given with --exec

Options:
  -d, --device <DEVICE>      Serial device to open, e.g. /dev/ttyUSB0
  -x, --exec <PROGRAM>       Run a program in a PTY and talk to it instead of a device
  -s, --script <SCRIPT>      Script to run at startup
  -m, --manual               Start in interactive mode and return to it when scripts finish
  -b, --baud <BAUD>          Baud rate, overriding the config file
  -c, --config <CONFIG>      Config file with key=value settings
  -l, --log                  Write a transcript of the session
      --log-file <LOG_FILE>  Transcript file used with --log [default: sercom.log]
  -t, --timeout <TIMEOUT>    Response timeout in seconds, overriding the default
  -v, --verbose              Show debug diagnostics
  -h, --help                 Print help
  -V, --version              Print version
".toList

namespace Report

def misuse (files : FileTree) (message : Text) : Report :=
  ⟨2, [], "error: ".toList ++ message, files⟩

def failure (files : FileTree) (output : Bytes) (headline : Text) : Report :=
  ⟨1, output, "Error: ".toList ++ headline, files⟩

def ofHalt (files : FileTree) : Halt → Report
  | .help => ⟨0, Utf8.encode help, [], files⟩
  | .version => ⟨0, Utf8.encode version, [], files⟩
  | .fault f => misuse files f.message

end Report

/-- The other end of a session: a device, what it does by itself, and what closing it
meets with once the line is lost. -/
structure Link where
  device : Device
  opening : List (Nat × Arrival)
  closingLost : Except Text Unit
  notices : List Notice

def connect (w : World) (a : Arguments) (s : LineSettings) : Except Text Link :=
  match a.exec with
  | some program =>
      match Program.spawn w.files program a.operands with
      | .ok (p, notices) => .ok ⟨Console.device p, Console.opening p, .ok (), notices⟩
      | .error _ => .error ("Failed to start ".toList ++ program)
  | none =>
      match SerialLine.open w.files (a.device.getD []) s with
      | .ok (line, notices) =>
          .ok ⟨line.heard w.device, [], .error SerialFault.drainFailed.message, notices⟩
      | .error fault => .error fault.message

def settings (files : FileTree) (a : Arguments) :
    Except SettingsUnreadable (Settings × List Notice) := do
  let (s, notices) ← match a.config with
    | some path => Settings.load files path
    | none => .ok (.default, [])
  let line := { s.line with baud := a.baud.getD s.line.baud }
  let responseTimeout := a.timeout.getD s.responseTimeout
  .ok ({ s with line, responseTimeout }, notices)

def transcript (files : FileTree) (a : Arguments) :
    Except Transcript.FileRefused (FileTree × Option (List Text)) :=
  if a.log then (Transcript.create files a.logFile).map fun (files, place) => (files, some place)
  else .ok (files, none)

def printed (b : Bench) : Bytes :=
  b.trace.reverse.flatMap fun (_, e) => match e with
    | .printed data => data
    | _ => []

def recorded (stamp : Nat → Text) (b : Bench) : Text :=
  b.trace.reverse.flatMap fun (t, e) => match e with
    | .recorded entry => entry.line (stamp t)
    | _ => []

def lineLost (b : Bench) : Bool :=
  b.trace.any fun (_, e) => match e with
    | .noticed (.readerStopped _) => true
    | _ => false

def engine (w : World) (a : Arguments) (s : Settings) (link : Link) (files : FileTree)
    (machine : Script.Machine) (notices : List Notice) : Engine :=
  let sink : Sink := if a.log then .file else .none
  let bench := Bench.start link.device s.sentries s.pollInterval sink
  let bench := { bench.notices notices with agenda := link.opening }
  { bench, dialogue := .start machine a.manual, operator := operatorOf w.input w.staysOpen,
    files, timeout := s.responseTimeout, linkCheck := s.linkCheck }

structure Prepared where
  link : Link
  place : Option (List Text)
  engine : Engine

/-- Make everything ready. Arguments are looked at first, then the settings and the
script's path; after that the line is opened, the transcript made and the script read. -/
def prepare (w : World) (arguments : List Text) : Except Report Prepared := do
  let a ← (Arguments.parse arguments).mapError (.ofHalt w.files)
  let (s, ignored) ← (settings w.files a).mapError (.misuse w.files ·.message)
  (a.script.forM (Script.validate w.files)).mapError (.misuse w.files ·.message)
  let link ← (connect w a s.line).mapError (.failure w.files [])
  let (files, place) ← (transcript w.files a).mapError (.failure w.files [] ·.headline)
  let script ← (a.script.mapM (Script.load files)).mapError
    fun _ => .failure files [] "Failed to load startup script".toList
  let (machine, entered) := match script with
    | some script => (Script.Machine.empty.push script).map id fun n => [n]
    | none => (Script.Machine.empty, [])
  let notices := ignored ++ link.notices ++ s.sentries.map .sentry ++ entered
  .ok ⟨link, place, engine w a s link files machine notices⟩

def Prepared.filesAfter (p : Prepared) (stamp : Nat → Text) (e : Engine) : FileTree :=
  match p.place with
  | some place => e.files.set place (.file (Utf8.encode (recorded stamp e.bench)))
  | none => e.files

def Prepared.report (p : Prepared) (stamp : Nat → Text) (e : Engine) (ending : Engine.Ending) :
    Report :=
  let files := p.filesAfter stamp e
  let output := printed e.bench
  let closing := if lineLost e.bench then p.link.closingLost else .ok ()
  match ending, closing with
  | .error fault, _ => .failure files output fault.headline
  | .ok (), .error _ => .failure files output CloseFault.headline
  | .ok (), .ok () => ⟨0, output, [], files⟩

/-- Run the command line; `none` if the session needs more than `fuel` steps. -/
def run (fuel : Nat) (w : World) (arguments : List Text) : Option Report :=
  match prepare w arguments with
  | .error report => some report
  | .ok p => (p.engine.run fuel).map fun (e, ending) => p.report w.stamp e ending

end ModemDialog.CommandLine
