import ModemDialog.Mode
import ModemDialog.Script.Loop
import ModemDialog.Settings.Parser
import ModemDialog.Transcript

/-! What a session reports about itself, apart from the transcript. -/
namespace ModemDialog

inductive Level where
  | debug
  | info
  | warn
  | error
  deriving DecidableEq, Repr

def Level.name : Level → Text
  | .debug => "DEBUG".toList
  | .info => "INFO".toList
  | .warn => "WARN".toList
  | .error => "ERROR".toList

inductive Departure where
  | ended
  | broke
  deriving DecidableEq, Repr

def Departure.text : Departure → Text
  | .ended => "end of script".toList
  | .broke => "break".toList

inductive Notice where
  | sentry (s : Sentry)
  | sending (origin : Origin) (command : Text)
  | abandoned (command : Text)
  | linkAnswered (command : Text)
  | directive (script : Text) (line : ScriptLine)
  | round (n : Nat)
  | inputClosed
  | lineOpened (device : Text) (baud : Nat)
  | programStarted (program : Text)
  | scriptEntered (script : Text) (depth : Nat)
  | scriptLeft (departure : Departure) (script : Text) (resuming : Option Text)
  | toOperator (script : Text) (line : Nat)
  | unboundedLoop
  | linkPassed
  | modeStarted (mode : Mode)
  | modeChanged (before after : Mode)
  | sessionHalted
  | timedOut (command : Text) (timeout : Duration)
  | stray (command : Text) (data : Bytes)
  | transcriptFailed (cause : Text)
  | strayLoopEnd (script : Text) (line : Nat)
  | loopSkipped (fault : ScriptFault)
  | includeFailed (script : Text) (line : Nat) (fault : ScriptFault)
  | pathMissing (fault : ScriptFault)
  | lineDiscarded (fault : ScriptFault)
  | emptyLoop
  | nothingToResume
  | scriptRefused (fault : ScriptFault)
  | settingIgnored (file : Text) (problem : SettingsProblem)
  | stopBitsRounded
  | flowUnavailable
  | readerStopped (cause : Text)
  deriving DecidableEq, Repr

namespace Notice

def level : Notice → Level
  | .sentry _ | .sending .. | .abandoned _ | .linkAnswered _ | .directive .. | .round _
  | .inputClosed | .lineOpened .. | .programStarted _ => .debug
  | .scriptEntered .. | .scriptLeft .. | .toOperator .. | .unboundedLoop | .linkPassed
  | .modeStarted _ | .modeChanged .. | .sessionHalted => .info
  | .timedOut .. | .stray .. | .transcriptFailed _ | .strayLoopEnd .. | .loopSkipped _
  | .includeFailed .. | .pathMissing _ | .lineDiscarded _ | .emptyLoop | .nothingToResume
  | .scriptRefused _ | .settingIgnored .. | .stopBitsRounded | .flowUnavailable => .warn
  | .readerStopped _ => .error

def message : Notice → Text
  | .sentry _ => "sentry".toList
  | .sending .. => "sending command".toList
  | .abandoned _ => "shutdown while waiting for response".toList
  | .linkAnswered _ => "handshake succeeded".toList
  | .directive .. => "directive".toList
  | .round _ => "loop iteration".toList
  | .inputClosed => "operator input closed".toList
  | .lineOpened .. => "opened serial device".toList
  | .programStarted _ => "spawned program in PTY".toList
  | .scriptEntered .. => "entering script".toList
  | .scriptLeft departure _ resuming =>
      departure.text ++
        (if resuming.isSome then ", returning to mother script" else ", no scripts left").toList
  | .toOperator .. => "switching to interactive mode".toList
  | .unboundedLoop => "starting unbounded loop, runs until the session is stopped".toList
  | .linkPassed => "link check passed".toList
  | .modeStarted _ => "session mode".toList
  | .modeChanged .. => "mode change".toList
  | .sessionHalted => "session halted".toList
  | .timedOut .. => "response timed out".toList
  | .stray .. => "unexpected data ahead of response".toList
  | .transcriptFailed cause => "failed to write log file: ".toList ++ cause
  | .strayLoopEnd .. => "loopend without loopbegin, ignored".toList
  | .loopSkipped fault => fault.message ++ ", loop skipped".toList
  | .includeFailed script line fault => ScriptFault.site script line ++ fault.message
  | .pathMissing fault => fault.message
  | .lineDiscarded fault => fault.message ++ ", line discarded".toList
  | .emptyLoop => "empty unbounded loop, waiting until the session is stopped".toList
  | .nothingToResume => "no suspended script to resume".toList
  | .scriptRefused fault => fault.message
  | .settingIgnored _ problem => problem.message ++ ", using default".toList
  | .stopBitsRounded => "1.5 stop bits has no termios setting, using 2".toList
  | .flowUnavailable => "DSR/DTR flow control has no termios setting, disabled".toList
  | .readerStopped cause => "stream reader stopped: ".toList ++ cause

/-- Named details, in no particular order. -/
def fields : Notice → List (Text × Text)
  | .sentry s => [("sentry".toList, s.display)]
  | .sending origin command => [("source".toList, origin.name), ("command".toList, command)]
  | .abandoned command | .linkAnswered command => [("command".toList, command)]
  | .directive script line =>
      [("script".toList, script), ("line".toList, Text.ofNat line.number),
        ("text".toList, line.text)]
  | .round n => [("round".toList, Text.ofNat n)]
  | .lineOpened device baud =>
      [("device".toList, device), ("baud".toList, Text.ofNat baud)]
  | .programStarted program => [("program".toList, program)]
  | .scriptEntered script depth =>
      [("script".toList, script), ("depth".toList, Text.ofNat depth)]
  | .scriptLeft _ script resuming =>
      ("script".toList, script) :: (resuming.map fun r => ("resuming".toList, r)).toList
  | .toOperator script line | .strayLoopEnd script line =>
      [("script".toList, script), ("line".toList, Text.ofNat line)]
  | .modeStarted mode => [("mode".toList, mode.name)]
  | .modeChanged before after => [("from".toList, before.name), ("to".toList, after.name)]
  | .timedOut command timeout =>
      [("command".toList, command), ("timeout".toList, timeout.display)]
  | .stray command data =>
      [("command".toList, command), ("data".toList, Transcript.escape data)]
  | .settingIgnored file _ => [("config".toList, file)]
  | _ => []

end Notice
end ModemDialog
