import ModemDialog.Device
import ModemDialog.FileTree
import ModemDialog.Reader
import ModemDialog.Terminal.Burst
import ModemDialog.Terminal.Modes

/-! A terminal line opened with its settings, and the device at its other end. -/
namespace ModemDialog

inductive OpenFault where
  | unavailable (device : Text) (fault : FileFault)
  | notATerminal (device : Text)
  | rateUnsupported (device : Text) (baud : Nat)
  deriving DecidableEq, Repr

def OpenFault.message : OpenFault → Text
  | .unavailable device fault =>
      "failed to open device ".toList ++ device ++ ": ".toList ++ fault.message
  | .notATerminal device =>
      "failed to configure device ".toList ++ device ++
        ": tcgetattr: ENOTTY: Not a typewriter".toList
  | .rateUnsupported device baud =>
      "failed to configure device ".toList ++ device ++ ": baud rate ".toList ++
        Text.ofNat baud ++ " is not supported by this platform".toList

inductive SerialFault where
  | read (fault : Terminal.ReadFault)
  | closed
  | notWritable (timeout : Duration)
  | writeFailed
  | drainFailed
  deriving DecidableEq, Repr

def SerialFault.message : SerialFault → Text
  | .read fault => fault.message
  | .closed => "serial device already closed".toList
  | .notWritable timeout => "serial device not writable within ".toList ++ timeout.display
  | .writeFailed => "write to serial device: Input/output error (os error 5)".toList
  | .drainFailed => "tcdrain: EIO: I/O error".toList

/-- `queue` holds what the device has sent and nobody has read; `coming` what it still
sends while a read runs; `stopped` is set while the device asks for silence. -/
structure SerialLine where
  modes : Terminal.Modes
  readTimeout : Duration
  writeTimeout : Duration
  queue : Bytes
  coming : List Bytes
  stopped : Bool
  gone : Bool
  writer : Bool
  deriving DecidableEq, Repr

namespace SerialLine

/-- A regular file or another device can be opened, but has no modes. -/
def locate (files : FileTree) (device : Text) : Except OpenFault Unit :=
  match files.find device with
  | .error fault => .error (.unavailable device fault)
  | .ok .directory => .error (.unavailable device .isADirectory)
  | .ok .terminal => .ok ()
  | .ok _ => .error (.notATerminal device)

/-- The notices are given even if nobody asks for the line. -/
def «open» (files : FileTree) (device : Text) (s : LineSettings) :
    Except OpenFault (SerialLine × List Notice) := do
  locate files device
  if Terminal.Modes.hasRate s.baud then
    let modes := (Terminal.Modes.ofSettings s).kept
    .ok (⟨modes, s.readTimeout, s.writeTimeout, [], [], false, false, true⟩,
      Terminal.Modes.notices s ++ [.lineOpened device s.baud])
  else .error (.rateUnsupported device s.baud)

def xoff : UInt8 := 0x13

def xon : UInt8 := 0x11

/-- The device sends a byte; with flow control two bytes stop and start the writer. -/
def hear (l : SerialLine) (b : UInt8) : SerialLine :=
  if .ixon ∈ l.modes.input && b = xoff then { l with stopped := true }
  else if .ixon ∈ l.modes.input && b = xon then { l with stopped := false }
  else { l with queue := l.queue ++ [b] }

def send (l : SerialLine) (data : Bytes) : SerialLine := data.foldl hear l

def hangup (l : SerialLine) : SerialLine := { l with gone := true }

def spacing : Nat := 10

def settle (millis : Nat) : List Bytes → SerialLine → SerialLine
  | [], l => { l with coming := [] }
  | chunk :: rest, l =>
      if l.queue.isEmpty && spacing ≤ millis then settle (millis - spacing) rest (l.send chunk)
      else { l with coming := chunk :: rest }

def hungUp : Text := "PollFlags(POLLIN | POLLERR | POLLHUP)".toList

def source : Terminal.Source SerialLine where
  wait l d :=
    if l.gone then (l, .gone hungUp)
    else
      let l := settle (d.nanos / 1000000) l.coming l
      (l, if l.queue.isEmpty then .expired else .ready)
  read l room := ({ l with queue := l.queue.drop room }, .bytes (l.queue.take room))

def read (l : SerialLine) (room : Nat) (wait : Duration) (coming : List Bytes) :
    SerialLine × Except SerialFault Bytes :=
  let (l, r) := source.burst l.readTimeout { l with coming } room wait
  (({ l with coming := [] }).send l.coming.flatten, r.mapError .read)

/-- Bytes that have come by `time`, as the reader hands them out: a burst that fills its chunk at
once, a shorter one when nothing has followed it for the read timeout. -/
def bursts (l : SerialLine) (time : Nat) (data : Bytes) : Bytes × List (Nat × Arrival) :=
  let full := data.length / Reader.chunkSize * Reader.chunkSize
  let quiet := (Terminal.Source.span l.readTimeout).nanos / 1000000
  (data.take full,
    if full = data.length then [] else [(time + quiet, .data (data.drop full))])

/-- The device as it is heard through the reader. What is still being collected when the line is
lost is never heard. -/
def heard (l : SerialLine) (device : Device) : Device := fun earlier w =>
  let reply := device earlier w
  let (data, held) := l.bursts 0 reply.data
  let later := reply.later.flatMap fun
    | (time, .data data) =>
        let (data, held) := l.bursts time data
        (if data.isEmpty then [] else [(time, .data data)]) ++ held
    | entry => [entry]
  { reply with data, later := held ++ later }

/-- What reaches the device. A device that is gone is noticed before a stopped line,
but only by a write that has something to say. -/
def write (l : SerialLine) (data : Bytes) : Except SerialFault Bytes :=
  if !l.writer then .error .closed
  else if l.stopped && !l.gone then .error (.notWritable l.writeTimeout)
  else if l.gone && !data.isEmpty then .error .writeFailed
  else .ok data

/-- Close the writer; it is closed even if the last bytes cannot be drained. -/
def close (l : SerialLine) : SerialLine × Except SerialFault Unit :=
  if l.writer && l.gone then ({ l with writer := false }, .error .drainFailed)
  else ({ l with writer := false }, .ok ())

end SerialLine
end ModemDialog
