import ModemDialog.Device
import ModemDialog.Exchange
import ModemDialog.Notice

/-! A session on a bench: a device, a clock in milliseconds that moves only while
somebody waits, and a trace of everything that happens. -/
namespace ModemDialog

inductive Event where
  | wrote (data : Bytes)
  | arrived (data : Bytes)
  | stopped
  | printed (data : Bytes)
  | recorded (entry : Transcript.Entry)
  | typed (line : Text)
  | noticed (notice : Notice)
  deriving DecidableEq, Repr

/-- Where transcript lines go: nowhere, to a file, or to a disk with room for so
many more lines. -/
inductive Sink where
  | none
  | file
  | disk (room : Nat)
  deriving DecidableEq, Repr

structure Bench where
  device : Device
  sentries : List Sentry
  poll : Duration
  /-- Arrivals to come, by time. -/
  agenda : List (Nat × Arrival)
  clock : Nat
  alive : Bool
  inbox : Inbox
  /-- What has been written, newest first. -/
  writes : List Write
  sink : Sink
  /-- What has happened and when, newest first. -/
  trace : List (Nat × Event)

structure SendFault where
  command : Text
  cause : Text
  deriving DecidableEq, Repr

namespace SendFault

def headline (f : SendFault) : Text := "Failed to send command: ".toList ++ f.command

def message (f : SendFault) : Text := f.headline ++ ": ".toList ++ f.cause

end SendFault

inductive LinkFault where
  | send (fault : SendFault)
  | timedOut (command : Text)
  | mismatch (command expected got : Text)
  deriving DecidableEq, Repr

def LinkFault.message : LinkFault → Text
  | .send fault => fault.message
  | .timedOut command => "handshake command '".toList ++ command ++ "' timed out".toList
  | .mismatch command expected got =>
      "handshake command '".toList ++ command ++ "' did not answer with '".toList ++ expected ++
        "', got '".toList ++ got ++ "'".toList

namespace Bench

def start (device : Device) (sentries : List Sentry) (poll : Duration) (sink : Sink) : Bench where
  device
  sentries
  poll
  agenda := []
  clock := 0
  alive := true
  inbox := .empty
  writes := []
  sink
  trace := []

def happen (b : Bench) (e : Event) : Bench := { b with trace := (b.clock, e) :: b.trace }

def notice (b : Bench) (n : Notice) : Bench := b.happen (.noticed n)

def notices (b : Bench) (ns : List Notice) : Bench := ns.foldl notice b

def print (b : Bench) (data : Bytes) : Bench := b.happen (.printed data)

def printText (b : Bench) (t : Text) : Bench := b.print (Utf8.encode t)

def diskFull : Text := "disk full".toList

/-- Write a transcript line; one that finds no room is lost, which is reported. -/
def record (b : Bench) (entry : Transcript.Entry) : Bench :=
  match b.sink with
  | .none => b
  | .file => b.happen (.recorded entry)
  | .disk 0 => b.notice (.transcriptFailed diskFull)
  | .disk (room + 1) => { b.happen (.recorded entry) with sink := .disk room }

def stop (b : Bench) : Bench :=
  if b.alive then { b.happen .stopped with alive := false } else b

/-- Once the reader is gone nothing arrives any more. -/
def arrive (b : Bench) (a : Arrival) : Bench :=
  if !b.alive then b
  else match a with
    | .data bytes => { b.happen (.arrived bytes) with inbox := b.inbox.append bytes }
    | .lost cause => (b.notice (.readerStopped cause)).stop
    | .stop => b.stop

/-- Put an arrival into an agenda, behind those of the same time. -/
def schedule (time : Nat) (a : Arrival) : List (Nat × Arrival) → List (Nat × Arrival)
  | [] => [(time, a)]
  | (t, x) :: rest =>
      if time < t then (time, a) :: (t, x) :: rest else (t, x) :: schedule time a rest

def plan (b : Bench) (delay : Nat) (a : Arrival) : Bench :=
  { b with agenda := schedule (b.clock + delay) a b.agenda }

/-- Let what is due by `time` arrive, out of an agenda. -/
def settleFrom (time : Nat) : List (Nat × Arrival) → Bench → Bench
  | [], b => { b with agenda := [] }
  | (t, a) :: rest, b =>
      if t ≤ time then settleFrom time rest ({ b with clock := max b.clock t }.arrive a)
      else { b with agenda := (t, a) :: rest }

def setClock (b : Bench) (time : Nat) : Bench := { b with clock := time }

def sleep (b : Bench) (d : Duration) : Bench :=
  let wake := b.clock + d.ceilMillis
  (settleFrom wake b.agenda b).setClock wake

/-- As `settleFrom`, but no more once the session is stopped. -/
def settleAlive (time : Nat) : List (Nat × Arrival) → Bench → Bench
  | [], b => { b with agenda := [] }
  | (t, a) :: rest, b =>
      if b.alive && t ≤ time then
        settleAlive time rest ({ b with clock := max b.clock t }.arrive a)
      else { b with agenda := (t, a) :: rest }

def pause (b : Bench) (d : Duration) : Bench :=
  let wake := b.clock + d.ceilMillis
  let b := settleAlive wake b.agenda b
  if b.alive then b.setClock wake else b

/-- Wait until the session is stopped. If nothing to come stops it, the wait has
no end, and the bench is left as it is then. -/
def hold (b : Bench) : Bench :=
  match b.agenda.getLast? with
  | none => b
  | some (t, _) => settleAlive t b.agenda b

def plans (b : Bench) (later : List (Nat × Arrival)) : Bench :=
  later.foldl (fun b entry => b.plan entry.1 entry.2) b

def heed (b : Bench) (reply : Reply) : Bench × Except Text Unit :=
  let b := if reply.stops then b.stop else b
  match reply.fails with
  | some cause => (b, .error cause)
  | none =>
      if !b.alive && !reply.data.isEmpty then (b, .error "loopback reader is gone".toList)
      else
        let b := if reply.data.isEmpty then b else b.arrive (.data reply.data)
        let b := match reply.loses with
          | some cause => b.arrive (.lost cause)
          | none => b
        (b.plans reply.later, .ok ())

def write (b : Bench) (data : Bytes) : Bench × Except Text Unit :=
  let b := b.happen (.wrote data)
  let reply := b.device b.writes ⟨b.clock, data⟩
  { b with writes := ⟨b.clock, data⟩ :: b.writes }.heed reply

def surface (b : Bench) (origin : Origin) (command : Text) (data : Bytes) : Bench :=
  if data.isEmpty then b
  else
    ((b.notice (.stray command data)).record (.moved origin .inward data)).print data
      |>.printText separator

def deliver (b : Bench) (origin : Origin) (command : Text) (taken : Taken) : Bench × Response :=
  let b := b.surface origin command taken.stray
  let b := b.record (.moved origin .inward taken.response)
  let text := Response.withoutEcho taken.response command
  ((b.printText text).printText separator, ⟨text, false⟩)

def expire (b : Bench) (command : Text) (timeout : Duration) : Bench :=
  let report := expiredReport command
  ((b.notice (.timedOut command timeout)).record (.note report)).printText (report ++ separator)

end Bench
end ModemDialog
