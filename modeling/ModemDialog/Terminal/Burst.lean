import ModemDialog.Number.Duration

/-! Reading a line in bursts. Once bytes have come, more are collected for as long as
they follow each other closely, and the whole burst is handed out at once. -/
namespace ModemDialog.Terminal

inductive Readiness where
  | ready
  | expired
  | interrupted
  /-- Nothing more will come; the conditions that were reported. -/
  | gone (conditions : Text)
  | failed (cause : Text)
  deriving DecidableEq, Repr

inductive Received where
  | bytes (data : Bytes)
  | nothing
  | failed (cause : Text)
  deriving DecidableEq, Repr

inductive ReadFault where
  | wait (cause : Text)
  | gone (conditions : Text)
  | read (cause : Text)
  deriving DecidableEq, Repr

def ReadFault.message : ReadFault → Text
  | .wait cause => "poll on serial device: ".toList ++ cause
  | .gone conditions => "serial device reported ".toList ++ conditions
  | .read cause => "read from serial device: ".toList ++ cause

structure Source (σ : Type) where
  wait : σ → Duration → σ × Readiness
  read : σ → Nat → σ × Received

namespace Source

/-- A single wait lasts at most this many milliseconds. -/
def longestWait : Nat := 65535

/-- The whole milliseconds of a span, as far as one wait reaches. -/
def span (d : Duration) : Duration := .ofMillis (min longestWait (d.nanos / 1000000))

def awaitInput (source : Source σ) (s : σ) (d : Duration) : σ × Except ReadFault Bool :=
  match source.wait s (span d) with
  | (s, .ready) => (s, .ok true)
  | (s, .expired) => (s, .ok false)
  | (s, .interrupted) => (s, .ok false)
  | (s, .gone conditions) => (s, .error (.gone conditions))
  | (s, .failed cause) => (s, .error (.wait cause))

def take (source : Source σ) (s : σ) (room : Nat) : σ × Except ReadFault Bytes :=
  match source.read s room with
  | (s, .bytes data) => (s, .ok (data.take room))
  | (s, .nothing) => (s, .ok [])
  | (s, .failed cause) => (s, .error (.read cause))

/-- Collect behind `filled` while there is room and more follows in time. -/
def collect (source : Source σ) (gap : Duration) (s : σ) (filled : Bytes) (room : Nat) :
    σ × Except ReadFault Bytes :=
  if _h : filled = [] ∨ room = 0 then (s, .ok filled)
  else
    match source.awaitInput s gap with
    | (s, .error fault) => (s, .error fault)
    | (s, .ok false) => (s, .ok filled)
    | (s, .ok true) =>
        match source.take s room with
        | (s, .error fault) => (s, .error fault)
        | (s, .ok []) => (s, .ok filled)
        | (s, .ok (b :: more)) =>
            source.collect gap s (filled ++ b :: more) (room - (b :: more).length)
termination_by room
decreasing_by
  simp only [List.length_cons]
  omega

/-- One burst of at most `room` bytes; empty if none begins in time. -/
def burst (source : Source σ) (gap : Duration) (s : σ) (room : Nat) (d : Duration) :
    σ × Except ReadFault Bytes :=
  match source.awaitInput s d with
  | (s, .error fault) => (s, .error fault)
  | (s, .ok false) => (s, .ok [])
  | (s, .ok true) =>
      match source.take s room with
      | (s, .error fault) => (s, .error fault)
      | (s, .ok data) => source.collect gap s data (room - data.length)

end Source
end ModemDialog.Terminal
