import ModemDialog.Sentry
import ModemDialog.Number.Duration

/-! Settings of a session: the terminal line, the sentries, the link check and
the times. -/
namespace ModemDialog

inductive CharSize where
  | five
  | six
  | seven
  | eight
  deriving DecidableEq, Repr

inductive Parity where
  | none
  | even
  | odd
  | mark
  | space
  deriving DecidableEq, Repr

inductive StopBits where
  | one
  | oneAndHalf
  | two
  deriving DecidableEq, Repr

inductive FlowControl where
  | none
  | xonXoff
  | rtsCts
  | dsrDtr
  deriving DecidableEq, Repr

structure LineSettings where
  baud : Nat
  charSize : CharSize
  parity : Parity
  stopBits : StopBits
  flow : FlowControl
  readTimeout : Duration
  writeTimeout : Duration
  deriving DecidableEq, Repr

def LineSettings.default : LineSettings where
  baud := 115200
  charSize := .eight
  parity := .none
  stopBits := .one
  flow := .none
  readTimeout := .ofMillis 10
  writeTimeout := .ofSecs 1

structure LinkCheck where
  command : Text
  expect : Text
  deriving DecidableEq, Repr

structure Settings where
  line : LineSettings
  sentries : List Sentry
  linkCheck : LinkCheck
  responseTimeout : Duration
  pollInterval : Duration
  readerWait : Duration
  deriving DecidableEq, Repr

def Settings.default : Settings where
  line := .default
  sentries := Sentry.defaults
  linkCheck := ⟨"AT".toList, "OK".toList⟩
  responseTimeout := .ofSecs 3
  pollInterval := .ofMillis 10
  readerWait := .ofSecs 2

end ModemDialog
