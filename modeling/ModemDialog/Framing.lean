import ModemDialog.Sentry
import ModemDialog.Text.Utf8

/-! Where a response ends in a run of bytes: the sentry whose literal stands
first decides, the one configured first among equals. -/
namespace ModemDialog

structure Frame where
  stop : Nat
  sentry : Nat
  deriving DecidableEq, Repr

namespace Sentry

def bytes (s : Sentry) : Bytes := Utf8.encode s.literal

/-- The place of the literal, which an empty literal never has. -/
def position? (s : Sentry) (data : Bytes) : Option Nat :=
  if s.literal.isEmpty then none else firstAt? s.bytes data

/-- Where a response ends whose sentry's literal stands at `start`. -/
def stop? (s : Sentry) (data : Bytes) (start : Nat) : Option Nat :=
  let behind := start + s.bytes.length
  match s.wildcard with
  | none => some behind
  | some d =>
      let mark := Utf8.encode d.text
      (firstAt? mark (data.drop behind)).map (behind + · + mark.length)

end Sentry

namespace Framing

/-- The place, index and sentry of the earliest literal; `index` counts the
sentries already passed. -/
def earliest? (data : Bytes) : (index : Nat) → List Sentry → Option (Nat × Nat × Sentry)
  | _, [] => none
  | index, s :: more =>
      match s.position? data, earliest? data (index + 1) more with
      | none, later => later
      | some p, none => some (p, index, s)
      | some p, some (q, i, t) => if q < p then some (q, i, t) else some (p, index, s)

/-- The complete response at the front of `data`, if there is one. The earliest
sentry wins even while it still waits for its delimiter. -/
def frame? (sentries : List Sentry) (data : Bytes) : Option Frame :=
  match earliest? data 0 sentries with
  | none => none
  | some (start, index, s) => (s.stop? data start).map fun stop => ⟨stop, index⟩

end Framing
end ModemDialog
