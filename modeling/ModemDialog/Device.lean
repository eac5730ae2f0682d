import ModemDialog.Text.Basic

/-! The far side of the line: what it sends when something is written to it. -/
namespace ModemDialog

inductive Arrival where
  | data (bytes : Bytes)
  | lost (cause : Text)
  | stop
  deriving DecidableEq, Repr

/-- The answer to one write. In this order: stop the session; fail; send `data` at
once; lose the line; and later arrivals, each so many milliseconds after the write. -/
structure Reply where
  stops : Bool
  fails : Option Text
  data : Bytes
  loses : Option Text
  later : List (Nat × Arrival)
  deriving DecidableEq, Repr

namespace Reply

def silence : Reply := ⟨false, none, [], none, []⟩

def ofData (data : Bytes) : Reply := { silence with data }

end Reply

structure Write where
  time : Nat
  data : Bytes
  deriving DecidableEq, Repr

/-- A device answers a write by all it has been sent before, newest first. -/
abbrev Device := List Write → Write → Reply

end ModemDialog
