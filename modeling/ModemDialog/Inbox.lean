import ModemDialog.Framing

/-! The receive buffer: bytes are appended as they arrive and leave it only as
part of a framed response. -/
namespace ModemDialog

/-- The bytes waiting, and how many have ever arrived. That number has no bound here; a counter
of 64 bits would hold it for any stream there is. -/
structure Inbox where
  data : Bytes
  received : Nat
  deriving DecidableEq, Repr

/-- What a framed response takes out: bytes that belong to no command, then the
response. -/
structure Taken where
  stray : Bytes
  response : Bytes
  deriving DecidableEq, Repr

namespace Inbox

def empty : Inbox := ⟨[], 0⟩

def append (box : Inbox) (chunk : Bytes) : Inbox :=
  ⟨box.data ++ chunk, box.received + chunk.length⟩

/-- Where framing starts: at the first `anchor` at or behind `mark`, or at
`mark` itself when there is none. -/
def anchorAt (data : Bytes) (mark : Nat) (anchor : Bytes) : Nat :=
  let mark := min mark data.length
  match firstAt? anchor (data.drop mark) with
  | some offset => mark + offset
  | none => mark

/-- Take the response framed behind `mark`, and all that stands ahead of it. -/
def take? (box : Inbox) (sentries : List Sentry) (mark : Nat) (anchor : Bytes) :
    Option (Taken × Inbox) :=
  let start := anchorAt box.data mark anchor
  (Framing.frame? sentries (box.data.drop start)).map fun found =>
    (⟨box.data.take start, (box.data.drop start).take found.stop⟩,
      { box with data := box.data.drop (start + found.stop) })

end Inbox
end ModemDialog
