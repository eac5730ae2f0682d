import ModemDialog.Inbox
import ModemDialog.Loopback

/-! The reader that moves bytes from a line in memory into the receive buffer. -/
namespace ModemDialog

structure Reader where
  line : Loopback
  inbox : Inbox
  alive : Bool
  deriving DecidableEq, Repr

namespace Reader

def chunkSize : Nat := 4096

def start (line : Loopback) : Reader := ⟨line, .empty, true⟩

/-- Move what one read gives. A read that fails stops the session, as nothing more can
come; a stopped session reads no more. -/
def turn (r : Reader) : Reader :=
  if !r.alive then r
  else match r.line.read chunkSize with
    | (line, .ok data) =>
        { r with line, inbox := if data.isEmpty then r.inbox else r.inbox.append data }
    | (line, .error _) => { r with line, alive := false }

end Reader
end ModemDialog
