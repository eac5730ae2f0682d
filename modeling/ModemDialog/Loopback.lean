import ModemDialog.Text.Basic

/-! A line in memory. Chunks are queued by a writer and a handle and read in pieces
that fit the reader's buffer. -/
namespace ModemDialog

/-- `queue` holds the chunks not yet begun, `pending` the rest of the one being
handed out. -/
structure Loopback where
  queue : List Bytes
  pending : Bytes
  written : List Bytes
  writer : Bool
  handle : Bool
  reader : Bool
  deriving DecidableEq, Repr

inductive LoopbackFault where
  | closed
  | readerGone
  | outputClosed
  deriving DecidableEq, Repr

def LoopbackFault.message : LoopbackFault → Text
  | .closed => "loopback transport closed".toList
  | .readerGone => "loopback reader is gone".toList
  | .outputClosed => "transport closed its output".toList

namespace Loopback

def fresh : Loopback := ⟨[], [], [], true, true, true⟩

def write (l : Loopback) (answer : Bytes → Bytes) (data : Bytes) :
    Loopback × Except LoopbackFault Unit :=
  if !l.writer then (l, .error .closed)
  else
    let reply := answer data
    let l := { l with written := l.written ++ [data] }
    if reply.isEmpty then (l, .ok ())
    else if !l.reader then (l, .error .readerGone)
    else ({ l with queue := l.queue ++ [reply] }, .ok ())

/-- Queue a chunk, empty or not; without a reader it is nobody's. -/
def inject (l : Loopback) (data : Bytes) : Loopback :=
  if l.reader && l.handle then { l with queue := l.queue ++ [data] } else l

/-- Hand out what fits into `room` bytes of one chunk. -/
def read (l : Loopback) (room : Nat) : Loopback × Except LoopbackFault Bytes :=
  if !l.pending.isEmpty then
    ({ l with pending := l.pending.drop room }, .ok (l.pending.take room))
  else match l.queue with
    | chunk :: queue => ({ l with queue, pending := chunk.drop room }, .ok (chunk.take room))
    | [] => if l.writer || l.handle then (l, .ok []) else (l, .error .outputClosed)

def close (l : Loopback) : Loopback := { l with writer := false }

def dropHandle (l : Loopback) : Loopback := { l with handle := false }

def dropReader (l : Loopback) : Loopback := { l with reader := false, queue := [], pending := [] }

end Loopback
end ModemDialog
