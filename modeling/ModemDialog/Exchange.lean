import ModemDialog.Inbox
import ModemDialog.Number.Duration

/-! One command waiting for its answer. The wait is counted in checks of the
receive buffer; new bytes start the count again. -/
namespace ModemDialog

def lineEnd : Text := ['\r']

def separator : Text := "\n-----------------\n".toList

def wire (command : Text) : Bytes := Utf8.encode (command ++ lineEnd)

/-- The answer without the echo of its command; empty if none came. -/
structure Response where
  text : Text
  timedOut : Bool
  deriving DecidableEq, Repr

namespace Response

def missing : Response := ⟨[], true⟩

def dropLineEnd (t : Text) : Text :=
  let t := (['\r'].isPrefixOf? t).getD t
  (['\n'].isPrefixOf? t).getD t

def withoutEcho (raw : Bytes) (command : Text) : Text :=
  let text := Utf8.decodeLossy raw
  if command.isEmpty then text
  else match command.isPrefixOf? text with
    | some rest => dropLineEnd rest
    | none => text

end Response

/-- How many checks make up a timeout; at least one, and a 32-bit count. -/
def patience (timeout poll : Duration) : Nat :=
  if poll.nanos = 0 then 1
  else max 1 (min ((timeout.nanos + poll.nanos - 1) / poll.nanos) Numeral.largestCount)

/-- A command that was written when `mark` bytes were waiting. `seen` counts the
bytes received at the last check, `budget` the quiet checks still allowed. -/
structure Exchange where
  command : Text
  mark : Nat
  patience : Nat
  budget : Nat
  seen : Nat
  deriving DecidableEq, Repr

namespace Exchange

inductive Verdict where
  | answered (taken : Taken) (rest : Inbox)
  | stopped
  | expired
  | wait (next : Exchange)
  deriving DecidableEq, Repr

inductive Ending where
  | answered (taken : Taken)
  | stopped
  | expired
  deriving DecidableEq, Repr

def examine (x : Exchange) (sentries : List Sentry) (box : Inbox) : Option (Taken × Inbox) :=
  box.take? sentries x.mark (Utf8.encode x.command)

/-- Count a check: bytes that came since the last one restore the budget; a quiet
check uses one up, and the last one ends the wait. -/
def tally (x : Exchange) (received : Nat) : Option Exchange :=
  if received ≠ x.seen then some { x with seen := received, budget := x.patience }
  else if x.budget ≤ 1 then none
  else some { x with budget := x.budget - 1 }

def check (x : Exchange) (sentries : List Sentry) (box : Inbox) (alive : Bool) : Verdict :=
  match x.examine sentries box with
  | some (taken, rest) => .answered taken rest
  | none =>
      if !alive then .stopped
      else match x.tally box.received with
        | some next => .wait next
        | none => .expired

end Exchange

def expiredReport (command : Text) : Text :=
  "***SERROR: '".toList ++ command ++ "' timed out with no/incomplete response".toList

end ModemDialog
