import ModemDialog.Proofs.Session.Sending

/-! Every byte of a session is accounted for. A working transcript has one line for each
write, and lines for what each send took out of the buffer; these and the bytes still
waiting are what has come from the line, in its order. -/
namespace ModemDialog

/-- One thing done in a session. Interruptions and the loss of the line are arrivals. -/
inductive Act where
  | send (origin : Origin) (command : Text) (timeout : Duration)
  | wait (d : Duration)
  | arrive (a : Arrival)
  | plan (delay : Nat) (a : Arrival)
  | print (data : Bytes)
  deriving DecidableEq, Repr

def Act.isSend : Act → Bool
  | .send .. => true
  | _ => false

namespace Transcript

def received (entries : List Entry) : Bytes :=
  entries.flatMap fun
    | .moved _ .inward data => data
    | _ => []

end Transcript

namespace Bench

def perform (b : Bench) : Act → Bench
  | .send origin command timeout => (b.send origin command timeout).1
  | .wait d => b.sleep d
  | .arrive a => b.arrive a
  | .plan delay a => b.plan delay a
  | .print data => b.print data

def session (b : Bench) (acts : List Act) : Bench := acts.foldl perform b

structure Conserved (b : Bench) : Prop where
  file : b.sink = .file
  bytes : Transcript.received b.transcript ++ b.inbox.data = b.arrived

theorem Conserved.start (device : Device) (sentries : List Sentry) (poll : Duration) :
    Conserved (start device sentries poll .file) := ⟨rfl, rfl⟩

theorem Conserved.advances {before after : Bench} {events : List Event} (h : Conserved before)
    (advances : Advances before after events) (unrecorded : Event.entries events = []) :
    Conserved after where
  file := advances.file h.file
  bytes := by
    rw [advances.transcript, unrecorded, List.append_nil, advances.data, advances.arrived,
      ← h.bytes, List.append_assoc]

namespace Account

variable {before after : Bench} {origin : Origin} {command : Text}
  {outcome : Except SendFault Exchange.Ending} {ahead behind : List Event}

theorem transcript (h : Account before after origin command outcome ahead behind)
    (file : before.sink = .file) :
    after.transcript = before.transcript ++
      .moved origin .outward (wire command) :: conclusion origin command outcome := by
  rw [Bench.transcript, h.history, Event.entries_append, Event.entries_append,
    Event.entries_cons, Event.entries_cons, h.entries_ahead file, h.entries_behind file]
  rfl

end Account

theorem perform_advances (b : Bench) {act : Act} (other : act.isSend = false) :
    ∃ events, Advances b (b.perform act) events ∧ Event.entries events = [] := by
  have of_line {after : Bench} (passes : Passes b after) :
      ∃ events, Advances b after events ∧ Event.entries events = [] := by
    obtain ⟨events, advances, line⟩ := passes
    exact ⟨events, advances, Event.entries_of_line line⟩
  cases act with
  | send origin command timeout => cases other
  | wait d => exact of_line (b.sleep_line d).passes
  | arrive a => exact of_line (b.arrive_line a).passes
  | plan delay a => exact of_line (b.plan_line delay a).passes
  | print data => exact ⟨_, b.print_advances data, rfl⟩

def callingDevice : Device := fun _ w =>
  .ofData (w.data ++ Utf8.encode "\r\nOK\r\nRING".toList)

end Bench
end ModemDialog
