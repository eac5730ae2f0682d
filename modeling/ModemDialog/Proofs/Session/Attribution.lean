import ModemDialog.Proofs.Session.Accounting
import ModemDialog.Proofs.Session.Delivery

/-! Responses as spans of one stream: all the bytes that have ever come from the line. The
buffer always holds what stands in the stream behind the span taken last. So the length of
the buffer at a write, where the search for the response begins, marks the place that the
stream had reached by then. -/
namespace ModemDialog

/-- An answered send: how many bytes had come when its command was written, how many when
its response was taken, and what was taken. -/
structure Receipt where
  command : Text
  written : Nat
  come : Nat
  taken : Taken
  deriving DecidableEq, Repr

namespace Receipt

/-- Where the response begins in the stream: at the first place of the command at or behind
the write, among the bytes that had come when it was taken; at the write if there is none. -/
def start (a : Receipt) (stream : Bytes) : Nat :=
  a.written + (firstAt? (Utf8.encode a.command) (stream.extract a.written a.come)).getD 0

def stop (a : Receipt) (stream : Bytes) : Nat := a.start stream + a.taken.response.length

theorem extract_append {old new : Bytes} {i : Nat} (inside : i ≤ old.length) (k : Nat) :
    (old ++ new).extract i (old.length + k) = old.drop i ++ new.take k := by
  have width : old.length + k - i = (old.drop i).length + k := by
    rw [List.length_drop]
    omega
  rw [List.extract_eq_take_drop, List.drop_append_of_le_length inside, width,
    List.take_length_add_append]

theorem extract_new {old new : Bytes} (k : Nat) :
    (old ++ new).extract old.length (old.length + k) = new.take k := by
  rw [extract_append (Nat.le_refl _), List.drop_length, List.nil_append]

theorem start_append (command : Text) (old new later : Bytes) (taken : Taken) :
    start ⟨command, old.length, (old ++ new).length, taken⟩ (old ++ (new ++ later)) =
      old.length + (firstAt? (Utf8.encode command) new).getD 0 := by
  rw [start, List.length_append, extract_new, List.take_left]

/-- What was taken are two spans of the stream: from `previous`, where the span taken before
it ends, up to the response, and the response. -/
structure Attributed (a : Receipt) (history : List Event) (previous : Nat) : Prop where
  written : ∃ before after, history = before ++ .wrote (wire a.command) :: after ∧
    a.written = (Event.arrivals before).length
  behind : previous ≤ a.written
  stop_le : a.stop (Event.arrivals history) ≤ a.come
  come_le : a.come ≤ (Event.arrivals history).length
  response : a.taken.response = (Event.arrivals history).extract
    (a.start (Event.arrivals history)) (a.stop (Event.arrivals history))
  nonempty : a.taken.response ≠ []
  stray : a.taken.stray =
    (Event.arrivals history).extract previous (a.start (Event.arrivals history))

end Receipt

namespace Bench

def receipt? (b : Bench) : Act → Option Receipt
  | .send origin command timeout =>
      match (b.exchange origin command timeout).2 with
      | .ok (.answered taken) =>
          some ⟨command, b.arrived.length, (b.send origin command timeout).1.arrived.length, taken⟩
      | _ => none
  | _ => none

def receipts (b : Bench) : List Act → List Receipt
  | [] => []
  | act :: acts => (b.receipt? act).toList ++ (b.perform act).receipts acts

structure Holds (b : Bench) (place : Nat) : Prop where
  inside : place ≤ b.arrived.length
  data : b.inbox.data = b.arrived.drop place

theorem Holds.advances {before after : Bench} {events : List Event} {place : Nat}
    (h : Holds before place) (advances : Advances before after events) : Holds after place where
  inside := by
    rw [advances.arrived, List.length_append]
    exact Nat.le_add_right_of_le h.inside
  data := by
    rw [advances.data, advances.arrived, h.data, List.drop_append_of_le_length h.inside]

section Send

variable {b : Bench} {origin : Origin} {command : Text} {timeout : Duration} {place : Nat}

theorem exists_spans {taken : Taken} (holds : Holds b place)
    (answered : (b.exchange origin command timeout).2 = .ok (.answered taken)) :
    ∃ new frame, let ahead := (firstAt? (Utf8.encode command) new).getD 0
      (b.send origin command timeout).1.arrived = b.arrived ++ new ∧
        frame ≤ (new.drop ahead).length ∧ 0 < frame ∧
        taken = ⟨b.arrived.drop place ++ new.take ahead, (new.drop ahead).take frame⟩ ∧
        (b.send origin command timeout).1.inbox.data = new.drop (ahead + frame) := by
  obtain ⟨ahead, behind, account⟩ := b.send_account origin command timeout
  obtain ⟨frame, framed, taken_eq, left⟩ :=
    AnsweredOn.exists_frame ⟨answered, account.arrivedSince⟩
  refine ⟨Event.arrivals behind, frame.stop, account.arrived, Framing.frame?_stop_le framed,
    Framing.frame?_stop_pos framed, ?_, left⟩
  rw [taken_eq, holds.data]

theorem exists_written (b : Bench) (origin : Origin) (command : Text) (timeout : Duration)
    (later : List Event) :
    ∃ before behind, (b.send origin command timeout).1.history ++ later =
        before ++ .wrote (wire command) :: behind ∧
      b.arrived.length = (Event.arrivals before).length := by
  obtain ⟨ahead, behind, account⟩ := b.send_account origin command timeout
  refine ⟨b.history ++ .noticed (.sending origin command) :: ahead, behind ++ later, ?_, ?_⟩
  · rw [account.history]
    simp
  · rw [Event.arrivals_append, Event.arrivals_cons,
      Event.arrivals_of_aside account.ahead_aside]
    exact congrArg List.length (List.append_nil _).symm

theorem send_attributed {taken : Taken} (holds : Holds b place)
    (answered : (b.exchange origin command timeout).2 = .ok (.answered taken))
    (later : List Event) :
    let after := (b.send origin command timeout).1
    let a : Receipt := ⟨command, b.arrived.length, after.arrived.length, taken⟩
    a.Attributed (after.history ++ later) place ∧
      Holds after (a.stop (Event.arrivals (after.history ++ later))) := by
  intro after a
  obtain ⟨new, frame, arrived, inside, positive, taken_eq, left⟩ := exists_spans holds answered
  have stream : Event.arrivals (after.history ++ later) =
      b.arrived ++ (new ++ Event.arrivals later) := by
    rw [Event.arrivals_append, ← List.append_assoc, ← arrived]
    rfl
  have come : a.come = b.arrived.length + new.length := by
    rw [← List.length_append, ← arrived]
  have start : a.start (Event.arrivals (after.history ++ later)) =
      b.arrived.length + (firstAt? (Utf8.encode command) new).getD 0 := by
    rw [stream, ← Receipt.start_append command b.arrived new (Event.arrivals later) taken,
      ← arrived]
  have size : taken.response.length = frame := by
    rw [taken_eq]
    exact List.length_take_of_le inside
  have room : (firstAt? (Utf8.encode command) new).getD 0 + frame ≤ new.length := by
    rw [List.length_drop] at inside
    omega
  have stop : a.stop (Event.arrivals (after.history ++ later)) =
      b.arrived.length + ((firstAt? (Utf8.encode command) new).getD 0 + frame) := by
    rw [Receipt.stop, start, size, Nat.add_assoc]
  constructor
  · constructor
    case written => exact b.exists_written origin command timeout later
    case behind => exact holds.inside
    case stop_le =>
      rw [stop, come]
      exact Nat.add_le_add_left room _
    case come_le =>
      rw [stream, come, List.length_append, List.length_append]
      omega
    case response =>
      rw [stop, start, stream, List.extract_eq_take_drop, List.drop_length_add_append,
        List.drop_append_of_le_length (by omega), Nat.add_sub_add_left, Nat.add_sub_cancel_left,
        List.take_append_of_le_length inside]
      exact congrArg Taken.response taken_eq
    case nonempty => exact List.ne_nil_of_length_pos (size ▸ positive)
    case stray =>
      rw [start, stream, Receipt.extract_append holds.inside,
        List.take_append_of_le_length (by omega)]
      exact congrArg Taken.stray taken_eq
  · constructor
    case inside =>
      rw [stop, arrived, List.length_append]
      exact Nat.add_le_add_left room _
    case data =>
      rw [stop, arrived, List.drop_length_add_append]
      exact left

end Send

/-- Where the span taken last ends, if `place` is where the one ahead of these ended. -/
def takenUpTo (stream : Bytes) (place : Nat) (receipts : List Receipt) : Nat :=
  (receipts.getLast?.map (·.stop stream)).getD place

theorem takenUpTo_cons (stream : Bytes) (place : Nat) (a : Receipt) (receipts : List Receipt) :
    takenUpTo stream place (a :: receipts) = takenUpTo stream (a.stop stream) receipts := by
  rw [takenUpTo, takenUpTo, List.getLast?_cons]
  cases receipts.getLast? <;> rfl

theorem perform_history (b : Bench) (act : Act) :
    ∃ events, (b.perform act).history = b.history ++ events := by
  cases kind : act.isSend with
  | false =>
      obtain ⟨events, advances, -⟩ := b.perform_advances kind
      exact ⟨events, advances.history⟩
  | true =>
      cases act with
      | send origin command timeout =>
          obtain ⟨ahead, behind, account⟩ := b.send_account origin command timeout
          exact ⟨_, account.history⟩
      | _ => cases kind

theorem session_history (b : Bench) (acts : List Act) :
    ∃ events, (b.session acts).history = b.history ++ events := by
  induction acts generalizing b with
  | nil => exact ⟨[], (List.append_nil _).symm⟩
  | cons act acts ih =>
      obtain ⟨first, performed⟩ := b.perform_history act
      obtain ⟨others, rest⟩ := ih (b.perform act)
      exact ⟨first ++ others, by rw [← List.append_assoc, ← performed]; exact rest⟩

theorem Holds.perform_unanswered {b : Bench} {place : Nat} (h : Holds b place) {act : Act}
    (unanswered : b.receipt? act = none) : Holds (b.perform act) place := by
  cases kind : act.isSend with
  | false =>
      obtain ⟨events, advances, -⟩ := b.perform_advances kind
      exact h.advances advances
  | true =>
      cases act with
      | send origin command timeout =>
          obtain ⟨ahead, behind, account⟩ := b.send_account origin command timeout
          have untaken : removed (b.exchange origin command timeout).2 = [] := by
            simp only [receipt?] at unanswered
            split at unanswered
            · cases unanswered
            · rename_i other
              cases ended : (b.exchange origin command timeout).2 with
              | error fault => rfl
              | ok ending =>
                  cases ending with
                  | answered taken => exact absurd ended (other taken)
                  | stopped => rfl
                  | expired => rfl
          have data := account.data
          rw [untaken, List.nil_append] at data
          constructor
          case inside =>
            rw [perform, account.arrived, List.length_append]
            exact Nat.le_add_right_of_le h.inside
          case data =>
            rw [perform, account.arrived, ← data, h.data,
              List.drop_append_of_le_length h.inside]
      | _ => cases kind

theorem Holds.perform_answered {b : Bench} {place : Nat} (h : Holds b place) {act : Act}
    {a : Receipt} (answered : b.receipt? act = some a) (later : List Event) :
    let history := (b.perform act).history ++ later
    a.Attributed history place ∧ Holds (b.perform act) (a.stop (Event.arrivals history)) := by
  cases act with
  | send origin command timeout =>
      simp only [receipt?] at answered
      split at answered
      · rename_i taken ended
        obtain rfl := Option.some.inj answered
        exact send_attributed h ended later
      · cases answered
  | _ => cases answered

theorem Holds.session {b : Bench} {place : Nat} (h : Holds b place) (acts : List Act) :
    let history := (b.session acts).history
    (∀ earlier a later, b.receipts acts = earlier ++ a :: later →
      a.Attributed history (takenUpTo (Event.arrivals history) place earlier)) ∧
      Holds (b.session acts) (takenUpTo (Event.arrivals history) place (b.receipts acts)) := by
  -- `place` is where the span taken last ends; it moves with each answered send, and with
  -- nothing else. All places are in the stream of the whole session.
  induction acts generalizing b place with
  | nil =>
      refine ⟨fun earlier a later split => ?_, h⟩
      cases earlier <;> cases split
  | cons act acts ih =>
      have session_eq : b.session (act :: acts) = (b.perform act).session acts := rfl
      rw [session_eq, receipts]
      cases answered : b.receipt? act with
      | none => exact ih (h.perform_unanswered answered)
      | some first =>
          obtain ⟨events, rest⟩ := session_history (b.perform act) acts
          obtain ⟨attributed, holds⟩ := h.perform_answered answered events
          rw [← rest] at attributed holds
          obtain ⟨others, ends⟩ := ih holds
          refine ⟨fun earlier a later split => ?_, ?_⟩
          · cases earlier with
            | nil =>
                obtain ⟨rfl, -⟩ := List.cons.inj split
                exact attributed
            | cons head earlier =>
                obtain ⟨rfl, behind⟩ := List.cons.inj split
                rw [takenUpTo_cons]
                exact others earlier a later behind
          · rw [Option.toList_some, List.singleton_append, takenUpTo_cons]
            exact ends

/-- In any session, whatever the device does and however the sends end, all bytes from the
line being one stream: each response is a span of it, which begins at the first place of the
command at or behind its write, of what had come when the response was taken, or at the write
if there is none. Each ends ahead of the next write, and the stray data of a send is all that
stands between the span taken before it and its own. The buffer holds what is left. -/
theorem responses_are_spans_of_stream (device : Device) (sentries : List Sentry)
    (poll : Duration) (sink : Sink) (acts : List Act) :
    let b := start device sentries poll sink
    let history := (b.session acts).history
    let stream := Event.arrivals history
    (∀ earlier a later, b.receipts acts = earlier ++ a :: later →
      let previous := takenUpTo stream 0 earlier
      (∃ before after, history = before ++ .wrote (wire a.command) :: after ∧
          a.written = (Event.arrivals before).length) ∧
        previous ≤ a.written ∧ a.written ≤ a.start stream ∧
        a.stop stream ≤ a.come ∧ a.come ≤ stream.length ∧
        a.taken.response = stream.extract (a.start stream) (a.stop stream) ∧
        a.taken.response ≠ [] ∧
        a.taken.stray = stream.extract previous (a.start stream)) ∧
      (b.session acts).inbox.data = stream.drop (takenUpTo stream 0 (b.receipts acts)) := by
  intro b history stream
  have holds : Holds b 0 := ⟨Nat.zero_le _, rfl⟩
  obtain ⟨attributed, ends⟩ := holds.session acts
  refine ⟨fun earlier a later split => ?_, ends.data⟩
  have spans := attributed earlier a later split
  exact ⟨spans.written, spans.behind, Nat.le_add_right _ _, spans.stop_le, spans.come_le,
    spans.response, spans.nonempty, spans.stray⟩

theorem responses_are_spans_of_stream_of_callingDevice :
    let b := start callingDevice Sentry.defaults (.ofMillis 10) .none
    let acts : List Act :=
      [.send .script "AT".toList (.ofMillis 50), .send .operator "ATI".toList (.ofMillis 50)]
    let stream := Event.arrivals (b.session acts).history
    let first : Receipt := ⟨"AT".toList, 0, 13, ⟨[], Utf8.encode "AT\r\r\nOK\r\n".toList⟩⟩
    let second : Receipt := ⟨"ATI".toList, 13, 27,
      ⟨Utf8.encode "RING".toList, Utf8.encode "ATI\r\r\nOK\r\n".toList⟩⟩
    b.receipts acts = [first, second] ∧ first.taken.response = stream.extract 0 9 ∧
      second.taken.stray = stream.extract 9 13 ∧
      second.taken.response = stream.extract 13 23 ∧
      (b.session acts).inbox.data = stream.drop 23 := by
  intro b acts stream first second
  have receipts : b.receipts acts = [first, second] := by decide +kernel
  have starts : first.start stream = 0 ∧ second.start stream = 13 := by decide +kernel
  have stops : first.stop stream = 9 ∧ second.stop stream = 23 := by decide +kernel
  obtain ⟨spans, left⟩ := responses_are_spans_of_stream callingDevice Sentry.defaults
    (.ofMillis 10) .none acts
  obtain ⟨-, -, -, -, -, response, -, -⟩ := spans [] first [second] receipts
  obtain ⟨-, -, -, -, -, response', -, stray⟩ := spans [first] second [] receipts
  have previous : takenUpTo stream 0 [first] = 9 := stops.1
  have last : takenUpTo stream 0 (b.receipts acts) = 23 := by rw [receipts]; exact stops.2
  rw [starts.1, stops.1] at response
  rw [starts.2, stops.2] at response'
  rw [starts.2, previous] at stray
  rw [last] at left
  exact ⟨receipts, response, stray, response', left⟩

end Bench
end ModemDialog
