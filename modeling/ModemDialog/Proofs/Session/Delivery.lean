import Mathlib.Data.List.Basic
import ModemDialog.Proofs.Session.Sending

/-! What a check sees of the bytes behind the mark, and that chunks and times do not
matter: over sentries whose literals lie apart, a response is fixed by the stream of
bytes alone. -/
namespace ModemDialog
namespace Exchange

theorem start_append {x : Exchange} {leftover : Bytes} (marked : x.mark = leftover.length)
    (behind : Bytes) :
    x.start (leftover ++ behind) =
      leftover.length + (firstAt? (Utf8.encode x.command) behind).getD 0 := by
  have mark : min leftover.length (leftover ++ behind).length = leftover.length := by
    rw [List.length_append]
    omega
  unfold start Inbox.anchorAt
  dsimp only
  rw [marked, mark, List.drop_left]
  cases firstAt? (Utf8.encode x.command) behind <;> rfl

theorem examine_append {x : Exchange} {sentries : List Sentry} {box rest : Inbox} {taken : Taken}
    {leftover behind : Bytes} (marked : x.mark = leftover.length)
    (data : box.data = leftover ++ behind)
    (found : x.examine sentries box = some (taken, rest)) :
    let ahead := (firstAt? (Utf8.encode x.command) behind).getD 0
    ∃ frame, Framing.frame? sentries (behind.drop ahead) = some frame ∧
      taken = ⟨leftover ++ behind.take ahead, (behind.drop ahead).take frame.stop⟩ ∧
      rest.data = behind.drop (ahead + frame.stop) := by
  intro ahead
  obtain ⟨frame, framed, stray, response, rfl⟩ := examine_eq_some_iff.mp found
  rw [data, start_append marked, List.drop_length_add_append] at framed response
  rw [data, start_append marked, List.take_length_add_append] at stray
  refine ⟨frame, framed, ?_, ?_⟩
  · rw [← stray, ← response]
  · rw [data, start_append marked, Nat.add_assoc, List.drop_length_add_append]

end Exchange

namespace Bench

/-- Every check of a send sees all that was waiting before it, and behind the mark all
that has come since. -/
theorem check_sees {b mid later : Bench} {origin : Origin} {command : Text} {timeout : Duration}
    {x y : Exchange} (issued : b.issue origin command timeout = (mid, .ok x))
    (checks : Checks mid x later y) :
    y.command = command ∧ y.mark = b.inbox.data.length ∧ later.sentries = b.sentries ∧
      later.inbox.data = b.inbox.data ++ b.arrivedSince later := by
  obtain ⟨⟨ahead, answers, issues, -, -, -⟩, marked⟩ := b.issue_spec origin command timeout
  rw [issued] at issues marked
  obtain ⟨events, passes, -⟩ := checks.passes
  obtain ⟨sameCommand, sameMark⟩ := checks.keeps
  obtain ⟨command_eq, mark_eq⟩ := marked x rfl
  have whole := issues.trans passes
  refine ⟨sameCommand.trans command_eq, sameMark.trans mark_eq, whole.sentries, ?_⟩
  rw [whole.arrivedSince, whole.data]

structure AnsweredAt (b : Bench) (origin : Origin) (command : Text) (timeout : Duration)
    (taken : Taken) (last : Bench) (y : Exchange) : Prop where
  checked : ∃ mid x, b.issue origin command timeout = (mid, .ok x) ∧ Checks mid x last y
  found : ∃ rest, y.examine last.sentries last.inbox = some (taken, rest) ∧
    rest.data = (b.send origin command timeout).1.inbox.data
  arrived : b.arrivedSince (b.send origin command timeout).1 = b.arrivedSince last

theorem AnsweredAt.of_examine {b mid last : Bench} {origin : Origin} {command : Text}
    {timeout : Duration} {x y : Exchange} {taken : Taken} {rest : Inbox}
    (issued : b.issue origin command timeout = (mid, .ok x)) (checks : Checks mid x last y)
    (found : y.examine last.sentries last.inbox = some (taken, rest)) :
    (b.exchange origin command timeout).2 = .ok (.answered taken) ∧
      AnsweredAt b origin command timeout taken last y := by
  have ended := checks.await_of_examine found
  have sent : (b.send origin command timeout).1 =
      ({ last with inbox := rest }.report origin command timeout (.answered taken)).1 := by
    simp [send, exchange, issued, ended]
  obtain ⟨events, reports, aside, -⟩ :=
    ({ last with inbox := rest }.report_spec origin command timeout (.answered taken)).2
  rw [← sent] at reports
  have silent := Event.arrivals_of_aside aside
  refine ⟨by simp [exchange, issued, ended], ⟨mid, x, issued, checks⟩, ⟨rest, found, ?_⟩, ?_⟩
  · rw [reports.data, silent, List.append_nil]
  · rw [arrivedSince, reports.arrived, silent, List.append_nil]
    rfl

theorem exists_answeredAt {b : Bench} {origin : Origin} {command : Text} {timeout : Duration}
    {taken : Taken} (answered : (b.exchange origin command timeout).2 = .ok (.answered taken)) :
    ∃ last y, AnsweredAt b origin command timeout taken last y := by
  cases issued : b.issue origin command timeout with
  | mk mid result =>
      cases result with
      | error fault =>
          simp [exchange, issued] at answered
      | ok x =>
          have ended : (mid.await x).2 = .answered taken := by
            simpa [exchange, issued] using answered
          obtain ⟨last, y, checks, ends⟩ := mid.await_spec x
          rw [ended] at ends
          obtain ⟨rest, found, -⟩ := ends
          exact ⟨last, y, (AnsweredAt.of_examine issued checks found).2⟩

/-- A send that was answered with `taken` when the line had brought `behind` since the
write. -/
structure AnsweredOn (b : Bench) (origin : Origin) (command : Text) (timeout : Duration)
    (behind : Bytes) (taken : Taken) : Prop where
  answered : (b.exchange origin command timeout).2 = .ok (.answered taken)
  brought : b.arrivedSince (b.send origin command timeout).1 = behind

/-- What has come behind the mark fixes what an answered send takes and leaves: framing starts
where the command first stands in it, or at its beginning. -/
theorem AnsweredOn.exists_frame {b : Bench} {origin : Origin} {command : Text}
    {timeout : Duration} {behind : Bytes} {taken : Taken}
    (h : AnsweredOn b origin command timeout behind taken) :
    let ahead := (firstAt? (Utf8.encode command) behind).getD 0
    ∃ frame, Framing.frame? b.sentries (behind.drop ahead) = some frame ∧
      taken = ⟨b.inbox.data ++ behind.take ahead, (behind.drop ahead).take frame.stop⟩ ∧
      (b.send origin command timeout).1.inbox.data = behind.drop (ahead + frame.stop) := by
  obtain ⟨answered, rfl⟩ := h
  obtain ⟨last, y, ⟨mid, x, issued, checks⟩, ⟨rest, found, left⟩, arrived⟩ :=
    exists_answeredAt answered
  obtain ⟨command_eq, marked, sentries_eq, data⟩ := check_sees issued checks
  have split := Exchange.examine_append marked data found
  rwa [command_eq, sentries_eq, left, ← arrived] at split

/-- A send that was answered with `response`, after the line has brought a beginning of
`stream` since the write. -/
structure Answered (b : Bench) (origin : Origin) (command : Text) (timeout : Duration)
    (stream : Bytes) (response : Response) : Prop where
  result : (b.send origin command timeout).2 = .ok response
  inTime : response.timedOut = false
  brought : b.arrivedSince (b.send origin command timeout).1 <+: stream

theorem Answered.exists_taken {b : Bench} {origin : Origin} {command : Text} {timeout : Duration}
    {stream : Bytes} {response : Response}
    (h : Answered b origin command timeout stream response) :
    ∃ taken, (b.exchange origin command timeout).2 = .ok (.answered taken) ∧
      response.text = Response.withoutEcho taken.response command := by
  have result := b.send_result origin command timeout
  rw [h.result] at result
  have inTime := h.inTime
  cases outcome : (b.exchange origin command timeout).2 with
  | error fault =>
      rw [outcome] at result
      cases result
  | ok ending =>
      rw [outcome] at result
      obtain rfl := Except.ok.inj result
      cases ending with
      | answered taken => exact ⟨taken, rfl, rfl⟩
      | stopped => cases inTime
      | expired => cases inTime

/-- An echo that a stream can only have at its front stands at the front of each of its
beginnings, or not in them. -/
theorem echo_at_front {echo stream behind : Bytes}
    (placed : echo <+: stream ∨ ¬ echo <:+: stream) (begins : behind <+: stream) :
    (firstAt? echo behind).getD 0 = 0 := by
  cases found : firstAt? echo behind with
  | none => rfl
  | some i =>
      obtain ⟨more, rfl⟩ := begins
      have whole : firstAt? echo (behind ++ more) = some i := firstAt?_append found
      rcases placed with front | absent
      · rw [firstAt?_eq_zero front] at whole
        exact (Option.some.inj whole).symm
      · rw [firstAt?_eq_none_iff.mpr absent] at whole
        cases whole

theorem Answered.of_stream {b : Bench} {origin : Origin} {command : Text} {timeout : Duration}
    {stream : Bytes} {response : Response} (apart : Sentry.Apart b.sentries)
    (placed : Utf8.encode command <+: stream ∨ ¬ Utf8.encode command <:+: stream)
    (h : Answered b origin command timeout stream response) :
    ∃ frame, Framing.frame? b.sentries stream = some frame ∧
      (b.exchange origin command timeout).2 =
        .ok (.answered ⟨b.inbox.data, stream.take frame.stop⟩) ∧
      response.text = Response.withoutEcho (stream.take frame.stop) command ∧
      (b.send origin command timeout).1.inbox.data =
        (b.arrivedSince (b.send origin command timeout).1).drop frame.stop := by
  obtain ⟨taken, answered, text⟩ := h.exists_taken
  have begins := h.brought
  obtain ⟨frame, framed, rfl, left⟩ := AnsweredOn.exists_frame ⟨answered, rfl⟩
  rw [echo_at_front placed begins] at framed answered text left
  rw [List.drop_zero] at framed
  rw [List.drop_zero, List.take_zero, List.append_nil] at answered
  rw [List.drop_zero] at text
  rw [Nat.zero_add] at left
  obtain ⟨settled, same⟩ := Framing.frame?_of_begins apart framed begins
  rw [same] at answered text
  exact ⟨frame, settled, answered, text, left⟩

/-- Two sends of a command that are both answered out of one stream, whichever device
sent it in whatever chunks and at whatever times, give the same text and take the same
bytes: those that were waiting as stray data, and the frame of the stream as response.
The sentries must lie apart, as those used by default do. -/
theorem response_independent_of_delivery {sentries : List Sentry} {command : Text}
    {leftover stream : Bytes} (apart : Sentry.Apart sentries)
    (placed : Utf8.encode command <+: stream ∨ ¬ Utf8.encode command <:+: stream)
    {b b' : Bench} {origin origin' : Origin} {timeout timeout' : Duration}
    {response response' : Response}
    (listens : b.sentries = sentries ∧ b'.sentries = sentries)
    (waiting : b.inbox.data = leftover ∧ b'.inbox.data = leftover)
    (answered : Answered b origin command timeout stream response)
    (answered' : Answered b' origin' command timeout' stream response') :
    Sentry.Apart Sentry.defaults ∧
    ∃ frame, Framing.frame? sentries stream = some frame ∧
      response.text = Response.withoutEcho (stream.take frame.stop) command ∧
      response'.text = response.text ∧
      (b.exchange origin command timeout).2 =
        .ok (.answered ⟨leftover, stream.take frame.stop⟩) ∧
      (b'.exchange origin' command timeout').2 =
        .ok (.answered ⟨leftover, stream.take frame.stop⟩) ∧
      (b.send origin command timeout).1.inbox.data =
        (b.arrivedSince (b.send origin command timeout).1).drop frame.stop ∧
      (b'.send origin' command timeout').1.inbox.data =
        (b'.arrivedSince (b'.send origin' command timeout').1).drop frame.stop := by
  obtain ⟨rfl, same⟩ := listens
  obtain ⟨rfl, left⟩ := waiting
  obtain ⟨frame, framed, taken, text, rest⟩ := answered.of_stream apart placed
  obtain ⟨frame', framed', taken', text', rest'⟩ :=
    answered'.of_stream (by rw [same]; exact apart) placed
  rw [same, framed] at framed'
  obtain rfl := Option.some.inj framed'
  rw [left] at taken'
  exact ⟨Sentry.defaults_apart, frame, framed, text, text'.trans text.symm, taken, taken',
    rest, rest'⟩

def promptDevice : Device := fun _ w => .ofData (w.data ++ Utf8.encode "\r\nOK\r\n".toList)

def haltingDevice : Device := fun _ w =>
  { Reply.ofData w.data with later :=
      [(15, .data (Utf8.encode "\r\nO".toList)), (25, .data (Utf8.encode "K\r\nRING".toList))] }

def ringing (device : Device) : Bench :=
  { start device Sentry.defaults (.ofMillis 10) .none with inbox := ⟨Utf8.encode ['R'], 1⟩ }

def ringingStream : Bytes := Utf8.encode "AT\r\r\nOK\r\nRING".toList

theorem promptDevice_answers :
    Answered (ringing promptDevice) .script "AT".toList (.ofMillis 50) ringingStream
      ⟨"\r\nOK\r\n".toList, false⟩ :=
  ⟨by decide +kernel, rfl, ⟨Utf8.encode "RING".toList, by decide +kernel⟩⟩

theorem haltingDevice_answers :
    Answered (ringing haltingDevice) .operator "AT".toList (.ofMillis 30) ringingStream
      ⟨"\r\nOK\r\n".toList, false⟩ :=
  ⟨by decide +kernel, rfl, ⟨[], by decide +kernel⟩⟩

theorem response_independent_of_delivery_in_pieces :
    Utf8.encode "AT".toList <+: ringingStream ∧
      ∃ frame, Framing.frame? Sentry.defaults ringingStream = some frame ∧
        ((ringing promptDevice).exchange .script "AT".toList (.ofMillis 50)).2 =
          .ok (.answered ⟨Utf8.encode ['R'], ringingStream.take frame.stop⟩) ∧
        ((ringing haltingDevice).exchange .operator "AT".toList (.ofMillis 30)).2 =
          .ok (.answered ⟨Utf8.encode ['R'], ringingStream.take frame.stop⟩) := by
  have placed : Utf8.encode "AT".toList <+: ringingStream :=
    ⟨Utf8.encode "\r\r\nOK\r\nRING".toList, rfl⟩
  have same := response_independent_of_delivery Sentry.defaults_apart (.inl placed)
    ⟨by rfl, by rfl⟩ ⟨by rfl, by rfl⟩ promptDevice_answers haltingDevice_answers
  obtain ⟨-, frame, framed, -, -, taken, taken', -, -⟩ := same
  exact ⟨placed, frame, framed, taken, taken'⟩

end Bench
end ModemDialog
