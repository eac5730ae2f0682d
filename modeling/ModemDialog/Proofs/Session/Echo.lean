import ModemDialog.Proofs.Framing.Prepending
import ModemDialog.Proofs.Session.LateReply
import ModemDialog.Proofs.Session.Stripping

/-! The answer of a device that echoes. Framing starts with the echo, so a sentry may stand in
it. If no literal begins in the echo, the frame is that of the reply alone and the text is
without the echo; else the sentry that leads begins in the echo, and it alone closes the
frame. -/
namespace ModemDialog

theorem wire_eq (command : Text) : wire command = Utf8.encode command ++ Utf8.encode ['\r'] :=
  Utf8.encode_append command lineEnd

namespace Response

theorem withoutEcho_wire_append {command : Text} {rest : Bytes} (nonempty : command ≠ [])
    (noFeed : ¬ Utf8.encode ['\n'] <+: rest) :
    withoutEcho (wire command ++ rest) command = Utf8.decodeLossy rest := by
  have carriage : Bytes.dropFront [0x0D] (Utf8.encode ['\r'] ++ rest) = rest :=
    Bytes.dropFront_append _ rest
  have kept : Bytes.dropFront [0x0A] rest = rest := Bytes.dropFront_of_not_prefix noFeed
  rw [wire_eq, List.append_assoc, withoutEcho_encode_append nonempty, carriage, kept]

end Response

namespace Framing

/-- Literals that start a line of their own do not begin in the echo of a command that is one
line. -/
theorem clear_wire {sentries : List Sentry} {command : Text} {reply : Bytes}
    (lines : ∀ s ∈ sentries, ['\r', '\n'] <+: s.literal) (oneLine : '\r' ∉ command)
    (noFeed : ¬ Utf8.encode ['\n'] <+: reply) : Clear sentries (wire command) reply := by
  intro s member _ p inside stands
  have start : Utf8.encode ['\r'] ++ Utf8.encode ['\n'] <+: s.bytes := by
    obtain ⟨rest, whole⟩ := lines s member
    rw [Sentry.bytes, ← whole, Utf8.encode_append]
    exact List.prefix_append _ _
  have ends := start.trans stands
  rw [wire_eq, List.append_assoc] at ends
  rw [wire_eq, List.length_append] at inside
  by_cases within : p < (Utf8.encode command).length
  · -- The carriage return of the literal would be a byte of the command.
    apply oneLine
    apply Utf8.mem_of_byte_mem (by decide)
    have front := (List.prefix_append (Utf8.encode ['\r']) _).trans ends
    rw [prefix_drop_append_iff (by exact within)] at front
    exact List.mem_of_mem_drop (front.subset (by decide))
  · -- The literal would stand at the carriage return behind the command.
    have last : p = (Utf8.encode command).length := by
      have size : (Utf8.encode ['\r']).length = 1 := by decide
      omega
    rw [last, List.drop_left, List.prefix_append_right_inj] at ends
    exact noFeed ends

end Framing

namespace Bench

open Framing

variable {b : Bench} {origin : Origin} {command : Text} {timeout : Duration} {reply : Bytes}

/-- The send is answered with the frame of the reply alone, and leaves what is behind it. -/
structure Told (b : Bench) (origin : Origin) (command : Text) (timeout : Duration)
    (reply : Bytes) (frame : Frame) : Prop where
  told : (b.send origin command timeout).2 =
    .ok ⟨Utf8.decodeLossy (reply.take frame.stop), false⟩
  left : (b.send origin command timeout).1.inbox.data = reply.drop frame.stop

theorem echo_starts (command : Text) (reply : Bytes) :
    (firstAt? (Utf8.encode command) (wire command ++ reply)).getD 0 = 0 := by
  have echo : Utf8.encode command <+: wire command ++ reply := by
    rw [wire_eq, List.append_assoc]
    exact List.prefix_append _ _
  rw [firstAt?_eq_zero echo]
  rfl

theorem answeredOn_echoed_iff {taken : Taken}
    (sees : Sees b origin command timeout (wire command ++ reply)) :
    AnsweredOn b origin command timeout (wire command ++ reply) taken ↔
      ∃ frame, frame? b.sentries (wire command ++ reply) = some frame ∧
        taken = ⟨b.inbox.data, (wire command ++ reply).take frame.stop⟩ := by
  simpa only [List.drop_zero, List.take_zero, List.append_nil] using
    sees.answeredOn_iff (echo_starts command reply)

theorem told_of_clear {frame : Frame} (nonempty : command ≠ [])
    (noFeed : ¬ Utf8.encode ['\n'] <+: reply)
    (sees : Sees b origin command timeout (wire command ++ reply))
    (clear : Clear b.sentries (wire command) reply)
    (framed : frame? b.sentries reply = some frame) :
    Told b origin command timeout reply frame := by
  have whole : frame? b.sentries (wire command ++ reply) =
      some ⟨(wire command).length + frame.stop, frame.sentry⟩ := by
    rw [frame?_append_left clear, framed]
    rfl
  have on := (answeredOn_echoed_iff sees).mpr ⟨_, whole, rfl⟩
  rw [List.take_length_add_append] at on
  constructor
  · have unfed : ¬ Utf8.encode ['\n'] <+: reply.take frame.stop := by
      intro front
      exact noFeed (front.trans (List.take_prefix _ _))
    rw [send_result, on.answered, ← Response.withoutEcho_wire_append nonempty unfed]
    rfl
  · obtain ⟨same, framed', -, left⟩ := on.exists_frame
    rw [echo_starts, List.drop_zero, whole] at framed'
    obtain rfl := Option.some.inj framed'
    rw [left, echo_starts, Nat.zero_add, List.drop_length_add_append]

/-- A check sees the echo and a reply behind it that does not begin with a line feed. If no
literal begins in the echo, the send is answered exactly if there is a frame of the reply alone;
the text is that of the frame, and what is behind the frame stays in the buffer. If one does,
the sentry that leads begins in the echo; the send is answered exactly if that sentry closes,
with all from the echo to there. -/
theorem echoed_reply_answered_iff (nonempty : command ≠ [])
    (noFeed : ¬ Utf8.encode ['\n'] <+: reply)
    (sees : Sees b origin command timeout (wire command ++ reply)) :
    (Clear b.sentries (wire command) reply →
      ((∃ taken, AnsweredOn b origin command timeout (wire command ++ reply) taken) ↔
        ∃ frame, frame? b.sentries reply = some frame) ∧
      ∀ frame, frame? b.sentries reply = some frame →
        Told b origin command timeout reply frame) ∧
    (¬ Clear b.sentries (wire command) reply →
      ∃ start index s, Leads b.sentries (wire command ++ reply) start index s ∧
        start < (wire command).length ∧
        ∀ taken, AnsweredOn b origin command timeout (wire command ++ reply) taken ↔
          ∃ stop, s.ClosesAt (wire command ++ reply) start stop ∧
            taken = ⟨b.inbox.data, (wire command ++ reply).take stop⟩) := by
  constructor
  · intro clear
    constructor
    · simp only [answeredOn_echoed_iff sees, frame?_append_left clear, Option.map_eq_some_iff]
      constructor
      · rintro ⟨taken, whole, ⟨frame, framed, -⟩, -⟩
        exact ⟨frame, framed⟩
      · rintro ⟨frame, framed⟩
        exact ⟨_, _, ⟨frame, framed, rfl⟩, rfl⟩
    · intro frame framed
      exact told_of_clear nonempty noFeed sees clear framed
  · intro begun
    simp only [clear_iff_leads, not_forall, Nat.not_le] at begun
    obtain ⟨start, index, s, leads, inside⟩ := begun
    refine ⟨start, index, s, leads, inside, ?_⟩
    intro taken
    simp only [answeredOn_echoed_iff sees, leads.frame?_eq_some_iff]
    constructor
    · rintro ⟨frame, ⟨stop, closes, rfl⟩, taken_eq⟩
      exact ⟨stop, closes, taken_eq⟩
    · rintro ⟨stop, closes, taken_eq⟩
      exact ⟨_, ⟨stop, closes, rfl⟩, taken_eq⟩

def echoBench (sentries : List Sentry) (reply : Bytes) : Bench :=
  start (fun _ w => .ofData (w.data ++ reply)) sentries (.ofMillis 10) .none

def modelReply : Bytes := Utf8.encode "\r\nMODEL\r\n\r\nOK\r\nRING".toList

theorem echoed_reply_told :
    Sees (echoBench Sentry.defaults modelReply) .script "AT+BOOK?".toList (.ofMillis 50)
        (wire "AT+BOOK?".toList ++ modelReply) ∧
      Clear Sentry.defaults (wire "AT+BOOK?".toList) modelReply ∧
      Told (echoBench Sentry.defaults modelReply) .script "AT+BOOK?".toList (.ofMillis 50)
        modelReply ⟨15, 0⟩ := by
  have noFeed : ¬ Utf8.encode ['\n'] <+: modelReply := by decide +kernel
  have clear : Clear Sentry.defaults (wire "AT+BOOK?".toList) modelReply :=
    clear_wire (by decide) (by decide) noFeed
  have sees : Sees (echoBench Sentry.defaults modelReply) .script "AT+BOOK?".toList
      (.ofMillis 50) (wire "AT+BOOK?".toList ++ modelReply) :=
    ⟨_, _, _, _, rfl, .first _ _, by decide +kernel⟩
  obtain ⟨-, told⟩ := (echoed_reply_answered_iff (by decide) noFeed sees).1 clear
  exact ⟨sees, clear, told _ (by decide +kernel)⟩

def shortSentries : List Sentry := [.plain "OK".toList, .plain "ERROR".toList]

theorem echo_closes_own_response :
    Sees (echoBench shortSentries modelReply) .script "AT+BOOK?".toList (.ofMillis 50)
        (wire "AT+BOOK?".toList ++ modelReply) ∧
      ¬ Utf8.encode ['\n'] <+: modelReply ∧
      frame? shortSentries modelReply = some ⟨13, 0⟩ ∧
      ¬ Told (echoBench shortSentries modelReply) .script "AT+BOOK?".toList (.ofMillis 50)
        modelReply ⟨13, 0⟩ ∧
      ((echoBench shortSentries modelReply).send .script "AT+BOOK?".toList (.ofMillis 50)).2 =
        .ok ⟨"AT+BOOK".toList, false⟩ := by
  have told : ((echoBench shortSentries modelReply).send .script "AT+BOOK?".toList
      (.ofMillis 50)).2 = .ok ⟨"AT+BOOK".toList, false⟩ := by decide +kernel
  refine ⟨⟨_, _, _, _, rfl, .first _ _, by decide +kernel⟩, by decide +kernel,
    by decide +kernel, ?_, told⟩
  rintro ⟨alone, -⟩
  rw [told] at alone
  revert alone
  decide +kernel

end Bench
end ModemDialog
