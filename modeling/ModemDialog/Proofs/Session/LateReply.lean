import ModemDialog.Proofs.Session.Accounting
import ModemDialog.Proofs.Session.Delivery

/-! A reply that comes after its command has timed out. What has come before the next
command is written never counts as its answer; what comes between that write and the
echo is kept apart exactly if the echo is the first place where the command stands and no
check finds a complete frame before the echo is there. -/
namespace ModemDialog
namespace Bench

variable {b : Bench} {origin : Origin} {command : Text} {timeout : Duration}

def Sees (b : Bench) (origin : Origin) (command : Text) (timeout : Duration)
    (behind : Bytes) : Prop :=
  ∃ mid x later y, b.issue origin command timeout = (mid, .ok x) ∧ Checks mid x later y ∧
    behind = b.arrivedSince later

theorem Sees.begins {behind : Bytes} (sees : Sees b origin command timeout behind) :
    behind <+: b.arrivedSince (b.send origin command timeout).1 := by
  obtain ⟨mid, x, later, y, issued, checks, rfl⟩ := sees
  obtain ⟨last, box, ⟨events, advances, -⟩, after, -⟩ := later.await_takes y
  have sent : (b.send origin command timeout).1 =
      ({ last with inbox := box }.report origin command timeout (later.await y).2).1 := by
    simp [send, exchange, issued, checks.await_eq, ← after]
  obtain ⟨reported, reports, aside, -⟩ :=
    ({ last with inbox := box }.report_spec origin command timeout (later.await y).2).2
  rw [← sent] at reports
  have brought : (b.send origin command timeout).1.arrived =
      later.arrived ++ Event.arrivals events := by
    rw [reports.arrived, Event.arrivals_of_aside aside, List.append_nil, ← advances.arrived]
    rfl
  obtain ⟨⟨ahead, answers, issues, -⟩, -⟩ := b.issue_spec origin command timeout
  rw [issued] at issues
  obtain ⟨passed, passes, -⟩ := checks.passes
  have whole := issues.trans passes
  refine ⟨Event.arrivals events, ?_⟩
  rw [whole.arrivedSince, arrivedSince, brought, whole.arrived, List.append_assoc b.arrived,
    List.drop_left]

/-- A check that sees a complete frame takes it. The framing starts where the command first
stands in what has come, or at its beginning. -/
theorem Sees.answeredOn {behind : Bytes} {frame : Frame} {ahead : Nat}
    (sees : Sees b origin command timeout behind)
    (starts : (firstAt? (Utf8.encode command) behind).getD 0 = ahead)
    (framed : Framing.frame? b.sentries (behind.drop ahead) = some frame) :
    AnsweredOn b origin command timeout behind
      ⟨b.inbox.data ++ behind.take ahead, (behind.drop ahead).take frame.stop⟩ := by
  obtain ⟨mid, x, later, y, issued, checks, rfl⟩ := sees
  obtain ⟨command_eq, marked, sentries_eq, data⟩ := check_sees issued checks
  have start : y.start later.inbox.data = b.inbox.data.length + ahead := by
    rw [data, Exchange.start_append marked, command_eq, starts]
  have found : y.examine later.sentries later.inbox =
      some (⟨b.inbox.data ++ (b.arrivedSince later).take ahead,
          ((b.arrivedSince later).drop ahead).take frame.stop⟩,
        ⟨later.inbox.data.drop (b.inbox.data.length + ahead + frame.stop),
          later.inbox.received⟩) := by
    refine Exchange.examine_eq_some_iff.mpr ⟨frame, ?_, ?_, ?_, ?_⟩
    · rw [start, data, List.drop_length_add_append, sentries_eq]
      exact framed
    · rw [start, data, List.take_length_add_append]
    · rw [start, data, List.drop_length_add_append]
    · rw [start]
  obtain ⟨answered, last⟩ := AnsweredAt.of_examine issued checks found
  exact ⟨answered, last.arrived⟩

theorem AnsweredOn.sees {behind : Bytes} {taken : Taken}
    (h : AnsweredOn b origin command timeout behind taken) :
    Sees b origin command timeout behind := by
  obtain ⟨answered, rfl⟩ := h
  obtain ⟨last, y, ⟨mid, x, issued, checks⟩, -, arrived⟩ := exists_answeredAt answered
  exact ⟨mid, x, last, y, issued, checks, arrived⟩

theorem Sees.answeredOn_iff {behind : Bytes} {taken : Taken} {ahead : Nat}
    (sees : Sees b origin command timeout behind)
    (starts : (firstAt? (Utf8.encode command) behind).getD 0 = ahead) :
    AnsweredOn b origin command timeout behind taken ↔
      ∃ frame, Framing.frame? b.sentries (behind.drop ahead) = some frame ∧
        taken = ⟨b.inbox.data ++ behind.take ahead, (behind.drop ahead).take frame.stop⟩ := by
  constructor
  · intro on
    obtain ⟨frame, framed, taken_eq, -⟩ := on.exists_frame
    rw [starts] at framed taken_eq
    exact ⟨frame, framed, taken_eq⟩
  · rintro ⟨frame, framed, rfl⟩
    exact sees.answeredOn starts framed

theorem echo_le_length {echo late reply behind : Bytes} {i : Nat}
    (begins : behind <+: late ++ (echo ++ reply)) (found : firstAt? echo behind = some i) :
    i ≤ late.length := by
  obtain ⟨more, whole⟩ := begins
  have first : firstAt? echo (late ++ (echo ++ reply)) = some i := by
    rw [← whole]
    exact firstAt?_append found
  have stands : echo <+: (late ++ (echo ++ reply)).drop late.length := by
    rw [List.drop_left]
    exact List.prefix_append _ _
  obtain ⟨j, le, found'⟩ := firstAt?_isSome_of_prefix_drop stands
  rw [first] at found'
  obtain rfl := Option.some.inj found'
  exact le

/-- The echo is the first place of the command, seen or not: what is too short to hold it
does not hold the command, and what is long enough has it at its place. -/
theorem firstAt?_of_echo {echo late reply behind : Bytes}
    (echoFirst : firstAt? echo (late ++ echo) = some late.length)
    (begins : behind <+: late ++ (echo ++ reply)) :
    firstAt? echo behind =
      if behind.length < late.length + echo.length then none else some late.length := by
  have first : firstAt? echo (late ++ (echo ++ reply)) = some late.length := by
    rw [← List.append_assoc]
    exact firstAt?_append echoFirst
  obtain ⟨more, whole⟩ := begins
  rw [← whole] at first
  split
  · rename_i short
    cases found : firstAt? echo behind with
    | none => rfl
    | some i =>
        have room := firstAt?_add_length_le found
        rw [firstAt?_append found] at first
        have place := Option.some.inj first
        omega
  · exact firstAt?_of_append first (by omega)

theorem firstAt?_of_cut {echo late reply behind : Bytes} (some_late : late ≠ [])
    (begins : behind <+: late ++ (echo ++ reply))
    (cut : behind.take ((firstAt? echo behind).getD 0) = late) :
    firstAt? echo (late ++ echo) = some late.length := by
  cases place : firstAt? echo behind with
  | none =>
      rw [place] at cut
      exact absurd cut.symm some_late
  | some i =>
      rw [place, Option.getD_some] at cut
      have inside := firstAt?_add_length_le place
      have size : i = late.length := by
        rw [← cut, List.length_take]
        omega
      obtain ⟨more, whole⟩ := begins
      have first : firstAt? echo (behind ++ more) = some i := firstAt?_append place
      rw [whole, size, ← List.append_assoc] at first
      exact firstAt?_of_append first (Nat.le_of_eq List.length_append.symm)

/-- The bytes of `late` that come behind the mark and ahead of the echo are stray data of
the answered send exactly if none came, or the echo is the first place of the command and
no check sees a complete frame before the whole echo has come. -/
theorem stray_eq_iff {taken : Taken} {late reply : Bytes}
    (answered : (b.exchange origin command timeout).2 = .ok (.answered taken))
    (brought : b.arrivedSince (b.send origin command timeout).1 <+:
      late ++ (Utf8.encode command ++ reply)) :
    taken.stray = b.inbox.data ++ late ↔
      late = [] ∨
        firstAt? (Utf8.encode command) (late ++ Utf8.encode command) = some late.length ∧
        ∀ behind, Sees b origin command timeout behind →
          behind.length < late.length + (Utf8.encode command).length →
          Framing.frame? b.sentries behind = none := by
  have on : AnsweredOn b origin command timeout _ taken := ⟨answered, rfl⟩
  have sees := on.sees
  obtain ⟨frame, framed, taken_eq, -⟩ := on.exists_frame
  have within : ∀ behind, Sees b origin command timeout behind →
      behind <+: late ++ (Utf8.encode command ++ reply) := by
    intro behind seen
    exact seen.begins.trans brought
  generalize b.arrivedSince (b.send origin command timeout).1 = came at brought sees framed taken_eq
  have stray : taken.stray =
      b.inbox.data ++ came.take ((firstAt? (Utf8.encode command) came).getD 0) := by
    rw [taken_eq]
  constructor
  · intro apart
    refine Decidable.or_iff_not_imp_left.mpr fun some_late => ?_
    rw [stray, List.append_cancel_left_eq] at apart
    have echoFirst := firstAt?_of_cut some_late brought apart
    refine ⟨echoFirst, fun behind seen short => ?_⟩
    refine Decidable.byContradiction fun framed' => some_late ?_
    have silent : firstAt? (Utf8.encode command) behind = none := by
      rw [firstAt?_of_echo echoFirst (within behind seen), if_pos short]
    obtain ⟨frame', framed'⟩ := Option.ne_none_iff_exists'.mp framed'
    have starts : (firstAt? (Utf8.encode command) behind).getD 0 = 0 := by rw [silent]; rfl
    obtain ⟨answered', -⟩ := seen.answeredOn starts framed'
    rw [answered, List.take_zero, List.append_nil] at answered'
    obtain rfl : taken = ⟨b.inbox.data, _⟩ := by simpa using answered'
    rw [← apart]
    exact List.self_eq_append_right.mp stray
  · rintro (rfl | ⟨echoFirst, early⟩)
    · rw [stray]
      cases place : firstAt? (Utf8.encode command) came with
      | none => rfl
      | some i =>
          have := echo_le_length brought place
          obtain rfl : i = 0 := by simpa using this
          rfl
    · have place := firstAt?_of_echo echoFirst brought
      by_cases short : came.length < late.length + (Utf8.encode command).length
      · rw [if_pos short] at place
        rw [place, Option.getD_none, List.drop_zero, early _ sees short] at framed
        cases framed
      · rw [if_neg short] at place
        rw [stray, place, Option.getD_some]
        congr 1
        have front : late <+: came :=
          List.prefix_of_prefix_length_le (List.prefix_append late _) brought (by omega)
        exact (List.prefix_iff_eq_take.mp front).symm

theorem exists_cut {taken : Taken} {late reply : Bytes}
    (answered : (b.exchange origin command timeout).2 = .ok (.answered taken))
    (brought : b.arrivedSince (b.send origin command timeout).1 <+:
      late ++ (Utf8.encode command ++ reply)) :
    ∃ k ≤ late.length, taken.stray = b.inbox.data ++ late.take k ∧
      taken.response <+: late.drop k ++ (Utf8.encode command ++ reply) := by
  obtain ⟨frame, -, rfl, -⟩ := AnsweredOn.exists_frame ⟨answered, rfl⟩
  generalize b.arrivedSince (b.send origin command timeout).1 = behind at brought ⊢
  have le : (firstAt? (Utf8.encode command) behind).getD 0 ≤ late.length := by
    cases place : firstAt? (Utf8.encode command) behind with
    | none => exact Nat.zero_le _
    | some i => exact echo_le_length brought place
  have inside : (firstAt? (Utf8.encode command) behind).getD 0 ≤ behind.length := by
    cases place : firstAt? (Utf8.encode command) behind with
    | none => exact Nat.zero_le _
    | some i => exact Nat.le_of_add_right_le (firstAt?_add_length_le place)
  generalize (firstAt? (Utf8.encode command) behind).getD 0 = k at le inside
  obtain ⟨more, whole⟩ := brought
  refine ⟨k, le, ?_, ?_⟩
  · dsimp only
    rw [← List.take_append_of_le_length inside, whole, List.take_append_of_le_length le]
  · dsimp only
    rw [← List.drop_append_of_le_length le, ← whole, List.drop_append_of_le_length inside]
    exact (List.take_prefix _ _).trans (List.prefix_append _ _)

theorem session_advances (b : Bench) {acts : List Act}
    (others : ∀ act ∈ acts, act.isSend = false) :
    ∃ events, Advances b (b.session acts) events := by
  induction acts generalizing b with
  | nil => exact ⟨[], .refl b⟩
  | cons act acts ih =>
      obtain ⟨events, advances, -⟩ := b.perform_advances (others act (by simp))
      obtain ⟨later, rest⟩ := ih (b.perform act) fun a member => others a (by simp [member])
      exact ⟨events ++ later, advances.trans rest⟩

/-- What comes between the write of a command that times out and a later write is all
still in the buffer then. -/
theorem expired_keeps {b₀ : Bench} (expired : (b₀.exchange origin command timeout).2 = .ok .expired)
    {between : List Act} (others : ∀ act ∈ between, act.isSend = false) :
    ((b₀.send origin command timeout).1.session between).inbox.data =
      b₀.inbox.data ++ b₀.arrivedSince ((b₀.send origin command timeout).1.session between) := by
  obtain ⟨ahead, behind, account⟩ := b₀.send_account origin command timeout
  obtain ⟨events, advances⟩ := session_advances (b₀.send origin command timeout).1 others
  have data := account.data
  rw [expired] at data
  have kept : (b₀.send origin command timeout).1.inbox.data =
      b₀.inbox.data ++ Event.arrivals behind := data.symm
  rw [advances.data, kept, arrivedSince, advances.arrived, account.arrived,
    List.append_assoc b₀.arrived, List.drop_left, List.append_assoc]

/-- A command times out, and the next one is answered. All that came from the first write
to the second is stray data. Of the bytes that come behind the second write and ahead of
its echo, such as the rest of the late reply, a front is stray data and the response
starts behind that; all of them are stray data exactly if the echo is the first place of
the second command and no check sees a complete frame before the whole echo has come. -/
theorem late_reply_kept_apart_iff {b₀ b : Bench} {origin₁ origin₂ : Origin}
    {command₁ command₂ : Text} {timeout₁ timeout₂ : Duration} {between : List Act}
    {late reply : Bytes} {taken : Taken}
    (expired : (b₀.exchange origin₁ command₁ timeout₁).2 = .ok .expired)
    (others : ∀ act ∈ between, act.isSend = false)
    (next : b = (b₀.send origin₁ command₁ timeout₁).1.session between)
    (answered : (b.exchange origin₂ command₂ timeout₂).2 = .ok (.answered taken))
    (brought : b.arrivedSince (b.send origin₂ command₂ timeout₂).1 <+:
      late ++ (wire command₂ ++ reply)) :
    (b.send origin₂ command₂ timeout₂).2 =
        .ok ⟨Response.withoutEcho taken.response command₂, false⟩ ∧
      b.inbox.data = b₀.inbox.data ++ b₀.arrivedSince b ∧
      (∃ k ≤ late.length, taken.stray = b.inbox.data ++ late.take k ∧
        taken.response <+: late.drop k ++ (wire command₂ ++ reply)) ∧
      (taken.stray = b.inbox.data ++ late ↔
        late = [] ∨
          firstAt? (Utf8.encode command₂) (late ++ Utf8.encode command₂) = some late.length ∧
          ∀ behind, Sees b origin₂ command₂ timeout₂ behind →
            behind.length < late.length + (Utf8.encode command₂).length →
            Framing.frame? b.sentries behind = none) := by
  have result := b.send_result origin₂ command₂ timeout₂
  rw [answered] at result
  rw [wire, Utf8.encode_append, List.append_assoc (Utf8.encode command₂)] at brought ⊢
  refine ⟨result, ?_, exists_cut answered brought, stray_eq_iff answered brought⟩
  rw [next]
  exact expired_keeps expired others

def lateReply : Bytes := Utf8.encode "\r\nA: 1\r\n\r\nOK\r\n".toList

def promptReply : Bytes := Utf8.encode "\r\nMODEL\r\n\r\nOK\r\n".toList

/-- An echoing device that answers its first command late, and sends the echo of any other
one together with the reply, after a while. -/
def slowDevice (delay : Nat) : Device := fun earlier w =>
  if earlier.isEmpty then { Reply.ofData w.data with later := [(delay, .data lateReply)] }
  else { Reply.silence with later := [(43, .data (w.data ++ promptReply))] }

def slowBench (delay : Nat) : Bench :=
  start (slowDevice delay) Sentry.defaults (.ofMillis 10) .none

def lateBench (delay : Nat) : Bench :=
  ((slowBench delay).send .script "AT+A".toList (.ofMillis 20)).1

/-- If the late reply and the echo come between the same two checks, all is kept apart. -/
theorem late_reply_kept_apart_between_checks :
    ((slowBench 52).exchange .script "AT+A".toList (.ofMillis 20)).2 = .ok .expired ∧
      ((lateBench 52).exchange .operator "ATI".toList (.ofMillis 100)).2 =
        .ok (.answered ⟨(lateBench 52).inbox.data ++ lateReply,
          wire "ATI".toList ++ promptReply⟩) ∧
      firstAt? (Utf8.encode "ATI".toList) (lateReply ++ Utf8.encode "ATI".toList) =
        some lateReply.length := by
  have expired : ((slowBench 52).exchange .script "AT+A".toList (.ofMillis 20)).2 =
      .ok .expired := by decide +kernel
  have answered : ((lateBench 52).exchange .operator "ATI".toList (.ofMillis 100)).2 =
      .ok (.answered ⟨(lateBench 52).inbox.data ++ lateReply,
        wire "ATI".toList ++ promptReply⟩) := by decide +kernel
  have brought : (lateBench 52).arrivedSince
      ((lateBench 52).send .operator "ATI".toList (.ofMillis 100)).1 =
        lateReply ++ (wire "ATI".toList ++ promptReply) := by decide +kernel
  obtain ⟨-, -, -, apart⟩ := late_reply_kept_apart_iff expired
    (by simp : ∀ act ∈ ([] : List Act), act.isSend = false) rfl answered
    ⟨[], (List.append_nil _).trans brought⟩
  rcases apart.mp rfl with empty | ⟨first, -⟩
  · cases empty
  · exact ⟨expired, answered, first⟩

/-- If a check comes between the late reply and the echo, the late reply is taken for the
answer. -/
theorem late_reply_answers_next_command :
    ((slowBench 35).send .script "AT+A".toList (.ofMillis 20)).2 = .ok .missing ∧
      ((lateBench 35).send .operator "ATI".toList (.ofMillis 100)).2 =
        .ok ⟨"\r\nA: 1\r\n\r\nOK\r\n".toList, false⟩ := by
  decide +kernel

end Bench
end ModemDialog
