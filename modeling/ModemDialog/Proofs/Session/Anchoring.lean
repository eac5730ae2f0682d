import ModemDialog.Proofs.Framing.Closing
import ModemDialog.Proofs.Session.LateReply
import ModemDialog.Proofs.Session.Stripping

/-! A reply without an echo at its front. Framing starts at the first place of the command in
what has come, so the answer is the whole frame exactly if the command stands nowhere in the
reply. If it does, what stands ahead of it is lost to the answer, and the frame is looked for
behind it. -/
namespace ModemDialog
namespace Response

theorem length_dropLineEnd_le (t : Text) : (dropLineEnd t).length ≤ t.length := by
  have shorter (mark : Char) (t : Text) : (([mark].isPrefixOf? t).getD t).length ≤ t.length := by
    cases found : [mark].isPrefixOf? t with
    | none => exact Nat.le_refl _
    | some rest =>
        rw [← List.isPrefixOf?_eq_some_iff_append_eq.mp found]
        simp
  exact Nat.le_trans (shorter '\n' _) (shorter '\r' t)

theorem withoutEcho_eq_self_iff {raw : Bytes} {command : Text} (nonempty : command ≠ []) :
    withoutEcho raw command = Utf8.decodeLossy raw ↔ ¬ command <+: Utf8.decodeLossy raw := by
  constructor
  · rintro same ⟨rest, split⟩
    rw [withoutEcho_of_read nonempty split.symm, ← split] at same
    have size := congrArg List.length same
    have positive := List.length_pos_iff.mpr nonempty
    have short := length_dropLineEnd_le rest
    rw [List.length_append] at size
    omega
  · exact withoutEcho_of_not_prefix

end Response

namespace Bench

variable {b : Bench} {origin : Origin} {command : Text} {timeout : Duration} {reply : Bytes}
  {frame : Frame}

/-- The send is answered with the whole frame of the reply: nothing of it is stray data, and
all of its text is the response. -/
structure Whole (b : Bench) (origin : Origin) (command : Text) (timeout : Duration)
    (reply : Bytes) (frame : Frame) : Prop where
  taken : (b.exchange origin command timeout).2 =
    .ok (.answered ⟨b.inbox.data, reply.take frame.stop⟩)
  told : (b.send origin command timeout).2 =
    .ok ⟨Utf8.decodeLossy (reply.take frame.stop), false⟩

/-- Bytes ahead of the first place of the command are stray data, whenever the answer comes. -/
theorem stray_of_mention {taken : Taken} {place : Nat}
    (sees : Sees b origin command timeout reply)
    (mention : StandsFirst (Utf8.encode command) reply 0 place)
    (answered : (b.exchange origin command timeout).2 = .ok (.answered taken)) :
    taken.stray = b.inbox.data ++ reply.take place := by
  obtain ⟨more, whole⟩ := sees.begins
  obtain ⟨cut, -, rfl, -⟩ := AnsweredOn.exists_frame ⟨answered, rfl⟩
  have found := standsFirst_zero_iff.mp mention
  have inside := firstAt?_add_length_le found
  rw [← whole, firstAt?_append found, Option.getD_some,
    List.take_append_of_le_length (by omega)]

theorem whole_iff (sees : Sees b origin command timeout reply)
    (unechoed : ¬ Utf8.encode command <+: reply)
    (framed : Framing.frame? b.sentries reply = some frame) :
    Whole b origin command timeout reply frame ↔
      ¬ Utf8.encode command <:+: reply ∧
        ¬ command <+: Utf8.decodeLossy (reply.take frame.stop) := by
  have nonempty : command ≠ [] := by
    rintro rfl
    exact unechoed List.nil_prefix
  have result := b.send_result origin command timeout
  constructor
  · rintro ⟨taken, told⟩
    constructor
    · intro inside
      obtain ⟨i, stands⟩ := exists_prefix_drop inside
      obtain ⟨place, -, found⟩ := firstAt?_isSome_of_prefix_drop stands
      have mention := standsFirst_zero_iff.mpr found
      have stray := stray_of_mention sees mention taken
      have room := firstAt?_add_length_le found
      rw [List.self_eq_append_right, List.take_eq_nil_iff] at stray
      rcases stray with rfl | rfl
      · exact unechoed mention.stands
      · exact unechoed (by simpa using inside)
    · rw [taken, told] at result
      apply (Response.withoutEcho_eq_self_iff nonempty).mp
      simpa [Except.map, Exchange.Ending.response, eq_comm] using result
  · rintro ⟨silent, unread⟩
    have starts : (firstAt? (Utf8.encode command) reply).getD 0 = 0 := by
      rw [firstAt?_eq_none_iff.mpr silent]
      rfl
    obtain ⟨taken, -⟩ := sees.answeredOn starts framed
    rw [List.take_zero, List.append_nil] at taken
    rw [taken] at result
    refine ⟨taken, result.trans ?_⟩
    rw [← (Response.withoutEcho_eq_self_iff nonempty).mpr unread]
    rfl

theorem encode_prefix_of_take {n : Nat} (faithful : Utf8.replacement ∉ command)
    (front : command <+: Utf8.decodeLossy (reply.take n)) : Utf8.encode command <+: reply :=
  (Utf8.encode_prefix_of_decodeLossy faithful front).trans (List.take_prefix n reply)

/-- A complete reply that does not begin with the command is seen by a check. The answer is its
whole frame exactly if the command stands nowhere in the reply, and the text of the frame does
not begin with it either; that is no condition of its own but for a command that holds the
replacement character, which is also read for ill-formed bytes. If the command stands in the
reply, what is ahead of its first place is stray data, and the send is answered on this reply
exactly if there is a frame behind that place. -/
theorem unechoed_reply_whole_iff (sees : Sees b origin command timeout reply)
    (unechoed : ¬ Utf8.encode command <+: reply)
    (framed : Framing.frame? b.sentries reply = some frame) :
    (Whole b origin command timeout reply frame ↔
      ¬ Utf8.encode command <:+: reply ∧
        ¬ command <+: Utf8.decodeLossy (reply.take frame.stop)) ∧
    (Utf8.replacement ∉ command →
      (Whole b origin command timeout reply frame ↔ ¬ Utf8.encode command <:+: reply)) ∧
    ∀ place, StandsFirst (Utf8.encode command) reply 0 place →
      0 < place ∧
      (∀ taken, (b.exchange origin command timeout).2 = .ok (.answered taken) →
        taken.stray = b.inbox.data ++ reply.take place) ∧
      ∀ taken, AnsweredOn b origin command timeout reply taken ↔
        ∃ cut, Framing.frame? b.sentries (reply.drop place) = some cut ∧
          taken = ⟨b.inbox.data ++ reply.take place, (reply.drop place).take cut.stop⟩ := by
  refine ⟨whole_iff sees unechoed framed, ?_, ?_⟩
  · intro faithful
    rw [whole_iff sees unechoed framed, and_iff_left_iff_imp]
    intro _ front
    exact unechoed (encode_prefix_of_take faithful front)
  · intro place mention
    refine ⟨?_, ?_, ?_⟩
    · apply Nat.pos_of_ne_zero
      rintro rfl
      exact unechoed mention.stands
    · intro taken
      exact stray_of_mention sees mention
    · intro taken
      apply sees.answeredOn_iff
      rw [standsFirst_zero_iff.mp mention]
      rfl

def muteBench (reply : Bytes) : Bench :=
  { start (fun _ _ => .ofData reply) Sentry.defaults (.ofMillis 10) .none with
    inbox := ⟨Utf8.encode ['R'], 1⟩ }

def levelReply : Bytes := Utf8.encode "\r\nLEVEL: 1\r\n\r\nOK\r\n".toList

def statusReply : Bytes := Utf8.encode "\r\nSTATUS: 1\r\n\r\nOK\r\n".toList

theorem muteBench_sees :
    Sees (muteBench levelReply) .script "AT".toList (.ofMillis 50) levelReply ∧
      Sees (muteBench statusReply) .script "AT".toList (.ofMillis 50) statusReply :=
  ⟨⟨_, _, _, _, rfl, .first _ _, by decide +kernel⟩,
    ⟨_, _, _, _, rfl, .first _ _, by decide +kernel⟩⟩

theorem unechoed_reply_whole :
    ¬ Utf8.encode "AT".toList <:+: levelReply ∧
      Whole (muteBench levelReply) .script "AT".toList (.ofMillis 50) levelReply ⟨18, 0⟩ := by
  have silent : ¬ Utf8.encode "AT".toList <:+: levelReply := by decide +kernel
  have framed : Framing.frame? Sentry.defaults levelReply = some ⟨18, 0⟩ := by decide +kernel
  obtain ⟨-, whole, -⟩ := unechoed_reply_whole_iff muteBench_sees.1
    (mt List.IsPrefix.isInfix silent) framed
  exact ⟨silent, (whole (by decide)).mpr silent⟩

/-- The reply has the letters of the command in a word; the text begins behind them. -/
theorem unechoed_reply_cut_at_mention :
    Sees (muteBench statusReply) .script "AT".toList (.ofMillis 50) statusReply ∧
      ¬ Utf8.encode "AT".toList <+: statusReply ∧
      Framing.frame? Sentry.defaults statusReply = some ⟨19, 0⟩ ∧
      ¬ Whole (muteBench statusReply) .script "AT".toList (.ofMillis 50) statusReply ⟨19, 0⟩ ∧
      ((muteBench statusReply).exchange .script "AT".toList (.ofMillis 50)).2 =
        .ok (.answered ⟨Utf8.encode "R\r\nST".toList, statusReply.drop 4⟩) ∧
      ((muteBench statusReply).send .script "AT".toList (.ofMillis 50)).2 =
        .ok ⟨"US: 1\r\n\r\nOK\r\n".toList, false⟩ := by
  have told : ((muteBench statusReply).send .script "AT".toList (.ofMillis 50)).2 =
      .ok ⟨"US: 1\r\n\r\nOK\r\n".toList, false⟩ := by decide +kernel
  refine ⟨muteBench_sees.2, by decide +kernel, by decide +kernel, ?_, by decide +kernel, told⟩
  rintro ⟨-, whole⟩
  rw [told] at whole
  revert whole
  decide +kernel

end Bench
end ModemDialog
