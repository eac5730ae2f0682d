import Mathlib.Algebra.Order.Floor.Div
import ModemDialog.Proofs.Session.Idling
import ModemDialog.Proofs.Session.Polling

/-! With which check a send ends. A timeout is counted in quiet checks: as many of them, one
after the other, as poll intervals make up the timeout, and one at least. -/
namespace ModemDialog

def quietChecks (timeout poll : Duration) : Nat :=
  max 1 (min (timeout.nanos ⌈/⌉ poll.nanos) (2 ^ 32 - 1))

theorem patience_eq {poll : Duration} (positive : 0 < poll.nanos) (timeout : Duration) :
    patience timeout poll = quietChecks timeout poll := by
  have nonzero : poll.nanos ≠ 0 := by omega
  simp [patience, quietChecks, nonzero, Nat.ceilDiv_eq_add_pred_div, Numeral.largestCount]

@[simp] theorem ceilMillis_ofMillis (p : Nat) : (Duration.ofMillis p).ceilMillis = p := by
  simp only [Duration.ceilMillis, Duration.ofMillis]
  omega

namespace Bench

variable {b mid : Bench} {origin : Origin} {command : Text} {timeout : Duration} {x : Exchange}

theorem bench_of_issue (issued : b.issue origin command timeout = (mid, .ok x)) :
    mid = ((b.announce origin command).write (wire command)).1 := by
  unfold issue at issued
  dsimp only at issued
  unfold announce
  split at issued
  · cases issued
  · rename_i wrote
    rw [wrote]
    exact (congrArg Prod.fst issued).symm

theorem issue_starts (issued : b.issue origin command timeout = (mid, .ok x)) :
    x = ⟨command, b.inbox.data.length, patience timeout b.poll, patience timeout b.poll,
        mid.inbox.received⟩ ∧
      mid.clock = b.clock ∧ mid.poll = b.poll := by
  obtain ⟨⟨ahead, behind, advances, -⟩, -⟩ := b.issue_spec origin command timeout
  rw [issued] at advances
  have clock : mid.clock = b.clock := by
    rw [bench_of_issue issued, write_eq, heed_clock]
    exact announce_clock b origin command
  refine ⟨?_, clock, advances.poll⟩
  unfold issue at issued
  dsimp only at issued
  split at issued
  · cases issued
  · cases issued
    rw [advances.poll]
    rfl

theorem fresh_of_issue (issued : b.issue origin command timeout = (mid, .ok x)) :
    x.Fresh mid := by
  obtain ⟨rfl, -⟩ := issue_starts issued
  refine ⟨?_, rfl, rfl⟩
  simp only [patience]
  split <;> omega

theorem send_of_issue (issued : b.issue origin command timeout = (mid, .ok x)) :
    b.send origin command timeout =
      (((mid.await x).1.report origin command timeout (mid.await x).2).1,
        .ok (((mid.await x).1.report origin command timeout (mid.await x).2).2)) := by
  simp [send, exchange, issued]

/-- The frame that a check finds behind the anchor: the first place of the command that is not
ahead of `mark`. -/
def anchored? (b : Bench) (mark : Nat) (command : Text) : Option Frame :=
  Framing.frame? b.sentries
    (b.inbox.data.drop (Inbox.anchorAt b.inbox.data mark (Utf8.encode command)))

def framed (b : Bench) (mark : Nat) (command : Text) (frame : Frame) : Bytes :=
  (b.inbox.data.drop (Inbox.anchorAt b.inbox.data mark (Utf8.encode command))).take frame.stop

theorem examine_eq_none_iff :
    x.examine b.sentries b.inbox = none ↔ b.anchored? x.mark x.command = none := by
  simp [Exchange.examine, Inbox.take?, anchored?]

theorem waits_iff {k : Nat} (issued : b.issue origin command timeout = (mid, .ok x)) :
    x.Waits mid k ↔
      (mid.polled k).anchored? b.inbox.data.length command = none ∧
        (mid.polled k).alive = true ∧ ¬ mid.EndsQuietRun (patience timeout b.poll) k := by
  obtain ⟨rfl, -⟩ := issue_starts issued
  rw [endsQuietRun_iff, Nat.not_le]
  constructor
  · intro waits
    have unanswered := waits.unanswered
    rw [← polled_sentries mid k, examine_eq_none_iff] at unanswered
    exact ⟨unanswered, waits.alive, waits.short⟩
  · rintro ⟨unanswered, alive, short⟩
    refine ⟨?_, alive, short⟩
    rw [← polled_sentries mid k, examine_eq_none_iff]
    exact unanswered

def tricklingDevice : Device := fun _ w =>
  { Reply.ofData w.data with later :=
      [(15, .data (Utf8.encode "\r\n+X".toList)), (25, .data (Utf8.encode ": 1".toList))] }

def tricklingBench : Bench := start tricklingDevice Sentry.defaults (.ofMillis 10) .none

def tricklingWritten : Bench :=
  (tricklingBench.issue .script "AT".toList (.ofMillis 25)).1

end Bench
end ModemDialog
