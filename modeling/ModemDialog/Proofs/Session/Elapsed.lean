import ModemDialog.Proofs.Session.IdleTimeout

/-! How much time has passed when a timeout is reported. A run of quiet checks that follows new
bytes spans the timeout. The run that starts with the write does not: its first check comes at
once, so that it is one poll interval short. -/
namespace ModemDialog

theorem nanos_le_ceilMillis (d : Duration) : d.nanos ≤ d.ceilMillis * 1000000 := by
  simp only [Duration.ceilMillis]
  omega

theorem timeout_le_quietChecks {timeout poll : Duration} (positive : 0 < poll.nanos)
    (fits : timeout.nanos ⌈/⌉ poll.nanos ≤ 2 ^ 32 - 1) :
    timeout.nanos ≤ quietChecks timeout poll * poll.nanos := by
  rw [Nat.mul_comm, ← ceilDiv_le_iff_le_mul positive]
  simp only [quietChecks]
  omega

theorem spans_timeout {timeout poll : Duration} (positive : 0 < poll.nanos)
    (fits : timeout.nanos ⌈/⌉ poll.nanos ≤ 2 ^ 32 - 1) {k : Nat}
    (run : quietChecks timeout poll ≤ k) : timeout.nanos ≤ k * poll.ceilMillis * 1000000 := by
  rw [Nat.mul_assoc]
  exact (timeout_le_quietChecks positive fits).trans
    (Nat.mul_le_mul run (nanos_le_ceilMillis poll))

theorem timeout_le_quietChecks_pred_iff {timeout poll : Duration} (positive : 0 < poll.nanos) :
    timeout.nanos ≤ (quietChecks timeout poll - 1) * poll.nanos ↔ timeout.nanos = 0 := by
  constructor
  · intro enough
    by_contra some_time
    have one : ¬ timeout.nanos ⌈/⌉ poll.nanos ≤ 0 := by
      rw [ceilDiv_le_iff_le_mul positive]
      omega
    rw [Nat.mul_comm, ← ceilDiv_le_iff_le_mul positive] at enough
    simp only [quietChecks] at enough
    omega
  · intro zero
    rw [zero]
    exact Nat.zero_le _

namespace Bench

theorem Follows.arrived {before after : Bench} {events : List (Nat × Event)}
    (h : Follows before after events) :
    after.arrived = before.arrived ++ Event.arrivals (events.map Prod.snd) := by
  rw [Bench.arrived, h.history, Event.arrivals_append]
  rfl

theorem Rests.arrivedSince_eq_nil_iff {before after : Bench} (h : Rests before after) :
    before.arrivedSince after = [] ↔ after.arrived = before.arrived := by
  obtain ⟨events, follows⟩ := h.follows
  simp [arrivedSince, follows.arrived]

theorem exists_events_by {b c d : Bench} (early : ∃ events, Follows b c events)
    (late : ∃ events, Follows c d events) (same : d.arrived = c.arrived) :
    ∃ events, d.timeline = b.timeline ++ events ∧
      ∀ e ∈ events, e.2.bytes ≠ [] → e.1 ≤ c.clock := by
  obtain ⟨before, follows⟩ := early
  obtain ⟨behind, follows'⟩ := late
  refine ⟨before ++ behind, (follows.trans follows').timeline, ?_⟩
  intro e member bytes
  rcases List.mem_append.mp member with first | last
  · exact (follows.times e first).2
  · exfalso
    have silent : Event.arrivals (behind.map Prod.snd) = [] := by
      rw [follows'.arrived] at same
      simpa using same
    apply bytes
    exact List.flatMap_eq_nil_iff.mp silent e.2 (List.mem_map_of_mem last)

variable {b mid after : Bench} {origin : Origin} {command : Text} {timeout : Duration}
  {x : Exchange}

theorem issue_follows (issued : b.issue origin command timeout = (mid, .ok x)) :
    ∃ events, Follows b mid events := by
  obtain ⟨ahead, announced⟩ := (b.announce_rests origin command).follows
  obtain ⟨behind, wrote⟩ := (b.announce origin command).write_follows (wire command)
  rw [← bench_of_issue issued] at wrote
  exact ⟨_, announced.trans wrote⟩

theorem expire_arrived (b : Bench) (command : Text) (timeout : Duration) :
    (b.expire command timeout).arrived = b.arrived := by
  obtain ⟨events, reports, aside, -⟩ := (b.report_spec .script command timeout .expired).2
  have arrived := reports.arrived
  rwa [Event.arrivals_of_aside aside, List.append_nil] at arrived

theorem arrived_of_streak {k : Nat} (run : b.streak (k + 1) ≤ k) :
    (b.polled k).arrived = (b.polled (k - b.streak (k + 1))).arrived := by
  apply arrived_of_quiet (by omega)
  intro j behind le
  exact (le_streak_iff.mp (Nat.le_refl (b.streak (k + 1)))).2 j (by omega) (by omega)

theorem Passes.arrived_grows {before after : Bench} (h : Passes before after) :
    before.arrived <+: after.arrived := by
  obtain ⟨events, advances, -⟩ := h
  rw [advances.arrived]
  exact List.prefix_append _ _

theorem quiet_of_arrived {k : Nat} (same : (b.polled k).arrived = b.arrived) :
    ∀ j ≤ k, b.Quiet j := by
  intro j le
  have first := (b.polled_line (j - 1)).passes.arrived_grows
  have here := (b.polled_pred_line j).passes.arrived_grows
  have last := ((b.polled j).polled_line (k - j)).passes.arrived_grows
  rw [polled_add, show j + (k - j) = k by omega, same] at last
  rw [quiet_iff_arrived]
  apply Eq.symm
  apply here.eq_of_length
  have := first.length_le
  have := here.length_le
  have := last.length_le
  omega

theorem streak_eq_iff_arrived {k : Nat} :
    b.streak (k + 1) = k + 1 ↔ (b.polled k).arrived = b.arrived := by
  constructor
  · intro run
    apply arrived_of_quiet (Nat.zero_le k)
    intro j behind le
    exact (le_streak_iff.mp (Nat.le_of_eq run.symm)).2 j (by omega) (by omega)
  · intro same
    have full : k + 1 ≤ b.streak (k + 1) := by
      rw [le_streak_iff]
      exact ⟨Nat.le_refl _, fun j before _ => quiet_of_arrived same j (by omega)⟩
    have := b.streak_le (k + 1)
    omega

/-- The send of `command` on `b`, written at `mid`, reports a timeout with check `k` and leaves
the session at `after`. -/
structure ExpiresAt (b mid after : Bench) (command : Text) (n k : Nat) : Prop where
  incomplete : ∀ j ≤ k, (mid.polled j).anchored? b.inbox.data.length command = none
  reported : Rests (mid.polled k) after
  clock : after.clock = (mid.polled k).clock
  arrived : after.arrived = (mid.polled k).arrived
  run : mid.streak (k + 1) = n

theorem exists_expiresAt (positive : 0 < b.poll.nanos)
    (issued : b.issue origin command timeout = (mid, .ok x))
    (expired : (b.exchange origin command timeout).2 = .ok .expired) :
    ∃ k, ExpiresAt b mid (b.send origin command timeout).1 command
      (quietChecks timeout b.poll) k := by
  have ended : (mid.await x).2 = .expired := by
    simpa [exchange, issued] using expired
  obtain ⟨starts, -, -⟩ := issue_starts issued
  obtain ⟨k, waited, short, ends⟩ := await_ends (fresh_of_issue issued)
  cases ends with
  | answered found ends =>
      rw [ends] at ended
      cases ended
  | stopped unanswered dead ends =>
      rw [ends] at ended
      cases ended
  | expired unanswered alive long ends =>
      have sent : (b.send origin command timeout).1 = (mid.polled k).expire command timeout := by
        rw [send_of_issue issued, ends]
        rfl
      rw [sent]
      refine ⟨k, ?_, (report_ensues _ origin command timeout .expired).rests,
        (Blind.report origin command timeout .expired).clock _, expire_arrived _ _ _, ?_⟩
      · intro j le
        by_cases before : j < k
        · exact ((waits_iff issued).mp (waited j before)).1
        · obtain rfl : j = k := by omega
          subst starts
          rw [← polled_sentries mid j] at unanswered
          exact examine_eq_none_iff.mp unanswered
      · rw [← patience_eq positive timeout]
        have patient : x.patience = patience timeout b.poll := by rw [starts]
        have step := mid.streak_succ_le k
        omega

namespace ExpiresAt

variable {n k : Nat}

theorem le (h : ExpiresAt b mid after command n k) : n ≤ k + 1 := by
  rw [← h.run]
  exact mid.streak_le (k + 1)

theorem silent_iff (h : ExpiresAt b mid after command n k) :
    mid.arrivedSince after = [] ↔ k + 1 = n := by
  have rests := (mid.polled_line k).rests.trans h.reported
  rw [rests.arrivedSince_eq_nil_iff, h.arrived, ← streak_eq_iff_arrived, h.run, eq_comm]

theorem exists_events (h : ExpiresAt b mid after command n k)
    (issued : b.issue origin command timeout = (mid, .ok x)) (le : n ≤ k) :
    ∃ events, after.timeline = b.timeline ++ events ∧
      ∀ e ∈ events, e.2.bytes ≠ [] → e.1 ≤ (mid.polled (k - n)).clock := by
  apply exists_events_by
  · obtain ⟨before, issues⟩ := issue_follows issued
    obtain ⟨waiting, polls⟩ := (mid.polled_line (k - n)).rests.follows
    exact ⟨_, issues.trans polls⟩
  · have polls := ((mid.polled (k - n)).polled_line n).rests
    rw [polled_add, Nat.sub_add_cancel le] at polls
    exact (polls.trans h.reported).follows
  · rw [h.arrived, ← h.run]
    apply arrived_of_streak
    rw [h.run]
    exact le

theorem elapsed (h : ExpiresAt b mid after command n k)
    (issued : b.issue origin command timeout = (mid, .ok x)) :
    after.clock - b.clock = k * b.poll.ceilMillis := by
  obtain ⟨-, start, poll⟩ := issue_starts issued
  rw [h.clock, polled_clock, start, poll, Nat.add_sub_cancel_left]

theorem elapsed_since (h : ExpiresAt b mid after command n k)
    (issued : b.issue origin command timeout = (mid, .ok x)) (le : n ≤ k) {t : Nat}
    (by_then : t ≤ (mid.polled (k - n)).clock) : n * b.poll.ceilMillis ≤ after.clock - t := by
  obtain ⟨-, -, poll⟩ := issue_starts issued
  have run := (mid.polled (k - n)).polled_clock n
  rw [polled_add, Nat.sub_add_cancel le, ← h.clock, polled_poll, poll] at run
  omega

end ExpiresAt

/-- A timeout is reported. If something came behind the write, the timeout has passed since the
write and since every byte. If nothing came, one poll interval less than the checks count has
passed since the write; in whole milliseconds, that is less than the timeout unless it is zero.
No reply is passed over that is complete by then. -/
theorem expired_send_elapsed (positive : 0 < b.poll.nanos)
    (fits : timeout.nanos ⌈/⌉ b.poll.nanos ≤ 2 ^ 32 - 1)
    (issued : b.issue origin command timeout = (mid, .ok x))
    (expired : (b.exchange origin command timeout).2 = .ok .expired)
    (sent : (b.send origin command timeout).1 = after) :
    (mid.arrivedSince after = [] →
      after.clock = b.clock + (quietChecks timeout b.poll - 1) * b.poll.ceilMillis) ∧
    (mid.arrivedSince after ≠ [] →
      timeout.nanos ≤ (after.clock - b.clock) * 1000000 ∧
      ∃ events, after.timeline = b.timeline ++ events ∧
        ∀ e ∈ events, e.2.bytes ≠ [] → timeout.nanos ≤ (after.clock - e.1) * 1000000) ∧
    (∀ p, b.poll = .ofMillis p →
      (timeout.nanos ≤ (after.clock - b.clock) * 1000000 ↔
        timeout.nanos = 0 ∨ mid.arrivedSince after ≠ [])) ∧
    ∀ j < quietChecks timeout b.poll,
      (mid.polled j).anchored? b.inbox.data.length command = none := by
  obtain ⟨k, expires⟩ := exists_expiresAt positive issued expired
  rw [sent] at expires
  have elapsed := expires.elapsed issued
  have le := expires.le
  have silent := expires.silent_iff
  have behind : mid.arrivedSince after ≠ [] → quietChecks timeout b.poll ≤ k := by
    intro news
    have later := mt silent.mpr news
    omega
  have since_write : mid.arrivedSince after ≠ [] →
      timeout.nanos ≤ (after.clock - b.clock) * 1000000 := by
    intro news
    rw [elapsed]
    exact spans_timeout positive fits (behind news)
  refine ⟨?_, ?_, ?_, ?_⟩
  · intro nothing
    obtain ⟨-, start, poll⟩ := issue_starts issued
    rw [← silent.mp nothing, Nat.add_sub_cancel, expires.clock, polled_clock, start, poll]
  · intro news
    refine ⟨since_write news, ?_⟩
    obtain ⟨events, times, early⟩ := expires.exists_events issued (behind news)
    refine ⟨events, times, ?_⟩
    intro e member bytes
    have run := expires.elapsed_since issued (behind news) (early e member bytes)
    apply (spans_timeout positive fits (Nat.le_refl _)).trans
    exact Nat.mul_le_mul_right _ run
  · intro p whole
    by_cases nothing : mid.arrivedSince after = []
    · have first := silent.mp nothing
      have short : (after.clock - b.clock) * 1000000 =
          (quietChecks timeout b.poll - 1) * b.poll.nanos := by
        rw [elapsed, ← first, whole, ceilMillis_ofMillis, Nat.mul_assoc]
        rfl
      rw [short, timeout_le_quietChecks_pred_iff positive]
      simp [nothing]
    · simp [nothing, since_write nothing]
  · intro j before
    exact expires.incomplete j (by omega)

/-- The last byte comes at 25 ms and the timeout of 25 ms is reported at 60 ms. -/
theorem trickling_send_elapsed :
    (tricklingBench.send .script "AT".toList (.ofMillis 25)).1.clock = 60 ∧
      (Duration.ofMillis 25).nanos ≤
        ((tricklingBench.send .script "AT".toList (.ofMillis 25)).1.clock - tricklingBench.clock)
          * 1000000 := by
  have issued : tricklingBench.issue .script "AT".toList (.ofMillis 25) =
      (tricklingWritten, .ok ⟨"AT".toList, 0, 3, 3, 3⟩) := Prod.ext rfl (by decide +kernel)
  obtain ⟨-, news, -, -⟩ := expired_send_elapsed (by decide) (by decide) issued
    (by decide +kernel) rfl
  exact ⟨by decide +kernel, (news (by decide +kernel)).1⟩

def tardyDevice : Device := fun _ w =>
  { Reply.ofData w.data with later := [(15, .data (Utf8.encode "\r\nOK\r\n".toList))] }

def tardyBench : Bench := start tardyDevice Sentry.defaults (.ofMillis 10) .none

/-- A timeout of 20 ms is reported at 10 ms, and so an answer is missed that is complete at
15 ms. -/
theorem tardy_answer_missed :
    (tardyBench.exchange .script "AT".toList (.ofMillis 20)).2 = .ok .expired ∧
      (tardyBench.send .script "AT".toList (.ofMillis 20)).2 = .ok .missing ∧
      (tardyBench.send .script "AT".toList (.ofMillis 20)).1.clock = tardyBench.clock + 10 ∧
      (((tardyBench.send .script "AT".toList (.ofMillis 20)).1.sleep (.ofMillis 5)).anchored?
        tardyBench.inbox.data.length "AT".toList).isSome := by
  decide +kernel

end Bench
end ModemDialog
