import ModemDialog.Proofs.Session.Interruption

/-! Waits and sends on two benches of which one is to be stopped: alike, or the runs part. -/
namespace ModemDialog
namespace Bench

section Waiting

variable {b : Bench} {time wake : Nat} {a : Arrival} {early late : List (Nat × Arrival)}
  {d : Duration}

theorem Doomed.sleep_of_lt (agenda : b.agenda = early ++ late)
    (sorted : (early ++ (time, a) :: late).Pairwise (·.1 ≤ ·.1)) (stops : a.isData = false)
    (later : b.clock + d.ceilMillis < time) :
    Doomed (.waiting time a) (b.sleep d)
      ({ b with agenda := early ++ (time, a) :: late }.sleep d) := by
  obtain ⟨-, behind, -⟩ := List.pairwise_append.mp sorted
  have last := (List.pairwise_cons.mp behind).1
  have rest := settleFrom_agenda_suffix (b.clock + d.ceilMillis) early b
  refine .waiting (settleFrom (b.clock + d.ceilMillis) early b).agenda late ?_ ?_
    (sorted.sublist (rest.sublist.append_right _)) (Nat.le_of_lt later) stops
  · rw [sleep, agenda, settleFrom_append_of_lt fun x member =>
      Nat.lt_of_lt_of_le later (last x member)]
    rfl
  · rw [sleep, sleep, agenda]
    dsimp only
    rw [settleFrom_of_agenda, settleFrom_append_of_lt fun x member =>
      Nat.lt_of_lt_of_le later (last x member), settleFrom_append_of_lt fun x member => ?_]
    · rfl
    · rcases List.mem_cons.mp member with rfl | behind
      · exact later
      · exact Nat.lt_of_lt_of_le later (last x behind)

/-- The interruption falls into a wait: one run goes through it, the other does not. -/
theorem Severed.of_wait {c c' : Bench} (clock : b.clock ≤ time)
    (sorted : (early ++ (time, a) :: late).Pairwise (·.1 ≤ ·.1)) (stops : a.isData = false)
    (due : time ≤ wake) (lives : c.alive = true)
    (waited : Follows (settleFrom wake (early ++ late) b) c [])
    (ends : (receive early b).alive = true →
      Rests ({ receive early b with clock := max (receive early b).clock time }.arrive a) c') :
    Severed (.waiting time a) b c c' none := by
  obtain ⟨-, behind, ahead⟩ := List.pairwise_append.mp sorted
  have sooner : ∀ x ∈ early, x.1 ≤ time := fun x member => ahead x member _ List.mem_cons_self
  rw [settleFrom_append_of_le fun x member => Nat.le_trans (sooner x member) due] at waited
  obtain ⟨rest, settled, later⟩ :=
    settleFrom_behind (List.pairwise_cons.mp behind).1 wake (receive early b)
  have goesOn := settled.trans waited
  rw [List.append_nil] at goesOn
  have before := goesOn.alive lives
  exact .of_arrival sooner clock stops before ⟨rest, goesOn, later⟩ (ends before)

theorem settleFrom_of_due (sorted : (early ++ (time, a) :: late).Pairwise (·.1 ≤ ·.1))
    (due : time ≤ wake) (agenda : List (Nat × Arrival)) :
    settleFrom wake (early ++ (time, a) :: late) { b with agenda } = settleFrom wake late
      ({ receive early b with clock := max (receive early b).clock time }.arrive a) := by
  obtain ⟨-, -, ahead⟩ := List.pairwise_append.mp sorted
  rw [settleFrom_of_agenda, settleFrom_append_of_le fun x member =>
    Nat.le_trans (ahead x member _ List.mem_cons_self) due, settleFrom, if_pos due]

theorem settleAlive_of_due (sorted : (early ++ (time, a) :: late).Pairwise (·.1 ≤ ·.1))
    (due : time ≤ wake) (lives : (receive early b).alive = true)
    (agenda : List (Nat × Arrival)) :
    settleAlive wake (early ++ (time, a) :: late) { b with agenda } = settleAlive wake late
      ({ receive early b with clock := max (receive early b).clock time }.arrive a) := by
  obtain ⟨-, -, ahead⟩ := List.pairwise_append.mp sorted
  have goesOn : ((receive early b).alive && decide (time ≤ wake)) = true := by
    simpa [lives] using due
  rw [settleAlive_of_agenda, settleAlive_append_of_le (fun x member =>
    Nat.le_trans (ahead x member _ List.mem_cons_self) due) lives, settleAlive, if_pos goesOn]

theorem arrive_of_due_clock_le (sorted : (early ++ (time, a) :: late).Pairwise (·.1 ≤ ·.1))
    (due : time ≤ wake) (clock : b.clock ≤ time) :
    ({ receive early b with clock := max (receive early b).clock time }.arrive a).clock ≤ wake := by
  obtain ⟨-, -, ahead⟩ := List.pairwise_append.mp sorted
  have inTime := receive_clock_le (fun x member => ahead x member _ List.mem_cons_self) clock
  rw [arrive_clock]
  exact Nat.max_le.mpr ⟨Nat.le_trans inTime due, due⟩

theorem Doomed.sleep {i : Interruption} {b' : Bench} (h : Doomed i b b')
    (lives : (b.sleep d).alive = true) :
    Doomed i (b.sleep d) (b'.sleep d) ∨
      Severed i b (b.sleep d) (b'.sleep d) none ∧ Passed (b.sleep d) i := by
  cases h with
  | @waiting _ _ time a early late agenda interrupted sorted clock stops =>
      subst interrupted
      rcases Nat.lt_or_ge (b.clock + d.ceilMillis) time with later | due
      · exact .inl (.sleep_of_lt agenda sorted stops later)
      · have inTime := Nat.le_add_right b.clock d.ceilMillis
        refine .inr ⟨.of_wait clock sorted stops due lives ?_ fun alive => ?_, due⟩
        · rw [← agenda]
          exact .of_silent rfl (settleFrom_clock_le b.agenda inTime) rfl rfl
        · unfold Bench.sleep
          dsimp only
          rw [settleFrom_of_due sorted due]
          exact ((settleFrom_line _ late _).trans (setClock_line
            (settleFrom_clock_le late (arrive_of_due_clock_le sorted due clock)))).rests
  | answering device interrupted same writes stops =>
      have kept := Doomed.answering device interrupted same writes stops
      exact .inl (kept.of_device (f := (·.sleep d)) (b.sleep_of_device d) (b.sleep_line d).rests)

theorem Doomed.pause {i : Interruption} {b' : Bench} (h : Doomed i b b')
    (lives : (b.pause d).alive = true) :
    Doomed i (b.pause d) (b'.pause d) ∨
      Severed i b (b.pause d) (b'.pause d) none ∧ Passed (b.pause d) i := by
  cases h with
  | @waiting _ _ time a early late agenda interrupted sorted clock stops =>
      subst interrupted
      have slept := pause_eq_sleep d (.inl lives)
      rw [slept] at lives ⊢
      rcases Nat.lt_or_ge (b.clock + d.ceilMillis) time with later | due
      · have kept := Doomed.sleep_of_lt agenda sorted stops later
        rw [pause_eq_sleep d (.inr (kept.alive.trans lives))]
        exact .inl kept
      · have inTime := Nat.le_add_right b.clock d.ceilMillis
        refine .inr ⟨.of_wait clock sorted stops due lives ?_ fun alive => ?_, due⟩
        · rw [← agenda]
          exact .of_silent rfl (settleFrom_clock_le b.agenda inTime) rfl rfl
        · unfold Bench.pause
          dsimp only
          rw [settleAlive_of_due sorted due alive]
          split
          · exact ((settleAlive_line _ late _).trans (setClock_line
              (settleAlive_clock_le late (arrive_of_due_clock_le sorted due clock)))).rests
          · exact (settleAlive_line _ late _).rests
  | answering device interrupted same writes stops =>
      have kept := Doomed.answering device interrupted same writes stops
      exact .inl (kept.of_device (f := (·.pause d)) (b.pause_of_device d) (b.pause_line d).rests)

theorem Doomed.hold {i : Interruption} {b' : Bench} (h : Doomed i b b')
    (lives : b.hold.alive = true) :
    (∃ index, i = .answering index ∧ Doomed i b.hold b'.hold) ∨
      Severed i b b.hold b'.hold none ∧ b.hold.agenda = [] := by
  cases h with
  | @waiting _ _ time a early late agenda interrupted sorted clock stops =>
      subst interrupted
      have part : (early ++ late).Sublist (early ++ (time, a) :: late) :=
        (List.sublist_cons_self _ _).append_left _
      have held := hold_eq (agenda ▸ sorted.sublist part) lives
      refine .inr ⟨?_, by rw [held]⟩
      obtain ⟨⟨wake, x⟩, ends⟩ : ∃ last, (early ++ (time, a) :: late).getLast? = some last :=
        Option.ne_none_iff_exists'.mp (by simp)
      have inTime := le_last_of_sorted sorted ends
      have due : time ≤ wake := inTime (time, a) (by simp)
      rw [agenda, ← settleFrom_of_all_due fun y member => inTime y (part.subset member)] at held
      refine .of_wait clock sorted stops due lives (held ▸ .refl _) fun alive => ?_
      unfold Bench.hold
      dsimp only
      rw [ends]
      dsimp only
      rw [settleAlive_of_due sorted due alive]
      exact (settleAlive_line _ late _).rests
  | @answering _ _ index device interrupted same writes stops =>
      have kept := Doomed.answering device interrupted same writes stops
      exact .inl ⟨index, rfl, kept.of_device b.hold_of_device b.hold_line.rests⟩

end Waiting

variable {i : Interruption} {b b' : Bench}

theorem Doomed.await (h : Doomed i b b') {x : Exchange} (lives : (b.await x).1.alive = true) :
    Doomed i (b.await x).1 (b'.await x).1 ∧ (b'.await x).2 = (b.await x).2 ∨
      Severed i b (b.await x).1 (b'.await x).1 none ∧ Passed (b.await x).1 i := by
  -- The checks see the same until the sleep before one of them is interrupted.
  fun_induction Bench.await b x generalizing b' with
  | case1 b x taken rest answered =>
      rw [Bench.await, h.check, answered]
      exact .inl ⟨h.blind (.withInbox rest), rfl⟩
  | case2 b x stopped =>
      rw [Bench.await, h.check, stopped]
      exact .inl ⟨h, rfl⟩
  | case3 b x expired =>
      rw [Bench.await, h.check, expired]
      exact .inl ⟨h, rfl⟩
  | case4 b x next waits ih =>
      have later := (await_ensues (b.sleep b.poll) next).rests
      have waits' : b'.await x = (b'.sleep b.poll).await next := by
        rw [Bench.await, h.check, waits, ← h.poll]
      rw [waits']
      rcases h.sleep (later.alive lives) with kept | ⟨severed, passed⟩
      · rcases ih kept lives with same | ⟨severed, passed⟩
        · exact .inl same
        · exact .inr ⟨severed.precede (b.sleep_line b.poll).rests.follows, passed⟩
      · exact .inr ⟨severed.extend passed later.follows (await_ensues _ _).rests,
          passed.mono later.clock⟩

theorem send_fault (b : Bench) (origin : Origin) (command : Text) (timeout : Duration) :
    ∀ f ∈ faultOf (b.send origin command timeout).2, f.command = command := by
  rw [send_eq]
  cases (b.announce origin command).write (wire command) with
  | mk c result =>
      cases result with
      | error cause => exact fun f same => by rw [← Option.some.inj same]
      | ok _ => exact fun f none => by cases none

theorem Doomed.send (h : Doomed i b b') (origin : Origin) (command : Text) (timeout : Duration)
    (lives : (b.send origin command timeout).1.alive = true) :
    Doomed i (b.send origin command timeout).1 (b'.send origin command timeout).1 ∧
        (b'.send origin command timeout).2 = (b.send origin command timeout).2 ∨
      Severed i b (b.send origin command timeout).1 (b'.send origin command timeout).1
          (faultOf (b'.send origin command timeout).2) ∧
        Passed (b.send origin command timeout).1 i := by
  have announced : Doomed i (b.announce origin command) (b'.announce origin command) :=
    h.blind ((Blind.notice _).comp (.record _))
  have ahead := (b.announce_rests origin command).follows
  have behind := (b.send_behind_write origin command timeout).rests
  have behind' := (b'.send_behind_write origin command timeout).rests
  have fault := b'.send_fault origin command timeout
  obtain ⟨events, wrote⟩ := (b.announce origin command).write_follows (wire command)
  rcases announced.write (wrote.alive (behind.alive lives)) (wire command) with
    ⟨kept, same⟩ | ⟨passed, severs⟩
  · rw [send_eq b] at lives
    rw [send_eq b, send_eq b', h.inbox]
    rcases written : (b.announce origin command).write (wire command) with ⟨c, result⟩
    rcases written' : (b'.announce origin command).write (wire command) with ⟨c', result'⟩
    rw [written, written'] at kept same
    rw [written] at lives wrote
    obtain rfl : result' = result := same
    cases result' with
    | error cause => exact .inl ⟨kept, rfl⟩
    | ok done =>
        dsimp only at kept lives ⊢
        rw [kept.poll, kept.inbox]
        have reported (x : Exchange) :=
          (report_ensues (c.await x).1 origin command timeout (c.await x).2).rests
        rcases kept.await ((reported _).alive lives) with ⟨awaited, ending⟩ | ⟨severed, passed⟩
        · rw [ending]
          refine .inl ⟨awaited.blind (.report origin command timeout _), ?_⟩
          rw [(report_spec _ _ _ _ _).1, (report_spec _ _ _ _ _).1]
        · refine .inr ⟨?_, passed.mono (reported _).clock⟩
          have whole := (severed.precede ⟨events, wrote⟩).precede ahead
          exact whole.extend passed (reported _).follows (report_ensues _ _ _ _ _).rests
  · have severed : Severed i (b.announce origin command) _ _ _ :=
      ⟨_, _, _, severs _ fun f failed => congrArg wire (fault f failed)⟩
    exact .inr ⟨(severed.precede ahead).extend passed behind.follows behind',
      passed.mono behind.clock⟩

end Bench
end ModemDialog
