import ModemDialog.Proofs.Session.Settling

/-! Two benches that differ in one thing: on the second the session will be stopped, by the
line at a time to come, or by the device in its answer to a write to come. What is done on
both goes alike until then; from there on no more is written to the second. -/
namespace ModemDialog

/-- How a session is stopped from outside: by what comes from the line at a time, or by the
answer to the write with an index, from 0. -/
inductive Interruption where
  | waiting (time : Nat) (a : Arrival)
  | answering (index : Nat)

def Reply.Stops (r : Reply) : Prop := r.stops = true ∨ r.fails = none ∧ r.loses ≠ none

namespace Bench

/-- The second bench is the first, but for an interruption to come. -/
inductive Doomed : Interruption → Bench → Bench → Prop where
  | waiting {b b' : Bench} {time : Nat} {a : Arrival} (early late : List (Nat × Arrival))
      (agenda : b.agenda = early ++ late)
      (interrupted : b' = { b with agenda := early ++ (time, a) :: late })
      (sorted : (early ++ (time, a) :: late).Pairwise (·.1 ≤ ·.1))
      (clock : b.clock ≤ time) (stops : a.isData = false) : Doomed (.waiting time a) b b'
  | answering {b b' : Bench} {index : Nat} (device : Device)
      (interrupted : b' = { b with device })
      (same : ∀ earlier w, earlier.length < index → device earlier w = b.device earlier w)
      (writes : b.writes.length ≤ index)
      (stops : ∀ earlier w, earlier.length = index → (device earlier w).Stops) :
      Doomed (.answering index) b b'

def Falls (mid : Bench) (moment : Nat) (common : List (Nat × Event)) : Interruption → Prop
  | .waiting time _ => moment = time
  | .answering index => moment = mid.clock ∧ mid.writes.length = index + 1 ∧
      ∃ data, common.getLast? = some (moment, .wrote data)

/-- A time to come is no longer to come. -/
def Passed (b : Bench) : Interruption → Prop
  | .waiting time _ => time ≤ b.clock
  | .answering _ => True

/-- From `b` on, `c` and `c'` have `common` behind them, up to `moment`. From there on one
goes on, and the other is stopped and not written to. A fault is that of the last common
write, which the stop has answered. -/
structure Severs (i : Interruption) (b mid c c' : Bench) (moment : Nat)
    (common : List (Nat × Event)) (fault : Option SendFault) : Prop where
  shared : Follows b mid common
  inTime : mid.clock ≤ moment
  falls : Falls mid moment common i
  goesOn : ∃ rest, Follows mid c rest ∧ ∀ e ∈ rest, moment ≤ e.1
  ends : ∃ after, Follows mid c' after ∧ (moment, .stopped) ∈ after ∧
    ∀ e ∈ after, e.2.passive = true
  failed : ∀ f ∈ fault, (∃ index, i = .answering index) ∧
    common.getLast? = some (moment, .wrote (wire f.command))

def faultOf {α : Type} : Except SendFault α → Option SendFault
  | .error fault => some fault
  | .ok _ => none

/-- Up to some moment all is common to `c` and `c'`. -/
def Severed (i : Interruption) (b c c' : Bench) (fault : Option SendFault) : Prop :=
  ∃ mid moment common, Severs i b mid c c' moment common fault

namespace Severs

variable {i : Interruption} {b mid c c' : Bench} {moment : Nat} {common : List (Nat × Event)}
  {fault : Option SendFault}

theorem moment_le (h : Severs i b mid c c' moment common fault) (passed : Passed c i) :
    moment ≤ c.clock := by
  cases i with
  | waiting time a => exact Nat.le_trans (Nat.le_of_eq h.falls) passed
  | answering index =>
      obtain ⟨rest, follows, -⟩ := h.goesOn
      exact Nat.le_trans (Nat.le_of_eq h.falls.1) follows.clock

theorem dead (h : Severs i b mid c c' moment common fault) : c'.alive = false := by
  obtain ⟨after, follows, stopped, -⟩ := h.ends
  exact follows.dead stopped

theorem precede (h : Severs i b mid c c' moment common fault) {first : Bench}
    {events : List (Nat × Event)} (lead : Follows first b events) :
    Severs i first mid c c' moment (events ++ common) fault where
  shared := lead.trans h.shared
  inTime := h.inTime
  falls := by
    cases i with
    | waiting time a => exact h.falls
    | answering index =>
        obtain ⟨clock, writes, data, last⟩ := h.falls
        exact ⟨clock, writes, data, by rw [List.getLast?_append, last]; rfl⟩
  goesOn := h.goesOn
  ends := h.ends
  failed f failed := by
    obtain ⟨answering, last⟩ := h.failed f failed
    exact ⟨answering, by rw [List.getLast?_append, last]; rfl⟩

theorem extend (h : Severs i b mid c c' moment common fault) (passed : Passed c i) {d d' : Bench}
    {events : List (Nat × Event)} (further : Follows c d events) (rests : Rests c' d') :
    Severs i b mid d d' moment common fault where
  shared := h.shared
  inTime := h.inTime
  falls := h.falls
  goesOn := by
    obtain ⟨rest, follows, behind⟩ := h.goesOn
    refine ⟨_, follows.trans further, fun e member => ?_⟩
    rcases List.mem_append.mp member with early | late
    · exact behind e early
    · exact Nat.le_trans (h.moment_le passed) (further.times e late).1
  ends := by
    obtain ⟨after, follows, stopped, passive⟩ := h.ends
    obtain ⟨more, follows', passive'⟩ := rests
    refine ⟨_, follows.trans follows', List.mem_append_left _ stopped, fun e member => ?_⟩
    rcases List.mem_append.mp member with early | late
    · exact passive e early
    · exact passive' e late
  failed := h.failed

end Severs

namespace Severed

variable {i : Interruption} {b c c' d d' : Bench} {fault : Option SendFault}

theorem extend (h : Severed i b c c' fault) (passed : Passed c i)
    (further : ∃ events, Follows c d events) (rests : Rests c' d') : Severed i b d d' fault := by
  obtain ⟨mid, moment, common, severs⟩ := h
  obtain ⟨events, follows⟩ := further
  exact ⟨mid, moment, common, severs.extend passed follows rests⟩

theorem dead (h : Severed i b c c' fault) : c'.alive = false := by
  obtain ⟨mid, moment, common, severs⟩ := h
  exact severs.dead

theorem precede {first : Bench} (h : Severed i b c c' fault)
    (lead : ∃ events, Follows first b events) : Severed i first c c' fault := by
  obtain ⟨mid, moment, common, severs⟩ := h
  obtain ⟨events, follows⟩ := lead
  exact ⟨mid, moment, _, severs.precede follows⟩

end Severed

theorem Passed.mono {i : Interruption} {b c : Bench} (h : Passed b i) (clock : b.clock ≤ c.clock) :
    Passed c i := by
  cases i with
  | waiting time a => exact Nat.le_trans h clock
  | answering index => trivial

namespace Doomed

variable {i : Interruption} {b b' : Bench}

theorem alive (h : Doomed i b b') : b'.alive = b.alive := by cases h <;> subst b' <;> rfl

theorem clock_le {time : Nat} {a : Arrival} (h : Doomed (.waiting time a) b b') :
    b.clock ≤ time := by
  cases h with
  | waiting early late agenda interrupted sorted clock stops => exact clock

theorem writes_le {index : Nat} (h : Doomed (.answering index) b b') :
    b.writes.length ≤ index := by
  cases h with
  | answering device interrupted same writes stops => exact writes

theorem poll (h : Doomed i b b') : b'.poll = b.poll := by cases h <;> subst b' <;> rfl

theorem inbox (h : Doomed i b b') : b'.inbox = b.inbox := by cases h <;> subst b' <;> rfl

theorem check (h : Doomed i b b') (x : Exchange) :
    x.check b'.sentries b'.inbox b'.alive = x.check b.sentries b.inbox b.alive := by
  cases h <;> subst b' <;> rfl

theorem blind {f : Bench → Bench} (h : Doomed i b b') (blind : Blind f) :
    Doomed i (f b) (f b') := by
  cases h with
  | waiting early late agenda interrupted sorted clock stops =>
      refine .waiting early late ((blind.agenda b).trans agenda) ?_ sorted ?_ stops
      · rw [interrupted]
        exact blind.withAgenda b _
      · rw [blind.clock]
        exact clock
  | answering device interrupted same writes stops =>
      refine .answering device ?_ ?_ ?_ stops
      · rw [interrupted]
        exact blind.withDevice b _
      · rw [blind.device]
        exact same
      · rw [blind.writes]
        exact writes

theorem of_device {index : Nat} (h : Doomed (.answering index) b b') {f : Bench → Bench}
    (commutes : ∀ device, f { b with device } = { f b with device }) (rests : Rests b (f b)) :
    Doomed (.answering index) (f b) (f b') := by
  cases h with
  | answering device interrupted same writes stops =>
      refine .answering device (by rw [interrupted, commutes]) ?_ ?_ stops
      · have kept : f b = { f b with device := b.device } := commutes b.device
        rw [kept]
        exact same
      · rw [rests.writes]
        exact writes

theorem plan (h : Doomed i b b') (delay : Nat) (a : Arrival) :
    Doomed i (b.plan delay a) (b'.plan delay a) := by
  cases h with
  | waiting early late agenda interrupted sorted clock stops =>
      obtain ⟨early', late', one, other⟩ := schedule_apart sorted (b.clock + delay) a
      refine .waiting early' late' ?_ ?_ ?_ clock stops
      · rw [Bench.plan, agenda, one]
      · rw [interrupted, Bench.plan, other]
        rfl
      · rw [← other]
        exact schedule_sorted sorted _ _
  | answering device interrupted same writes stops =>
      exact .answering device (by rw [interrupted]; rfl) same writes stops

theorem plans (h : Doomed i b b') (later : List (Nat × Arrival)) :
    Doomed i (b.plans later) (b'.plans later) := by
  unfold Bench.plans
  induction later generalizing b b' with
  | nil => exact h
  | cons entry rest ih => exact ih (h.plan entry.1 entry.2)

theorem heed (h : Doomed i b b') (reply : Reply) :
    Doomed i (b.heed reply).1 (b'.heed reply).1 ∧ (b'.heed reply).2 = (b.heed reply).2 := by
  obtain ⟨f, blind, ⟨cause, heeds⟩ | heeds⟩ := heed_blind reply b.alive
  · rw [heeds b rfl, heeds b' h.alive]
    exact ⟨h.blind blind, rfl⟩
  · rw [heeds b rfl, heeds b' h.alive]
    exact ⟨(h.blind blind).plans reply.later, rfl⟩

end Doomed

theorem arrive_dead (b : Bench) {a : Arrival} (stops : a.isData = false) :
    (b.arrive a).alive = false := by
  unfold arrive
  split
  · rename_i dead
    simpa using dead
  · cases a with
    | data bytes => cases stops
    | lost cause => exact stop_dead _
    | stop => exact stop_dead _

theorem heed_stop (b : Bench) {reply : Reply} (stops : reply.stops = true) :
    b.heed reply = b.stop.heed reply := by
  have again : b.stop.stop = b.stop := by
    rw [Bench.stop, stop_dead]
    rfl
  unfold heed
  rw [stops, if_pos rfl, if_pos rfl, again]

theorem heed_dead (b : Bench) {reply : Reply} (stops : reply.Stops) :
    (b.heed reply).1.alive = false := by
  refine Bool.eq_false_iff.mpr fun lives => ?_
  rcases stops with stops | ⟨fails, loses⟩
  · rw [b.heed_stop stops] at lives
    have before := (b.stop.heed_line reply).rests.alive lives
    rw [stop_dead] at before
    cases before
  · obtain ⟨cause, lost⟩ := Option.ne_none_iff_exists'.mp loses
    unfold heed at lives
    rw [fails, lost] at lives
    dsimp only at lives
    generalize (if reply.stops then b.stop else b) = c at lives
    split at lives
    · rename_i refused
      rw [lives] at refused
      cases refused
    · have before := (plans_line reply.later _).rests.alive lives
      rw [arrive_dead _ rfl] at before
      cases before

theorem Doomed.write {i : Interruption} {b b' : Bench} (h : Doomed i b b') (lives : b.alive = true)
    (data : Bytes) :
    (Doomed i (b.write data).1 (b'.write data).1 ∧ (b'.write data).2 = (b.write data).2) ∨
      Passed (b.write data).1 i ∧ ∀ fault, (∀ f ∈ fault, wire f.command = data) →
        Severs i b (b.log data) (b.write data).1 (b'.write data).1 b.clock
          [(b.clock, .wrote data)] fault := by
  -- The devices differ from the write on that is waited for, so it is common to both runs, and
  -- what comes of it is not.
  cases h with
  | @waiting _ _ time a early late agenda interrupted sorted clock stops =>
      subst interrupted
      have logged : Doomed (.waiting time a) (b.log data)
          ({ b with agenda := early ++ (time, a) :: late }.log data) :=
        .waiting early late agenda rfl sorted clock stops
      exact .inl (logged.heed _)
  | @answering _ _ index device interrupted same writes stops =>
      subst interrupted
      rw [write_eq, write_eq]
      dsimp only
      rcases Nat.lt_or_eq_of_le writes with before | now
      · have logged : Doomed (.answering index) (b.log data) ({ b with device }.log data) :=
          .answering device rfl same before stops
        rw [same b.writes _ before]
        exact .inl (logged.heed _)
      · refine .inr ⟨trivial, fun fault own => ?_⟩
        obtain ⟨rest, follows, -⟩ :=
          (heed_line (b.log data) (b.device b.writes ⟨b.clock, data⟩)).rests
        obtain ⟨after, follows', passive⟩ :=
          (heed_line ({ b with device }.log data) (device b.writes ⟨b.clock, data⟩)).rests
        have dead := heed_dead ({ b with device }.log data) (stops b.writes ⟨b.clock, data⟩ now)
        obtain ⟨time, stop⟩ := follows'.exists_stop lives dead
        obtain rfl : time = b.clock := Nat.le_antisymm
          (Nat.le_trans (follows'.times _ stop).2 (Nat.le_of_eq (heed_clock _ _)))
          (follows'.times _ stop).1
        refine ⟨b.log_follows data, Nat.le_refl _, ⟨rfl, congrArg Nat.succ now, data, rfl⟩,
          ⟨rest, follows, fun e member => (follows.times e member).1⟩, ⟨after, ?_, stop, passive⟩,
          fun f failed => ⟨⟨index, rfl⟩, by rw [own f failed]; rfl⟩⟩
        exact ⟨follows'.timeline, follows'.clock, follows'.times, follows'.stops, follows'.writes⟩

/-- All that comes before the interruption is common, and it falls while somebody waits. -/
theorem Severed.of_arrival {b c c' : Bench} {time : Nat} {a : Arrival}
    {early : List (Nat × Arrival)} (sooner : ∀ x ∈ early, x.1 ≤ time) (clock : b.clock ≤ time)
    (stops : a.isData = false) (lives : (receive early b).alive = true)
    (goesOn : ∃ rest, Follows (receive early b) c rest ∧ ∀ e ∈ rest, time ≤ e.1)
    (ends : Rests ({ receive early b with clock := max (receive early b).clock time }.arrive a)
      c') : Severed (.waiting time a) b c c' none := by
  have inTime := receive_clock_le sooner clock
  obtain ⟨common, shared, -⟩ := (receive_line early b).rests
  generalize receive early b = mid at *
  have latest : max mid.clock time = time := Nat.max_eq_right inTime
  rw [latest] at ends
  have moved : Follows mid { mid with clock := time } [] := .of_silent rfl inTime rfl rfl
  obtain ⟨events, arrives, passive⟩ := (arrive_line { mid with clock := time } a).rests
  obtain ⟨after, follows, passive'⟩ := ends
  obtain ⟨moment, stop⟩ := arrives.exists_stop lives (arrive_dead _ stops)
  obtain rfl : moment = time := Nat.le_antisymm
    (Nat.le_trans (arrives.times _ stop).2 (Nat.le_of_eq (arrive_clock _ _)))
    (arrives.times _ stop).1
  refine ⟨mid, moment, common, shared, inTime, rfl, goesOn,
    ⟨_, (moved.trans arrives).trans follows, List.mem_append_left _ stop, fun e member => ?_⟩,
    by simp⟩
  rcases List.mem_append.mp member with early | late
  · exact passive e early
  · exact passive' e late

end Bench
end ModemDialog
