import ModemDialog.Proofs.Session.Written

/-! How a bench goes on in time: what happens on it bears the time of its clock, which never
goes back, and it is stopped once at most. Nothing is written but by a send, which writes
once, and before the line can do anything about it. -/
namespace ModemDialog
namespace Event

def passive : Event → Bool
  | .wrote _ | .typed _ => false
  | _ => true

theorem passive_of_incidental {e : Event} (incidental : e.incidental = true) :
    e.passive = true := by
  cases e with
  | wrote data => cases incidental
  | typed line => cases incidental
  | _ => rfl

theorem written_of_passive {e : Event} (passive : e.passive = true) : e.written = [] := by
  cases e with
  | wrote data => cases passive
  | _ => rfl

theorem ne_typed_of_passive {e : Event} (passive : e.passive = true) (line : Text) :
    e ≠ .typed line := by
  rintro rfl
  cases passive

end Event

namespace Bench

def timeline (b : Bench) : List (Nat × Event) := b.trace.reverse

theorem history_eq (b : Bench) : b.history = b.timeline.map Prod.snd := by
  rw [history, timeline, List.map_reverse]

/-- From `before` to `after` exactly `events` happened, each at its time. -/
structure Follows (before after : Bench) (events : List (Nat × Event)) : Prop where
  timeline : after.timeline = before.timeline ++ events
  clock : before.clock ≤ after.clock
  times : ∀ e ∈ events, before.clock ≤ e.1 ∧ e.1 ≤ after.clock
  stops : events.countP (·.2.isStop) + after.alive.toNat = before.alive.toNat
  writes : after.writes.length = before.writes.length + (events.flatMap (·.2.written)).length

namespace Follows

variable {before mid after : Bench} {events later : List (Nat × Event)}

theorem refl (b : Bench) : Follows b b [] := by
  constructor <;> simp

theorem trans (h : Follows before mid events) (k : Follows mid after later) :
    Follows before after (events ++ later) where
  timeline := by rw [k.timeline, h.timeline, List.append_assoc]
  clock := Nat.le_trans h.clock k.clock
  times := by
    intro e member
    rcases List.mem_append.mp member with early | late
    · exact ⟨(h.times e early).1, Nat.le_trans (h.times e early).2 k.clock⟩
    · exact ⟨Nat.le_trans h.clock (k.times e late).1, (k.times e late).2⟩
  stops := by
    rw [List.countP_append, Nat.add_assoc, k.stops, h.stops]
  writes := by
    rw [k.writes, h.writes, List.flatMap_append, List.length_append, Nat.add_assoc]

theorem of_silent (trace : after.trace = before.trace) (clock : before.clock ≤ after.clock)
    (alive : after.alive = before.alive) (writes : after.writes = before.writes) :
    Follows before after [] := by
  refine ⟨?_, clock, by simp, by simp [alive], by simp [writes]⟩
  rw [Bench.timeline, trace, List.append_nil]
  rfl

theorem history (h : Follows before after events) :
    after.history = before.history ++ events.map Prod.snd := by
  rw [history_eq, history_eq, h.timeline, List.map_append]

theorem alive (h : Follows before after events) (alive : after.alive = true) :
    before.alive = true := by
  have stops := h.stops
  rw [alive] at stops
  cases dead : before.alive with
  | true => rfl
  | false => simp [dead] at stops

theorem dead (h : Follows before after events) {time : Nat} (stopped : (time, .stopped) ∈ events) :
    after.alive = false := by
  have some : 0 < events.countP (·.2.isStop) := List.countP_pos_iff.mpr ⟨_, stopped, rfl⟩
  have stops := h.stops
  have atMost := before.alive.toNat_le
  cases alive : after.alive with
  | false => rfl
  | true =>
      rw [alive, Bool.toNat_true] at stops
      omega

theorem exists_stop (h : Follows before after events) (lives : before.alive = true)
    (dead : after.alive = false) : ∃ time, (time, .stopped) ∈ events := by
  have stops := h.stops
  rw [lives, dead] at stops
  have some : 0 < events.countP (·.2.isStop) := Nat.lt_of_lt_of_eq Nat.one_pos stops.symm
  obtain ⟨⟨time, e⟩, member, stop⟩ := List.countP_pos_iff.mp some
  cases e with
  | stopped => exact ⟨time, member⟩
  | _ => cases stop

theorem unstopped (h : Follows before after events) (alive : after.alive = before.alive) :
    ∀ e ∈ events, e.2.isStop = false := by
  have stops := h.stops
  rw [alive] at stops
  intro e member
  have none : events.countP (·.2.isStop) = 0 := by omega
  simpa using List.countP_eq_zero.mp none e member

end Follows

def Rests (before after : Bench) : Prop :=
  ∃ events, Follows before after events ∧ ∀ e ∈ events, e.2.passive = true

namespace Rests

variable {before mid after : Bench}

theorem refl (b : Bench) : Rests b b := ⟨[], .refl b, by simp⟩

theorem trans (h : Rests before mid) (k : Rests mid after) : Rests before after := by
  obtain ⟨events, follows, passive⟩ := h
  obtain ⟨later, follows', passive'⟩ := k
  refine ⟨events ++ later, follows.trans follows', fun e member => ?_⟩
  rcases List.mem_append.mp member with early | late
  · exact passive e early
  · exact passive' e late

theorem follows (h : Rests before after) : ∃ events, Follows before after events := by
  obtain ⟨events, follows, -⟩ := h
  exact ⟨events, follows⟩

theorem clock (h : Rests before after) : before.clock ≤ after.clock := by
  obtain ⟨events, follows⟩ := h.follows
  exact follows.clock

theorem alive (h : Rests before after) (alive : after.alive = true) : before.alive = true := by
  obtain ⟨events, follows, -⟩ := h
  exact follows.alive alive

theorem writes (h : Rests before after) : after.writes.length = before.writes.length := by
  obtain ⟨events, follows, passive⟩ := h
  have silent : events.flatMap (·.2.written) = [] :=
    List.flatMap_eq_nil_iff.mpr fun e member => Event.written_of_passive (passive e member)
  rw [follows.writes, silent]
  rfl

theorem of_silent (trace : after.trace = before.trace) (clock : before.clock ≤ after.clock)
    (alive : after.alive = before.alive) (writes : after.writes = before.writes) :
    Rests before after :=
  ⟨[], .of_silent trace clock alive writes, by simp⟩

instance : Std.Refl Rests := ⟨refl⟩

instance : IsTrans Bench Rests := ⟨fun _ _ _ => trans⟩

end Rests

theorem happen_follows (b : Bench) {e : Event} (lives : e.isStop = false)
    (silent : e.written = []) : Follows b (b.happen e) [(b.clock, e)] := by
  constructor <;> simp [happen, timeline, lives, silent]

theorem happen_rests (b : Bench) {e : Event} (lives : e.isStop = false)
    (passive : e.passive = true) : Rests b (b.happen e) :=
  ⟨_, b.happen_follows lives (Event.written_of_passive passive), by simpa using passive⟩

theorem notice_rests (b : Bench) (n : Notice) : Rests b (b.notice n) := b.happen_rests rfl rfl

theorem notices_rests (ns : List Notice) (b : Bench) : Rests b (b.notices ns) := by
  unfold notices
  induction ns generalizing b with
  | nil => exact .refl b
  | cons n rest ih => exact (b.notice_rests n).trans (ih _)

theorem print_rests (b : Bench) (data : Bytes) : Rests b (b.print data) := b.happen_rests rfl rfl

theorem stop_follows {b : Bench} (alive : b.alive = true) :
    Follows b b.stop [(b.clock, .stopped)] := by
  rw [stop, if_pos alive]
  constructor <;> simp [happen, timeline, Event.isStop, Event.written, alive]

theorem LineStep.rests {before after : Bench} (h : LineStep before after) :
    Rests before after := by
  cases h with
  | wait agenda later => exact .of_silent rfl later rfl rfl
  | bring data =>
      exact (before.happen_rests (e := .arrived data) rfl rfl).trans
        (.of_silent rfl (Nat.le_refl _) rfl rfl)
  | lose cause => exact before.notice_rests _
  | stop alive =>
      have stopped := stop_follows alive
      rw [Bench.stop, if_pos alive] at stopped
      exact ⟨_, stopped, by simp [Event.passive]⟩

theorem Incident.rests {before after : Bench} (h : Incident before after) :
    Rests before after := by
  cases h with
  | line one => exact one.rests
  | event incidental lives =>
      exact before.happen_rests lives (Event.passive_of_incidental incidental)
  | keep inbox sink => exact .of_silent rfl (Nat.le_refl _) rfl rfl

theorem Ensues.rests {before after : Bench} (h : Ensues before after) : Rests before after :=
  Relation.reflTransGen_le_of_le (r := Rests) (fun _ _ => Incident.rests) _ _ h

theorem Line.rests {before after : Bench} (h : Line before after) : Rests before after :=
  h.ensues.rests

/-- A bench on which `data` has been put on the wire, and nothing has come of it yet. -/
def log (b : Bench) (data : Bytes) : Bench :=
  { b.happen (.wrote data) with writes := ⟨b.clock, data⟩ :: b.writes }

theorem write_eq (b : Bench) (data : Bytes) :
    b.write data = (b.log data).heed (b.device b.writes ⟨b.clock, data⟩) := rfl

theorem write_line (b : Bench) (data : Bytes) : Line (b.log data) (b.write data).1 :=
  heed_line _ _

theorem log_follows (b : Bench) (data : Bytes) :
    Follows b (b.log data) [(b.clock, .wrote data)] := by
  constructor <;> simp [log, happen, timeline, Event.isStop, Event.written]

theorem write_follows (b : Bench) (data : Bytes) :
    ∃ events, Follows b (b.write data).1 events := by
  obtain ⟨events, follows⟩ := (b.write_line data).rests.follows
  exact ⟨_, (b.log_follows data).trans follows⟩

def announce (b : Bench) (origin : Origin) (command : Text) : Bench :=
  (b.notice (.sending origin command)).record (.moved origin .outward (wire command))

theorem announce_rests (b : Bench) (origin : Origin) (command : Text) :
    Rests b (b.announce origin command) :=
  (b.notice_rests _).trans (record_ensues _ _).rests

theorem announce_alive (b : Bench) (origin : Origin) (command : Text) :
    (b.announce origin command).alive = b.alive := by
  unfold announce record
  split <;> rfl

theorem send_eq (b : Bench) (origin : Origin) (command : Text) (timeout : Duration) :
    b.send origin command timeout =
      match (b.announce origin command).write (wire command) with
      | (c, .error cause) => (c, .error ⟨command, cause⟩)
      | (c, .ok ()) =>
          let x : Exchange := ⟨command, b.inbox.data.length, patience timeout c.poll,
            patience timeout c.poll, c.inbox.received⟩
          (((c.await x).1.report origin command timeout (c.await x).2).1,
            .ok (((c.await x).1.report origin command timeout (c.await x).2).2)) := by
  unfold send exchange issue announce
  dsimp only
  cases ((b.notice (.sending origin command)).record
    (.moved origin .outward (wire command))).write (wire command) with
  | mk c result => cases result <;> rfl

theorem send_behind_write (b : Bench) (origin : Origin) (command : Text) (timeout : Duration) :
    Ensues ((b.announce origin command).write (wire command)).1
      (b.send origin command timeout).1 := by
  rw [send_eq]
  cases (b.announce origin command).write (wire command) with
  | mk c result =>
      cases result with
      | error cause => exact .refl c
      | ok _ => exact (await_ensues _ _).trans (report_ensues _ _ _ _ _)

theorem send_ensues (b : Bench) (origin : Origin) (command : Text) (timeout : Duration) :
    Ensues ((b.announce origin command).log (wire command)) (b.send origin command timeout).1 :=
  (write_line _ _).ensues.trans (b.send_behind_write origin command timeout)

/-- Nothing is typed; `writes` are written, all of them while the session has not been
stopped. -/
def Orderly (before after : Bench) (writes : List Bytes) : Prop :=
  ∃ ahead behind, Follows before after (ahead ++ behind) ∧
    (∀ e ∈ ahead, e.2.isStop = false ∧ ∀ line, e.2 ≠ .typed line) ∧
    (∀ e ∈ behind, e.2.passive = true) ∧ ahead.flatMap (·.2.written) = writes

namespace Orderly

variable {before mid after : Bench} {writes : List Bytes}

theorem of_rests (h : Rests before after) : Orderly before after [] := by
  obtain ⟨events, follows, passive⟩ := h
  exact ⟨[], events, follows, by simp, passive, rfl⟩

theorem follows (h : Orderly before after writes) : ∃ events, Follows before after events := by
  obtain ⟨ahead, behind, follows, -⟩ := h
  exact ⟨_, follows⟩

theorem rests (h : Orderly before mid writes) (k : Rests mid after) :
    Orderly before after writes := by
  obtain ⟨ahead, behind, follows, unstopped, passive, wrote⟩ := h
  obtain ⟨events, later, passive'⟩ := k
  refine ⟨ahead, behind ++ events, ?_, unstopped, fun e member => ?_, wrote⟩
  · rw [← List.append_assoc]
    exact follows.trans later
  · rcases List.mem_append.mp member with early | late
    · exact passive e early
    · exact passive' e late

theorem of_alive (h : Rests before mid) (alive : mid.alive = before.alive)
    (k : Orderly mid after writes) : Orderly before after writes := by
  obtain ⟨events, follows, passive⟩ := h
  obtain ⟨ahead, behind, later, unstopped, passive', wrote⟩ := k
  refine ⟨events ++ ahead, behind, ?_, fun e member => ?_, passive', ?_⟩
  · rw [List.append_assoc]
    exact follows.trans later
  · rcases List.mem_append.mp member with early | late
    · exact ⟨follows.unstopped alive e early, Event.ne_typed_of_passive (passive e early)⟩
    · exact unstopped e late
  · have silent : events.flatMap (·.2.written) = [] :=
      List.flatMap_eq_nil_iff.mpr fun e member => Event.written_of_passive (passive e member)
    rw [List.flatMap_append, silent, wrote, List.nil_append]

end Orderly

theorem notices_eq (ns : List Notice) (b : Bench) :
    b.notices ns =
      { b with trace := (ns.map fun n => (b.clock, .noticed n)).reverse ++ b.trace } := by
  unfold notices
  induction ns generalizing b with
  | nil => rfl
  | cons n rest ih =>
      rw [List.foldl_cons, ih]
      simp [notice, happen]

@[simp] theorem notices_device (ns : List Notice) (b : Bench) :
    (b.notices ns).device = b.device := by
  rw [notices_eq]

@[simp] theorem notices_writes (ns : List Notice) (b : Bench) :
    (b.notices ns).writes = b.writes := by
  rw [notices_eq]

theorem notices_history (ns : List Notice) (b : Bench) :
    (b.notices ns).history = b.history ++ ns.map .noticed := by
  rw [notices_eq]
  simp [history, Function.comp_def]

theorem notices_alive (ns : List Notice) (b : Bench) : (b.notices ns).alive = b.alive := by
  rw [notices_eq]

theorem log_orderly (b : Bench) (data : Bytes) : Orderly b (b.log data) [data] :=
  ⟨[(b.clock, .wrote data)], [], b.log_follows data, by simp [Event.isStop], by simp, rfl⟩

theorem send_orderly (b : Bench) (origin : Origin) (command : Text) (timeout : Duration) :
    Orderly b (b.send origin command timeout).1 [wire command] :=
  .of_alive (b.announce_rests origin command) (b.announce_alive origin command)
    ((log_orderly _ (wire command)).rests (b.send_ensues origin command timeout).rests)

end Bench
end ModemDialog
