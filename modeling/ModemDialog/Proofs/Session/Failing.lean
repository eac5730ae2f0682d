import ModemDialog.Proofs.Session.Idling
import ModemDialog.Proofs.Session.Interruption
import Mathlib.Data.List.Basic

/-! Writes that fail. A write is told from what has happened on the bench: what was written,
and whether the session had been stopped by then, when nobody is left to read an answer. -/
namespace ModemDialog

/-- Why the write that this reply answers fails, if it does; `lives` tells whether the session
was alive until then. -/
def Reply.failure? (lives : Bool) (r : Reply) : Option Text :=
  match r.fails with
  | some cause => some cause
  | none =>
      if (!lives || r.stops) && !r.data.isEmpty then some "loopback reader is gone".toList
      else none

theorem Reply.failure?_of_alive (r : Reply) : r.failure? true = r.refusal? := rfl

namespace Bench

/-- From `before` to `after` the write `w` is made, and no other; `lives` tells whether the
session is alive when it is made. -/
structure Makes (before after : Bench) (w : Write) (lives : Bool) : Prop where
  timeline : ∃ ahead behind,
    after.timeline = before.timeline ++ (ahead ++ (w.time, .wrote w.data) :: behind) ∧
      (∀ e ∈ ahead ++ behind, e.2.written = []) ∧
      lives = (before.alive && !ahead.any (·.2.isStop))
  writes : after.writes = w :: before.writes

def Fails (before after : Bench) (cause : Text) : Prop :=
  ∃ w lives, Makes before after w lives ∧
    (before.device before.writes w).failure? lives = some cause

variable {before mid after : Bench} {w : Write} {lives : Bool}

theorem Follows.alive_eq {events : List (Nat × Event)} (h : Follows before after events) :
    after.alive = (before.alive && !events.any (·.2.isStop)) := by
  have stops := h.stops
  cases stopped : events.any (·.2.isStop) with
  | false =>
      have none : events.countP (·.2.isStop) = 0 := by
        rw [List.countP_eq_zero]
        simpa using stopped
      rw [none, Nat.zero_add] at stops
      revert stops
      cases after.alive <;> cases before.alive <;> simp
  | true =>
      obtain ⟨⟨time, e⟩, member, stop⟩ := List.any_eq_true.mp stopped
      cases e with
      | stopped => simp [h.dead member]
      | _ => cases stop

structure Unwritten (before after : Bench) : Prop where
  follows : ∃ events, Follows before after events ∧ ∀ e ∈ events, e.2.written = []
  device : after.device = before.device
  writes : after.writes = before.writes

namespace Unwritten

theorem of_ensues (h : Ensues before after) : Unwritten before after := by
  obtain ⟨events, follows, passive⟩ := h.rests
  exact ⟨⟨events, follows, fun e member => Event.written_of_passive (passive e member)⟩,
    h.idles.device, h.idles.writes⟩

theorem refl (b : Bench) : Unwritten b b := .of_ensues (.refl b)

theorem trans (h : Unwritten before mid) (k : Unwritten mid after) : Unwritten before after := by
  obtain ⟨events, follows, silent⟩ := h.follows
  obtain ⟨later, follows', silent'⟩ := k.follows
  refine ⟨⟨events ++ later, follows.trans follows', fun e member => ?_⟩,
    k.device.trans h.device, k.writes.trans h.writes⟩
  rcases List.mem_append.mp member with early | late
  · exact silent e early
  · exact silent' e late

theorem notices (ns : List Notice) (b : Bench) : Unwritten b (b.notices ns) := by
  obtain ⟨events, follows, passive⟩ := b.notices_rests ns
  exact ⟨⟨events, follows, fun e member => Event.written_of_passive (passive e member)⟩,
    notices_device ns b, notices_writes ns b⟩

theorem typed (line : Text) (b : Bench) : Unwritten b (b.happen (.typed line)) :=
  ⟨⟨_, b.happen_follows rfl rfl, by simp [Event.written]⟩, rfl, rfl⟩

theorem print (data : Bytes) (b : Bench) : Unwritten b (b.print data) :=
  .of_ensues (b.print_ensues data)

end Unwritten

namespace Makes

theorem unique {w' : Write} {lives' : Bool} (h : Makes before after w lives)
    (k : Makes before after w' lives') : w' = w ∧ lives' = lives := by
  obtain ⟨ahead, behind, timeline, silent, rfl⟩ := h.timeline
  obtain ⟨ahead', behind', timeline', silent', rfl⟩ := k.timeline
  have same : w' = w := (List.cons.inj (k.writes.symm.trans h.writes)).1
  subst same
  have split := List.append_cancel_left (timeline.symm.trans timeline')
  have absent {events : List (Nat × Event)} (silent : ∀ e ∈ events, e.2.written = []) :
      ((w'.time, .wrote w'.data) : Nat × Event) ∉ events := by
    intro member
    cases silent _ member
  obtain ⟨rfl, -, -⟩ := (List.append_cons_inj_of_notMem
    (absent fun e member => silent e (List.mem_append_left _ member))
    (absent fun e member => silent e (List.mem_append_right _ member))).mp split
  exact ⟨rfl, rfl⟩

theorem of_unwritten (h : Unwritten before mid) (k : Makes mid after w lives) :
    Makes before after w lives := by
  obtain ⟨events, follows, silent⟩ := h.follows
  obtain ⟨ahead, behind, timeline, silent', rfl⟩ := k.timeline
  refine ⟨⟨events ++ ahead, behind, ?_, ?_, ?_⟩, by rw [k.writes, h.writes]⟩
  · rw [timeline, follows.timeline]
    simp
  · intro e member
    rw [List.append_assoc] at member
    rcases List.mem_append.mp member with early | late
    · exact silent e early
    · exact silent' e late
  · rw [follows.alive_eq, List.any_append, Bool.not_or, Bool.and_assoc]

end Makes

theorem heed_outcome (b : Bench) (reply : Reply) :
    (b.heed reply).2 = match reply.failure? b.alive with
      | some cause => .error cause
      | none => .ok () := by
  unfold heed Reply.failure?
  cases reply.fails with
  | some cause => rfl
  | none =>
      have stopped : (if reply.stops then b.stop else b).alive =
          (b.alive && !reply.stops) := by
        cases reply.stops with
        | false => simp
        | true =>
            cases alive : b.alive <;> simp [stop, alive]
      dsimp only
      rw [stopped, Bool.not_and, Bool.not_not]
      cases (!b.alive || reply.stops) && !reply.data.isEmpty <;> simp

theorem send_makes (b : Bench) (origin : Origin) (command : Text) (timeout : Duration) :
    Makes b (b.send origin command timeout).1 ⟨b.clock, wire command⟩ b.alive := by
  obtain ⟨ahead, announced, quiet⟩ := b.announce_rests origin command
  obtain ⟨behind, followed, quiet'⟩ := (b.send_ensues origin command timeout).rests
  have logged := (b.announce origin command).log_follows (wire command)
  have same := announced.alive_eq
  rw [announce_alive] at same
  refine ⟨⟨ahead, behind, ?_, ?_, same⟩, (b.send_sends origin command timeout).writes⟩
  · rw [followed.timeline, logged.timeline, announced.timeline, announce_clock]
    simp
  · intro e member
    apply Event.written_of_passive
    rcases List.mem_append.mp member with early | late
    · exact quiet e early
    · exact quiet' e late

/-- Either nothing is written, and then no write fails; or one write is made, and the fault is
the one of that write. -/
def Answers (before after : Bench) (fault? : Option SendFault) : Prop :=
  Unwritten before after ∧ fault? = none ∨
    ∃ w lives command, Makes before after w lives ∧
      fault? = ((before.device before.writes w).failure? lives).map (⟨command, ·⟩)

namespace Answers

variable {fault? : Option SendFault}

theorem of_unwritten (h : Unwritten before mid) (k : Answers mid after fault?) :
    Answers before after fault? := by
  rcases k with ⟨unwritten, fine⟩ | ⟨w, lives, command, makes, fault⟩
  · exact .inl ⟨h.trans unwritten, fine⟩
  · rw [h.device, h.writes] at fault
    exact .inr ⟨w, lives, command, makes.of_unwritten h, fault⟩

theorem fails_iff (h : Answers before after fault?) :
    fault? ≠ none ↔ ∃ cause, Fails before after cause := by
  rcases h with ⟨unwritten, rfl⟩ | ⟨w, lives, command, makes, rfl⟩
  · constructor
    · intro failed
      exact absurd rfl failed
    · rintro ⟨cause, w, lives, makes, -⟩
      have longer := congrArg List.length (makes.writes.symm.trans unwritten.writes)
      simp at longer
  · rw [ne_eq, Option.map_eq_none_iff]
    constructor
    · intro failed
      obtain ⟨cause, refused⟩ := Option.ne_none_iff_exists'.mp failed
      exact ⟨cause, w, lives, makes, refused⟩
    · rintro ⟨cause, w', lives', makes', refused⟩
      obtain ⟨rfl, rfl⟩ := makes.unique makes'
      simp [refused]

end Answers

theorem announced_write_outcome (b : Bench) (origin : Origin) (command : Text) :
    ((b.announce origin command).write (wire command)).2 =
      match (b.device b.writes ⟨b.clock, wire command⟩).failure? b.alive with
      | some cause => .error cause
      | none => .ok () := by
  have recorded := b.announce_idles origin command
  have device : (b.announce origin command).device = b.device := recorded.device
  have writes : (b.announce origin command).writes = b.writes := recorded.writes
  have lives : ((b.announce origin command).log (wire command)).alive = b.alive :=
    b.announce_alive origin command
  rw [write_eq, heed_outcome, device, writes, announce_clock, lives]

theorem faultOf_send (b : Bench) (origin : Origin) (command : Text) (timeout : Duration) :
    faultOf (b.send origin command timeout).2 =
      ((b.device b.writes ⟨b.clock, wire command⟩).failure? b.alive).map (⟨command, ·⟩) := by
  have outcome := b.announced_write_outcome origin command
  rw [send_eq]
  generalize ((b.announce origin command).write (wire command)) = wrote at outcome ⊢
  obtain ⟨c, result⟩ := wrote
  obtain rfl : result = _ := outcome
  cases (b.device b.writes ⟨b.clock, wire command⟩).failure? b.alive <;> rfl

theorem send_answers (b : Bench) (origin : Origin) (command : Text) (timeout : Duration) :
    Answers b (b.send origin command timeout).1 (faultOf (b.send origin command timeout).2) :=
  .inr ⟨_, _, command, b.send_makes origin command timeout, b.faultOf_send origin command timeout⟩

end Bench
end ModemDialog
