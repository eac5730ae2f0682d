import ModemDialog.Proofs.Session.Timeline

/-! What a session does of itself, between the commands it is given: it waits, hears the line
and reports. None of this announces or writes a command, reads a script or asks the operator, so
each of these shows in the history as what it is. -/
namespace ModemDialog

/-- Why the write that this reply answers fails, if the session was alive until then. -/
def Reply.refusal? (r : Reply) : Option Text :=
  match r.fails with
  | some cause => some cause
  | none =>
      if r.stops && !r.data.isEmpty then some "loopback reader is gone".toList else none

namespace Bench

structure Idles (before after : Bench) : Prop where
  history : ∃ events, after.history = before.history ++ events ∧
    ∀ e ∈ events, e.incidental = true
  device : after.device = before.device
  writes : after.writes = before.writes

namespace Idles

variable {before mid after : Bench}

theorem of_silent (trace : after.trace = before.trace) (device : after.device = before.device)
    (writes : after.writes = before.writes) : Idles before after := by
  refine ⟨⟨[], ?_, by simp⟩, device, writes⟩
  rw [Bench.history, trace, List.append_nil]
  rfl

theorem refl (b : Bench) : Idles b b := .of_silent rfl rfl rfl

theorem trans (h : Idles before mid) (k : Idles mid after) : Idles before after := by
  obtain ⟨events, history, incidental⟩ := h.history
  obtain ⟨later, history', incidental'⟩ := k.history
  refine ⟨⟨events ++ later, ?_, fun e member => ?_⟩, k.device.trans h.device,
    k.writes.trans h.writes⟩
  · rw [history', history, List.append_assoc]
  · rcases List.mem_append.mp member with early | late
    · exact incidental e early
    · exact incidental' e late

theorem happen (b : Bench) {e : Event} (incidental : e.incidental = true) :
    Idles b (b.happen e) :=
  ⟨⟨[e], by simp [Bench.happen, Bench.history], by simpa using incidental⟩, rfl, rfl⟩

instance : Std.Refl Idles := ⟨refl⟩

instance : IsTrans Bench Idles := ⟨fun _ _ _ => trans⟩

end Idles

theorem LineStep.idles {before after : Bench} (h : LineStep before after) :
    Idles before after := by
  cases h with
  | wait agenda later => exact .of_silent rfl rfl rfl
  | bring data =>
      exact (Idles.happen before (e := .arrived data) rfl).trans (.of_silent rfl rfl rfl)
  | lose cause => exact .happen before rfl
  | stop alive => exact (Idles.happen before (e := .stopped) rfl).trans (.of_silent rfl rfl rfl)

theorem Incident.idles {before after : Bench} (h : Incident before after) :
    Idles before after := by
  cases h with
  | line one => exact one.idles
  | event incidental lives => exact .happen before incidental
  | keep inbox sink => exact .of_silent rfl rfl rfl

theorem Ensues.idles {before after : Bench} (h : Ensues before after) : Idles before after :=
  Relation.reflTransGen_le_of_le (r := Idles) (fun _ _ => Incident.idles) _ _ h

theorem Line.idles {before after : Bench} (h : Line before after) : Idles before after :=
  h.ensues.idles

/-- All that a send announces is its command, and all that it writes. -/
structure Sends (before after : Bench) (origin : Origin) (command : Text) : Prop where
  history : ∃ ahead behind, after.history = before.history ++
      (.noticed (.sending origin command) :: ahead ++ .wrote (wire command) :: behind) ∧
    (∀ e ∈ ahead, e.incidental = true) ∧ ∀ e ∈ behind, e.incidental = true
  device : after.device = before.device
  writes : after.writes = ⟨before.clock, wire command⟩ :: before.writes

theorem announce_idles (b : Bench) (origin : Origin) (command : Text) :
    Idles (b.notice (.sending origin command)) (b.announce origin command) :=
  (record_ensues _ _).idles

theorem announce_clock (b : Bench) (origin : Origin) (command : Text) :
    (b.announce origin command).clock = b.clock := by
  unfold announce record
  split <;> rfl

theorem send_sends (b : Bench) (origin : Origin) (command : Text) (timeout : Duration) :
    Sends b (b.send origin command timeout).1 origin command := by
  have recorded := b.announce_idles origin command
  have heeded := (b.send_ensues origin command timeout).idles
  obtain ⟨ahead, announced, before⟩ := recorded.history
  obtain ⟨behind, followed, after⟩ := heeded.history
  refine ⟨⟨ahead, behind, ?_, before, after⟩, heeded.device.trans recorded.device, ?_⟩
  · have logged : ((b.announce origin command).log (wire command)).history =
        (b.announce origin command).history ++ [.wrote (wire command)] := by
      simp [log, happen, history]
    have noticed : (b.notice (.sending origin command)).history =
        b.history ++ [.noticed (.sending origin command)] := by
      simp [notice, happen, history]
    rw [followed, logged, announced, noticed]
    simp
  · rw [heeded.writes]
    show ⟨(b.announce origin command).clock, wire command⟩ ::
      (b.announce origin command).writes = _
    rw [announce_clock]
    exact congrArg _ recorded.writes

end Bench
end ModemDialog
