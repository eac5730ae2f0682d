import ModemDialog.Proofs.Session.Accounting

/-! A bench that nothing stops: its device takes every write, and only data comes from
the line. Whatever is done on it, it stays so, and every send on it ends. -/
namespace ModemDialog

def Arrival.isData : Arrival → Bool
  | .data _ => true
  | _ => false

/-- The write succeeds, and all that comes of it is data. -/
structure Reply.Steady (r : Reply) : Prop where
  stops : r.stops = false
  fails : r.fails = none
  loses : r.loses = none
  later : ∀ entry ∈ r.later, entry.2.isData = true

def Device.Steady (device : Device) : Prop := ∀ earlier w, (device earlier w).Steady

/-- What an operator does between the runs of a script, and what the line may bring
meanwhile. -/
def Act.ofOperator : Act → Bool
  | .send .operator .. | .wait _ | .print _ => true
  | .arrive a | .plan _ a => a.isData
  | _ => false

namespace Bench

structure Calm (b : Bench) : Prop where
  device : b.device.Steady
  alive : b.alive = true
  agenda : ∀ entry ∈ b.agenda, entry.2.isData = true

theorem mem_schedule {time : Nat} {a : Arrival} {agenda : List (Nat × Arrival)}
    {entry : Nat × Arrival} (member : entry ∈ schedule time a agenda) :
    entry = (time, a) ∨ entry ∈ agenda := by
  induction agenda with
  | nil => exact .inl (List.mem_singleton.mp member)
  | cons first rest ih =>
      obtain ⟨t, x⟩ := first
      unfold schedule at member
      split at member
      · exact List.mem_cons.mp member
      · rcases List.mem_cons.mp member with here | behind
        · exact .inr (List.mem_cons.mpr (.inl here))
        · exact (ih behind).imp id (List.mem_cons_of_mem _)

namespace Calm

variable {b : Bench}

theorem start {device : Device} (steady : device.Steady) (sentries : List Sentry)
    (poll : Duration) (sink : Sink) : (start device sentries poll sink).Calm :=
  ⟨steady, rfl, by simp [Bench.start]⟩

theorem happen (h : b.Calm) (e : Event) : (b.happen e).Calm := ⟨h.device, h.alive, h.agenda⟩

theorem notice (h : b.Calm) (n : Notice) : (b.notice n).Calm := h.happen _

theorem print (h : b.Calm) (data : Bytes) : (b.print data).Calm := h.happen _

theorem record (h : b.Calm) (entry : Transcript.Entry) : (b.record entry).Calm := by
  unfold Bench.record
  split
  · exact h
  · exact h.happen _
  · exact h.notice _
  · exact ⟨h.device, h.alive, h.agenda⟩

theorem arrive (h : b.Calm) {a : Arrival} (data : a.isData = true) : (b.arrive a).Calm := by
  cases a with
  | data bytes =>
      rw [Bench.arrive, h.alive]
      exact ⟨h.device, h.alive, h.agenda⟩
  | lost cause => cases data
  | stop => cases data

theorem settleFrom (h : b.Calm) (time : Nat) {agenda : List (Nat × Arrival)}
    (data : ∀ entry ∈ agenda, entry.2.isData = true) : (settleFrom time agenda b).Calm := by
  induction agenda generalizing b with
  | nil => exact ⟨h.device, h.alive, data⟩
  | cons entry rest ih =>
      obtain ⟨t, a⟩ := entry
      have ⟨first, behind⟩ := List.forall_mem_cons.mp data
      unfold Bench.settleFrom
      split
      · have moved : Calm { b with clock := max b.clock t } := ⟨h.device, h.alive, h.agenda⟩
        exact ih (moved.arrive first) behind
      · exact ⟨h.device, h.alive, data⟩

theorem sleep (h : b.Calm) (d : Duration) : (b.sleep d).Calm := by
  have settled := h.settleFrom (b.clock + d.ceilMillis) h.agenda
  exact ⟨settled.device, settled.alive, settled.agenda⟩

theorem settleAlive (h : b.Calm) (time : Nat) {agenda : List (Nat × Arrival)}
    (data : ∀ entry ∈ agenda, entry.2.isData = true) : (settleAlive time agenda b).Calm := by
  induction agenda generalizing b with
  | nil => exact ⟨h.device, h.alive, data⟩
  | cons entry rest ih =>
      obtain ⟨t, a⟩ := entry
      have ⟨first, behind⟩ := List.forall_mem_cons.mp data
      unfold Bench.settleAlive
      split
      · have moved : Calm { b with clock := max b.clock t } := ⟨h.device, h.alive, h.agenda⟩
        exact ih (moved.arrive first) behind
      · exact ⟨h.device, h.alive, data⟩

theorem pause (h : b.Calm) (d : Duration) : (b.pause d).Calm := by
  have settled := h.settleAlive (b.clock + d.ceilMillis) h.agenda
  unfold Bench.pause
  dsimp only
  split
  · exact ⟨settled.device, settled.alive, settled.agenda⟩
  · exact settled

theorem plan (h : b.Calm) (delay : Nat) {a : Arrival} (data : a.isData = true) :
    (b.plan delay a).Calm := by
  refine ⟨h.device, h.alive, fun entry member => ?_⟩
  rcases mem_schedule member with rfl | waiting
  · exact data
  · exact h.agenda entry waiting

theorem plans (h : b.Calm) {later : List (Nat × Arrival)}
    (data : ∀ entry ∈ later, entry.2.isData = true) : (b.plans later).Calm := by
  unfold Bench.plans
  induction later generalizing b with
  | nil => exact h
  | cons entry rest ih =>
      have ⟨first, behind⟩ := List.forall_mem_cons.mp data
      exact ih (h.plan entry.1 first) behind

theorem heed (h : b.Calm) {reply : Reply} (steady : reply.Steady) :
    (b.heed reply).1.Calm ∧ (b.heed reply).2 = .ok () := by
  simp only [Bench.heed, steady.stops, steady.fails, steady.loses, h.alive, Bool.not_true,
    Bool.false_and, Bool.false_eq_true, if_false, and_true]
  split
  · exact h.plans steady.later
  · exact (h.arrive rfl).plans steady.later

theorem write (h : b.Calm) (data : Bytes) :
    (b.write data).1.Calm ∧ (b.write data).2 = .ok () := by
  have logged : Calm { b.happen (.wrote data) with writes := ⟨b.clock, data⟩ :: b.writes } :=
    ⟨h.device, h.alive, h.agenda⟩
  exact logged.heed (h.device b.writes ⟨b.clock, data⟩)

theorem await (h : b.Calm) (x : Exchange) : (b.await x).1.Calm := by
  fun_induction Bench.await b x with
  | case1 b x taken rest answered => exact ⟨h.device, h.alive, h.agenda⟩
  | case2 b x stopped => exact h
  | case3 b x expired => exact h
  | case4 b x next waits ih => exact ih (h.sleep b.poll)

theorem report (h : b.Calm) (origin : Origin) (command : Text) (timeout : Duration)
    (ending : Exchange.Ending) : (b.report origin command timeout ending).1.Calm := by
  cases ending with
  | answered taken =>
      have surfaced : (b.surface origin command taken.stray).Calm := by
        unfold surface
        split
        · exact h
        · exact (((h.notice _).record _).print _).print _
      exact ((surfaced.record _).print _).print _
  | stopped => exact h.notice _
  | expired => exact ((h.notice _).record _).print _

theorem issue (h : b.Calm) (origin : Origin) (command : Text) (timeout : Duration) :
    (b.issue origin command timeout).1.Calm ∧
      ∃ x, (b.issue origin command timeout).2 = .ok x := by
  have written := ((h.notice (.sending origin command)).record
    (.moved origin .outward (wire command))).write (wire command)
  unfold Bench.issue
  cases wrote : ((b.notice (.sending origin command)).record
      (.moved origin .outward (wire command))).write (wire command) with
  | mk mid result =>
      rw [wrote] at written
      obtain rfl : result = .ok () := written.2
      simp only [wrote]
      exact ⟨written.1, _, rfl⟩

theorem send (h : b.Calm) (origin : Origin) (command : Text) (timeout : Duration) :
    (b.send origin command timeout).1.Calm ∧
      ∃ response, (b.send origin command timeout).2 = .ok response := by
  obtain ⟨calm, x, issued⟩ := h.issue origin command timeout
  have reported := (calm.await x).report origin command timeout
  unfold Bench.send exchange
  cases ready : b.issue origin command timeout with
  | mk mid result =>
      rw [ready] at issued reported
      obtain rfl : result = .ok x := issued
      exact ⟨reported _, _, rfl⟩

theorem perform (h : b.Calm) {act : Act} (own : act.ofOperator = true) :
    (b.perform act).Calm := by
  cases act with
  | send origin command timeout => exact (h.send origin command timeout).1
  | wait d => exact h.sleep d
  | arrive a => exact h.arrive own
  | plan delay a => exact h.plan delay own
  | print data => exact h.print data

theorem session (h : b.Calm) {acts : List Act} (own : ∀ act ∈ acts, act.ofOperator = true) :
    (b.session acts).Calm := by
  induction acts generalizing b with
  | nil => exact h
  | cons act acts ih =>
      have ⟨first, others⟩ := List.forall_mem_cons.mp own
      exact ih (h.perform first) others

end Calm
end Bench
end ModemDialog
