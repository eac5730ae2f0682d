import ModemDialog.Proofs.Session.Timeline

/-! What is done on a bench without regard to its agenda or its device. -/
namespace ModemDialog
namespace Bench

/-- `f` leaves the agenda, the device, the clock and the writes as they are, and does not
depend on the first two. -/
structure Blind (f : Bench → Bench) : Prop where
  commutes : ∀ b agenda device, f { b with agenda, device } = { f b with agenda, device }
  clock : ∀ b, (f b).clock = b.clock
  writes : ∀ b, (f b).writes = b.writes

namespace Blind

variable {f g : Bench → Bench}

theorem agenda (h : Blind f) (b : Bench) : (f b).agenda = b.agenda := by
  have same : f b = { f b with agenda := b.agenda, device := b.device } := h.commutes b _ _
  rw [same]

theorem device (h : Blind f) (b : Bench) : (f b).device = b.device := by
  have same : f b = { f b with agenda := b.agenda, device := b.device } := h.commutes b _ _
  rw [same]

theorem withAgenda (h : Blind f) (b : Bench) (agenda : List (Nat × Arrival)) :
    f { b with agenda } = { f b with agenda } := by
  have commutes := h.commutes b agenda b.device
  dsimp only
  rw [h.device b]
  exact commutes

theorem withDevice (h : Blind f) (b : Bench) (device : Device) :
    f { b with device } = { f b with device } := by
  have commutes := h.commutes b b.agenda device
  dsimp only
  rw [h.agenda b]
  exact commutes

theorem id : Blind fun b => b := ⟨fun _ _ _ => rfl, fun _ => rfl, fun _ => rfl⟩

theorem comp (h : Blind f) (k : Blind g) : Blind fun b => g (f b) where
  commutes b agenda device := by rw [h.commutes, k.commutes]
  clock b := (k.clock _).trans (h.clock b)
  writes b := (k.writes _).trans (h.writes b)

theorem happen (e : Event) : Blind (Bench.happen · e) :=
  ⟨fun _ _ _ => rfl, fun _ => rfl, fun _ => rfl⟩

theorem notice (n : Notice) : Blind (Bench.notice · n) := .happen _

theorem notices (ns : List Notice) : Blind (Bench.notices · ns) := by
  induction ns with
  | nil => exact .id
  | cons n rest ih => exact (notice n).comp ih

theorem print (data : Bytes) : Blind (Bench.print · data) := .happen _

theorem withInbox (inbox : Inbox) : Blind fun b => { b with inbox } :=
  ⟨fun _ _ _ => rfl, fun _ => rfl, fun _ => rfl⟩

theorem record (entry : Transcript.Entry) : Blind (Bench.record · entry) where
  commutes b agenda device := by
    unfold Bench.record
    dsimp only
    split <;> rfl
  clock b := by
    unfold Bench.record
    split <;> rfl
  writes b := by
    unfold Bench.record
    split <;> rfl

theorem stop : Blind Bench.stop where
  commutes b agenda device := by
    unfold Bench.stop
    dsimp only
    split <;> rfl
  clock b := by
    unfold Bench.stop
    split <;> rfl
  writes b := by
    unfold Bench.stop
    split <;> rfl

theorem arrive (a : Arrival) : Blind (Bench.arrive · a) where
  commutes b agenda device := by
    unfold Bench.arrive
    dsimp only
    split
    · rfl
    · cases a with
      | data bytes => rfl
      | lost cause => exact ((notice _).comp .stop).commutes b agenda device
      | stop => exact stop.commutes b agenda device
  clock b := arrive_clock b a
  writes b := by
    unfold Bench.arrive
    split
    · rfl
    · cases a with
      | data bytes => rfl
      | lost cause => exact ((notice _).comp .stop).writes b
      | stop => exact stop.writes b

theorem report (origin : Origin) (command : Text) (timeout : Duration)
    (ending : Exchange.Ending) : Blind fun b => (b.report origin command timeout ending).1 := by
  cases ending with
  | answered taken =>
      have surfaced : Blind (Bench.surface · origin command taken.stray) := by
        cases empty : taken.stray.isEmpty with
        | true =>
            simp only [Bench.surface, empty, if_true]
            exact .id
        | false =>
            simp only [Bench.surface, empty, Bool.false_eq_true, if_false]
            exact (((notice _).comp (record _)).comp (print _)).comp (print _)
      exact ((surfaced.comp (record _)).comp (print _)).comp (print _)
  | stopped => exact .notice _
  | expired => exact ((notice _).comp (record _)).comp (print _)

end Blind

theorem stop_dead (b : Bench) : b.stop.alive = false := by
  unfold stop
  split
  · rfl
  · rename_i dead
    simpa using dead

theorem heed_blind (reply : Reply) (alive : Bool) :
    ∃ f, Blind f ∧
      ((∃ cause, ∀ b : Bench, b.alive = alive → b.heed reply = (f b, .error cause)) ∨
        ∀ b : Bench, b.alive = alive → b.heed reply = ((f b).plans reply.later, .ok ())) := by
  have stopped : Blind fun b => if reply.stops then b.stop else b := by
    cases reply.stops
    · exact .id
    · exact .stop
  have alive_stopped (b : Bench) (same : b.alive = alive) :
      (if reply.stops then b.stop else b).alive = (alive && !reply.stops) := by
    cases reply.stops
    · simpa using same
    · simpa using b.stop_dead
  unfold heed
  cases reply.fails with
  | some cause => exact ⟨_, stopped, .inl ⟨cause, fun b _ => rfl⟩⟩
  | none =>
      dsimp only
      cases gone : (!(alive && !reply.stops)) && !reply.data.isEmpty with
      | true =>
          refine ⟨_, stopped, .inl ⟨"loopback reader is gone".toList, fun b same => ?_⟩⟩
          rw [alive_stopped b same, if_pos gone]
      | false =>
          have brought : Blind fun b : Bench =>
              if reply.data.isEmpty then b else b.arrive (.data reply.data) := by
            cases reply.data.isEmpty
            · exact .arrive (.data reply.data)
            · exact .id
          cases reply.loses with
          | none =>
              refine ⟨_, stopped.comp brought, .inr fun b same => ?_⟩
              rw [alive_stopped b same, if_neg (Bool.eq_false_iff.mp gone)]
          | some cause =>
              refine ⟨_, (stopped.comp brought).comp (.arrive (.lost cause)), .inr fun b same => ?_⟩
              rw [alive_stopped b same, if_neg (Bool.eq_false_iff.mp gone)]

theorem plans_clock (later : List (Nat × Arrival)) (b : Bench) :
    (b.plans later).clock = b.clock := by
  unfold plans
  induction later generalizing b with
  | nil => rfl
  | cons entry rest ih => exact ih _

theorem heed_clock (b : Bench) (reply : Reply) : (b.heed reply).1.clock = b.clock := by
  obtain ⟨f, blind, ⟨cause, heeds⟩ | heeds⟩ := heed_blind reply b.alive
  · rw [heeds b rfl]
    exact blind.clock b
  · rw [heeds b rfl]
    exact (plans_clock _ _).trans (blind.clock b)

theorem settleFrom_commutes (wake : Nat) (arrivals : List (Nat × Arrival)) (b : Bench)
    (agenda : List (Nat × Arrival)) (device : Device) :
    settleFrom wake arrivals { b with agenda, device } =
      { settleFrom wake arrivals b with device } := by
  induction arrivals generalizing b with
  | nil => rfl
  | cons entry rest ih =>
      obtain ⟨t, a⟩ := entry
      unfold settleFrom
      split
      · have moved := (Blind.arrive a).commutes { b with clock := max b.clock t } agenda device
        exact (congrArg _ moved).trans (ih _)
      · rfl

theorem settleFrom_of_device (wake : Nat) (arrivals : List (Nat × Arrival)) (b : Bench)
    (device : Device) :
    settleFrom wake arrivals { b with device } = { settleFrom wake arrivals b with device } :=
  settleFrom_commutes wake arrivals b b.agenda device

theorem settleFrom_of_agenda (wake : Nat) (arrivals : List (Nat × Arrival)) (b : Bench)
    (agenda : List (Nat × Arrival)) :
    settleFrom wake arrivals { b with agenda } = settleFrom wake arrivals b :=
  (settleFrom_commutes wake arrivals b agenda b.device).trans
    (settleFrom_of_device wake arrivals b b.device).symm

theorem settleAlive_commutes (wake : Nat) (arrivals : List (Nat × Arrival)) (b : Bench)
    (agenda : List (Nat × Arrival)) (device : Device) :
    settleAlive wake arrivals { b with agenda, device } =
      { settleAlive wake arrivals b with device } := by
  induction arrivals generalizing b with
  | nil => rfl
  | cons entry rest ih =>
      obtain ⟨t, a⟩ := entry
      unfold settleAlive
      split
      · have moved := (Blind.arrive a).commutes { b with clock := max b.clock t } agenda device
        exact (congrArg _ moved).trans (ih _)
      · rfl

theorem settleAlive_of_device (wake : Nat) (arrivals : List (Nat × Arrival)) (b : Bench)
    (device : Device) :
    settleAlive wake arrivals { b with device } = { settleAlive wake arrivals b with device } :=
  settleAlive_commutes wake arrivals b b.agenda device

theorem settleAlive_of_agenda (wake : Nat) (arrivals : List (Nat × Arrival)) (b : Bench)
    (agenda : List (Nat × Arrival)) :
    settleAlive wake arrivals { b with agenda } = settleAlive wake arrivals b :=
  (settleAlive_commutes wake arrivals b agenda b.device).trans
    (settleAlive_of_device wake arrivals b b.device).symm

theorem sleep_of_device (b : Bench) (d : Duration) (device : Device) :
    { b with device }.sleep d = { b.sleep d with device } := by
  unfold sleep
  dsimp only
  rw [settleFrom_of_device]
  rfl

theorem pause_of_device (b : Bench) (d : Duration) (device : Device) :
    { b with device }.pause d = { b.pause d with device } := by
  unfold pause
  dsimp only
  rw [settleAlive_of_device]
  dsimp only
  split <;> rfl

theorem hold_of_device (b : Bench) (device : Device) :
    { b with device }.hold = { b.hold with device } := by
  unfold hold
  dsimp only
  split
  · rfl
  · rw [settleAlive_of_device]

end Bench
end ModemDialog
