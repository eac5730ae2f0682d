import Mathlib.Logic.Relation
import ModemDialog.Session

/-! What a bench goes through without being asked. `Line` is what the line does to it while
time passes; `Ensues` adds what a command on its way leaves to show, record and report. Both
are runs of single steps: a reflexive and transitive relation that holds of the steps holds of
them. -/
namespace ModemDialog
namespace Event

def isStop : Event → Bool
  | .stopped => true
  | _ => false

/-- What comes of the line or of a command on its way, and of nothing else. -/
def incidental : Event → Bool
  | .arrived _ | .stopped | .printed _ | .recorded _ => true
  | .noticed n =>
      match n with
      | .readerStopped _ | .timedOut .. | .stray .. | .transcriptFailed _ | .abandoned _ => true
      | _ => false
  | _ => false

end Event

namespace Bench

inductive LineStep : Bench → Bench → Prop where
  | wait (b : Bench) (agenda : List (Nat × Arrival)) {clock : Nat} (later : b.clock ≤ clock) :
      LineStep b { b with agenda, clock }
  | bring (b : Bench) (data : Bytes) :
      LineStep b { b.happen (.arrived data) with inbox := b.inbox.append data }
  | lose (b : Bench) (cause : Text) : LineStep b (b.notice (.readerStopped cause))
  | stop {b : Bench} (alive : b.alive = true) :
      LineStep b { b.happen .stopped with alive := false }

def Line : Bench → Bench → Prop := Relation.ReflTransGen LineStep

namespace Line

variable {before mid after : Bench}

theorem refl (b : Bench) : Line b b := Relation.ReflTransGen.refl

theorem trans (h : Line before mid) (k : Line mid after) : Line before after :=
  Relation.ReflTransGen.trans h k

theorem single (h : LineStep before after) : Line before after := Relation.ReflTransGen.single h

theorem wait (b : Bench) (agenda : List (Nat × Arrival)) {clock : Nat} (later : b.clock ≤ clock) :
    Line b { b with agenda, clock } :=
  .single (.wait b agenda later)

end Line

theorem stop_line (b : Bench) : Line b b.stop := by
  unfold stop
  split
  · rename_i alive
    exact .single (.stop alive)
  · exact .refl b

theorem arrive_line (b : Bench) (a : Arrival) : Line b (b.arrive a) := by
  unfold arrive
  split
  · exact .refl b
  · cases a with
    | data bytes => exact .single (.bring b bytes)
    | lost cause => exact (Line.single (.lose b cause)).trans (stop_line _)
    | stop => exact b.stop_line

theorem due_line (b : Bench) (time : Nat) (a : Arrival) :
    Line b ({ b with clock := max b.clock time }.arrive a) :=
  (Line.wait b b.agenda (Nat.le_max_left _ _)).trans (arrive_line _ a)

theorem settleFrom_line (time : Nat) (agenda : List (Nat × Arrival)) (b : Bench) :
    Line b (settleFrom time agenda b) := by
  induction agenda generalizing b with
  | nil => exact .wait b [] (Nat.le_refl _)
  | cons entry rest ih =>
      obtain ⟨t, a⟩ := entry
      unfold settleFrom
      split
      · exact (b.due_line t a).trans (ih _)
      · exact .wait b _ (Nat.le_refl _)

theorem settleAlive_line (time : Nat) (agenda : List (Nat × Arrival)) (b : Bench) :
    Line b (settleAlive time agenda b) := by
  induction agenda generalizing b with
  | nil => exact .wait b [] (Nat.le_refl _)
  | cons entry rest ih =>
      obtain ⟨t, a⟩ := entry
      unfold settleAlive
      split
      · exact (b.due_line t a).trans (ih _)
      · exact .wait b _ (Nat.le_refl _)

@[simp] theorem arrive_clock (b : Bench) (a : Arrival) : (b.arrive a).clock = b.clock := by
  unfold arrive stop notice happen
  split
  · rfl
  · cases a with
    | data bytes => rfl
    | lost cause => dsimp only; split <;> rfl
    | stop => dsimp only; split <;> rfl

theorem settleFrom_clock_le {time : Nat} (agenda : List (Nat × Arrival)) {b : Bench}
    (le : b.clock ≤ time) : (settleFrom time agenda b).clock ≤ time := by
  induction agenda generalizing b with
  | nil => exact le
  | cons entry rest ih =>
      obtain ⟨t, a⟩ := entry
      unfold settleFrom
      split
      · rename_i due
        exact ih (by rw [arrive_clock]; exact Nat.max_le.mpr ⟨le, due⟩)
      · exact le

theorem settleAlive_clock_le {time : Nat} (agenda : List (Nat × Arrival)) {b : Bench}
    (le : b.clock ≤ time) : (settleAlive time agenda b).clock ≤ time := by
  induction agenda generalizing b with
  | nil => exact le
  | cons entry rest ih =>
      obtain ⟨t, a⟩ := entry
      unfold settleAlive
      split
      · rename_i due
        have inTime : t ≤ time := by simpa using (Bool.and_eq_true_iff.mp due).2
        exact ih (by rw [arrive_clock]; exact Nat.max_le.mpr ⟨le, inTime⟩)
      · exact le

theorem setClock_line {b : Bench} {time : Nat} (le : b.clock ≤ time) : Line b (b.setClock time) :=
  .wait b b.agenda le

theorem sleep_line (b : Bench) (d : Duration) : Line b (b.sleep d) :=
  (settleFrom_line _ b.agenda b).trans
    (setClock_line (settleFrom_clock_le b.agenda (Nat.le_add_right _ _)))

theorem pause_line (b : Bench) (d : Duration) : Line b (b.pause d) := by
  have settled := settleAlive_line (b.clock + d.ceilMillis) b.agenda b
  have inTime := settleAlive_clock_le b.agenda (Nat.le_add_right b.clock d.ceilMillis)
  unfold pause
  dsimp only
  split
  · exact settled.trans (setClock_line inTime)
  · exact settled

theorem hold_line (b : Bench) : Line b b.hold := by
  unfold hold
  split
  · exact .refl b
  · exact settleAlive_line _ _ _

theorem plan_line (b : Bench) (delay : Nat) (a : Arrival) : Line b (b.plan delay a) :=
  .wait b _ (Nat.le_refl _)

theorem plans_line (later : List (Nat × Arrival)) (b : Bench) : Line b (b.plans later) := by
  unfold plans
  induction later generalizing b with
  | nil => exact .refl b
  | cons entry rest ih => exact (b.plan_line entry.1 entry.2).trans (ih _)

/-- All that comes of a write is up to the line. -/
theorem heed_line (b : Bench) (reply : Reply) : Line b (b.heed reply).1 := by
  have stopped : Line b (if reply.stops then b.stop else b) := by
    split
    · exact b.stop_line
    · exact .refl b
  unfold heed
  refine stopped.trans ?_
  generalize (if reply.stops then b.stop else b) = b
  cases reply.fails with
  | some cause => exact .refl b
  | none =>
      dsimp only
      split
      · exact .refl b
      · have brought : Line b (if reply.data.isEmpty then b else b.arrive (.data reply.data)) := by
          split
          · exact .refl b
          · exact b.arrive_line _
        refine (brought.trans ?_).trans (plans_line reply.later _)
        cases reply.loses with
        | some cause => exact arrive_line _ _
        | none => exact .refl _

inductive Incident : Bench → Bench → Prop where
  | line {before after : Bench} (h : LineStep before after) : Incident before after
  | event (b : Bench) {e : Event} (incidental : e.incidental = true) (lives : e.isStop = false) :
      Incident b (b.happen e)
  /-- The clock stands still while bytes are taken and lines are recorded. -/
  | keep (b : Bench) (inbox : Inbox) (sink : Sink) : Incident b { b with inbox, sink }

def Ensues : Bench → Bench → Prop := Relation.ReflTransGen Incident

namespace Ensues

variable {before mid after : Bench}

theorem refl (b : Bench) : Ensues b b := Relation.ReflTransGen.refl

theorem trans (h : Ensues before mid) (k : Ensues mid after) : Ensues before after :=
  Relation.ReflTransGen.trans h k

theorem single (h : Incident before after) : Ensues before after := Relation.ReflTransGen.single h

theorem event (b : Bench) {e : Event} (incidental : e.incidental = true)
    (lives : e.isStop = false) : Ensues b (b.happen e) :=
  .single (.event b incidental lives)

end Ensues

theorem Line.ensues {before after : Bench} (h : Line before after) : Ensues before after :=
  Relation.ReflTransGen.mono (fun _ _ => .line) _ _ h

theorem record_ensues (b : Bench) (entry : Transcript.Entry) : Ensues b (b.record entry) := by
  unfold record
  split
  · exact .refl b
  · exact .event b rfl rfl
  · exact .event b rfl rfl
  · rename_i room full
    exact (Ensues.event b rfl rfl).trans (.single (.keep _ b.inbox (.disk room)))

theorem print_ensues (b : Bench) (data : Bytes) : Ensues b (b.print data) := .event b rfl rfl

theorem await_ensues (b : Bench) (x : Exchange) : Ensues b (b.await x).1 := by
  fun_induction await b x with
  | case1 b x taken rest answered => exact .single (.keep b rest b.sink)
  | case2 b x stopped => exact .refl b
  | case3 b x expired => exact .refl b
  | case4 b x next waits ih => exact (b.sleep_line b.poll).ensues.trans ih

theorem surface_ensues (b : Bench) (origin : Origin) (command : Text) (data : Bytes) :
    Ensues b (b.surface origin command data) := by
  unfold surface
  split
  · exact .refl b
  · exact (((Ensues.event b rfl rfl).trans (record_ensues _ _)).trans (print_ensues _ _)).trans
      (print_ensues _ _)

theorem report_ensues (b : Bench) (origin : Origin) (command : Text) (timeout : Duration)
    (ending : Exchange.Ending) : Ensues b (b.report origin command timeout ending).1 := by
  cases ending with
  | answered taken =>
      exact (((b.surface_ensues _ _ _).trans (record_ensues _ _)).trans (print_ensues _ _)).trans
        (print_ensues _ _)
  | stopped => exact .event b rfl rfl
  | expired =>
      exact ((Ensues.event b rfl rfl).trans (record_ensues _ _)).trans (print_ensues _ _)

end Bench
end ModemDialog
