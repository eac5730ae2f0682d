import ModemDialog.Proofs.Session.Line

/-! What a bench has lived through, oldest first, and how it goes on: either something
happens on it (`Advances`), or only the line acts (`Passes`). Whatever the line does,
the bytes it brings are in the buffer behind those that were there. -/
namespace ModemDialog
namespace Event

def bytes : Event → Bytes
  | .arrived data => data
  | _ => []

def entry? : Event → Option Transcript.Entry
  | .recorded entry => some entry
  | _ => none

def ofLine : Event → Bool
  | .arrived _ | .stopped | .noticed (.readerStopped _) => true
  | _ => false

/-- What is only recorded, shown or noticed: neither part of a write nor from the line. -/
def aside : Event → Bool
  | .recorded _ | .printed _ => true
  | .noticed (.sending ..) => false
  | .noticed _ => true
  | _ => false

def arrivals (events : List Event) : Bytes := events.flatMap bytes

def entries (events : List Event) : List Transcript.Entry := events.filterMap entry?

@[simp] theorem arrivals_nil : arrivals [] = [] := rfl

@[simp] theorem arrivals_cons (e : Event) (events : List Event) :
    arrivals (e :: events) = e.bytes ++ arrivals events := rfl

@[simp] theorem arrivals_append (events later : List Event) :
    arrivals (events ++ later) = arrivals events ++ arrivals later := by
  simp [arrivals]

@[simp] theorem entries_nil : entries [] = [] := rfl

@[simp] theorem entries_append (events later : List Event) :
    entries (events ++ later) = entries events ++ entries later := by
  simp [entries]

theorem entries_cons (e : Event) (events : List Event) :
    entries (e :: events) = e.entry?.toList ++ entries events := by
  cases found : e.entry? <;> simp [entries, found]

theorem entries_of_line {events : List Event} (line : ∀ e ∈ events, e.ofLine = true) :
    entries events = [] := by
  rw [entries, List.filterMap_eq_nil_iff]
  intro e member
  have acts := line e member
  cases e with
  | recorded entry => cases acts
  | _ => rfl

theorem arrivals_of_aside {events : List Event} (aside : ∀ e ∈ events, e.aside = true) :
    arrivals events = [] := by
  rw [arrivals, List.flatMap_eq_nil_iff]
  intro e member
  have only := aside e member
  cases e with
  | arrived data => cases only
  | _ => rfl

end Event

namespace Bench

def history (b : Bench) : List Event := (b.trace.map Prod.snd).reverse

def arrived (b : Bench) : Bytes := Event.arrivals b.history

def arrivedSince (before after : Bench) : Bytes := after.arrived.drop before.arrived.length

def transcript (b : Bench) : List Transcript.Entry := Event.entries b.history

/-- From `before` to `after` exactly `events` happened, and nothing left the buffer. -/
structure Advances (before after : Bench) (events : List Event) : Prop where
  history : after.history = before.history ++ events
  data : after.inbox.data = before.inbox.data ++ Event.arrivals events
  received : after.inbox.received = before.inbox.received + (Event.arrivals events).length
  device : after.device = before.device
  sentries : after.sentries = before.sentries
  poll : after.poll = before.poll
  file : before.sink = .file → after.sink = .file
  stopped : before.alive = false → after.alive = false

namespace Advances

variable {before mid after : Bench} {events later : List Event}

theorem refl (b : Bench) : Advances b b [] := by
  constructor <;> simp

theorem trans (h : Advances before mid events) (k : Advances mid after later) :
    Advances before after (events ++ later) where
  history := by rw [k.history, h.history, List.append_assoc]
  data := by rw [k.data, h.data, Event.arrivals_append, List.append_assoc]
  received := by
    rw [k.received, h.received, Event.arrivals_append, List.length_append, Nat.add_assoc]
  device := k.device.trans h.device
  sentries := k.sentries.trans h.sentries
  poll := k.poll.trans h.poll
  file := fun file => k.file (h.file file)
  stopped := fun stopped => k.stopped (h.stopped stopped)

theorem arrived (h : Advances before after events) :
    after.arrived = before.arrived ++ Event.arrivals events := by
  rw [Bench.arrived, h.history, Event.arrivals_append]
  rfl

theorem arrivedSince (h : Advances before after events) :
    before.arrivedSince after = Event.arrivals events := by
  rw [Bench.arrivedSince, h.arrived, List.drop_left]

theorem transcript (h : Advances before after events) :
    after.transcript = before.transcript ++ Event.entries events := by
  rw [Bench.transcript, h.history, Event.entries_append]
  rfl

end Advances

theorem happen_advances (b : Bench) {e : Event} (silent : e.bytes = []) :
    Advances b (b.happen e) [e] := by
  constructor <;> simp [happen, history, silent]

theorem notice_advances (b : Bench) (n : Notice) : Advances b (b.notice n) [.noticed n] :=
  b.happen_advances rfl

theorem print_advances (b : Bench) (data : Bytes) : Advances b (b.print data) [.printed data] :=
  b.happen_advances rfl

theorem printText_advances (b : Bench) (t : Text) :
    Advances b (b.printText t) [.printed (Utf8.encode t)] :=
  b.print_advances _

theorem record_advances (b : Bench) (entry : Transcript.Entry) :
    ∃ events, Advances b (b.record entry) events ∧ (∀ e ∈ events, e.aside = true) ∧
      (b.sink = .file → events = [.recorded entry]) := by
  unfold record
  split
  · exact ⟨[], .refl b, by simp, fun file => by simp_all⟩
  · exact ⟨_, b.happen_advances rfl, by simp [Event.aside], fun _ => rfl⟩
  · exact ⟨_, b.notice_advances _, by simp [Event.aside], fun file => by simp_all⟩
  · rename_i room full
    refine ⟨[.recorded entry], ?_, by simp [Event.aside], fun _ => rfl⟩
    constructor <;> simp [happen, history, Event.bytes, full]

def Passes (before after : Bench) : Prop :=
  ∃ events, Advances before after events ∧ ∀ e ∈ events, e.ofLine = true

namespace Passes

variable {before mid after : Bench}

theorem refl (b : Bench) : Passes b b := ⟨[], .refl b, by simp⟩

theorem trans (h : Passes before mid) (k : Passes mid after) : Passes before after := by
  obtain ⟨events, advances, line⟩ := h
  obtain ⟨later, advances', line'⟩ := k
  refine ⟨events ++ later, advances.trans advances', fun e member => ?_⟩
  rcases List.mem_append.mp member with early | late
  · exact line e early
  · exact line' e late

theorem of_silent (b : Bench) (agenda : List (Nat × Arrival)) (clock : Nat)
    (writes : List Write) :
    Passes b { b with agenda, clock, writes } :=
  ⟨[], by constructor <;> simp [history], by simp⟩

instance : Std.Refl Passes := ⟨refl⟩

instance : IsTrans Bench Passes := ⟨fun _ _ _ => trans⟩

end Passes

theorem LineStep.passes {before after : Bench} (h : LineStep before after) :
    Passes before after := by
  cases h with
  | wait agenda later => exact .of_silent before agenda _ before.writes
  | bring data =>
      refine ⟨[.arrived data], ?_, by simp [Event.ofLine]⟩
      constructor <;> simp [happen, history, Event.bytes, Inbox.append]
  | lose cause => exact ⟨_, before.notice_advances _, by simp [Event.ofLine]⟩
  | stop alive =>
      refine ⟨[.stopped], ?_, by simp [Event.ofLine]⟩
      constructor <;> simp [happen, history, Event.bytes]

theorem Line.passes {before after : Bench} (h : Line before after) : Passes before after :=
  Relation.reflTransGen_le_of_le (r := Passes) (fun _ _ => LineStep.passes) _ _ h

/-- A write is one event, and all that comes of it is up to the line. -/
theorem write_advances (b : Bench) (data : Bytes) :
    ∃ events, Advances b (b.write data).1 (.wrote data :: events) ∧
      ∀ e ∈ events, e.ofLine = true := by
  have wrote : Advances b (b.happen (.wrote data)) [.wrote data] := b.happen_advances rfl
  have logged := Passes.of_silent (b.happen (.wrote data)) b.agenda b.clock
    (⟨b.clock, data⟩ :: b.writes)
  obtain ⟨events, advances, line⟩ :=
    logged.trans (heed_line _ (b.device b.writes ⟨b.clock, data⟩)).passes
  exact ⟨events, wrote.trans advances, line⟩

end Bench
end ModemDialog
