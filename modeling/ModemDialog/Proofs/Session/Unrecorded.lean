import ModemDialog.Proofs.Session.Timeline

/-! Sessions seen without their transcript. Benches that differ in where their transcript
goes, and in what came of it, stay so through everything that is done on them, and every
result is the same on both. -/
namespace ModemDialog

/-- Events that there would not be without a transcript. -/
def Event.ofTranscript : Event → Bool
  | .recorded _ => true
  | .noticed (.transcriptFailed _) => true
  | _ => false

def Event.shown? : Event → Option Bytes
  | .printed data => some data
  | _ => none

namespace Bench

def observed (trace : List (Nat × Event)) : List (Nat × Event) :=
  trace.filter fun e => !e.2.ofTranscript

/-- The two benches differ in nothing but the transcript. -/
structure Alike (b b' : Bench) : Prop where
  device : b'.device = b.device
  sentries : b'.sentries = b.sentries
  poll : b'.poll = b.poll
  agenda : b'.agenda = b.agenda
  clock : b'.clock = b.clock
  alive : b'.alive = b.alive
  inbox : b'.inbox = b.inbox
  writes : b'.writes = b.writes
  trace : observed b'.trace = observed b.trace

def console (b : Bench) : List (Nat × Bytes) :=
  b.trace.filterMap fun e => e.2.shown?.map (e.1, ·)

theorem console_eq (b : Bench) :
    b.console = (observed b.trace).filterMap fun e => e.2.shown?.map (e.1, ·) := by
  unfold console observed
  rw [List.filterMap_filter]
  congr 1
  funext ⟨t, e⟩
  cases hidden : e.ofTranscript with
  | false => rfl
  | true => cases e <;> first | rfl | cases hidden

/-- What is done on two benches comes to the same. -/
def Agree (r r' : Bench × α) : Prop :=
  ∃ c c' result, r = (c, result) ∧ r' = (c', result) ∧ Alike c c'

namespace Alike

variable {b b' c : Bench}

theorem agree (h : Alike b b') {α : Type} (result : α) : Agree (b, result) (b', result) :=
  ⟨b, b', result, rfl, rfl, h⟩

theorem refl (b : Bench) : Alike b b := ⟨rfl, rfl, rfl, rfl, rfl, rfl, rfl, rfl, rfl⟩

theorem symm (h : Alike b b') : Alike b' b :=
  ⟨h.device.symm, h.sentries.symm, h.poll.symm, h.agenda.symm, h.clock.symm, h.alive.symm,
    h.inbox.symm, h.writes.symm, h.trace.symm⟩

theorem trans (h : Alike b b') (k : Alike b' c) : Alike b c :=
  ⟨k.device.trans h.device, k.sentries.trans h.sentries, k.poll.trans h.poll,
    k.agenda.trans h.agenda, k.clock.trans h.clock, k.alive.trans h.alive,
    k.inbox.trans h.inbox, k.writes.trans h.writes, k.trace.trans h.trace⟩

theorem of_sink (b : Bench) (sink : Sink) : Alike b { b with sink } :=
  ⟨rfl, rfl, rfl, rfl, rfl, rfl, rfl, rfl, rfl⟩

theorem console (h : Alike b b') : b'.console = b.console := by
  rw [console_eq, console_eq, h.trace]

theorem happen (h : Alike b b') (e : Event) : Alike (b.happen e) (b'.happen e) :=
  { h with
    trace := by
      unfold Bench.happen observed
      rw [List.filter_cons, List.filter_cons, h.clock]
      have same := h.trace
      unfold observed at same
      rw [same] }

theorem notice (h : Alike b b') (n : Notice) : Alike (b.notice n) (b'.notice n) := h.happen _

theorem notices (h : Alike b b') (ns : List Notice) : Alike (b.notices ns) (b'.notices ns) := by
  unfold Bench.notices
  induction ns generalizing b b' with
  | nil => exact h
  | cons n rest ih => exact ih (h.notice n)

theorem print (h : Alike b b') (data : Bytes) : Alike (b.print data) (b'.print data) := h.happen _

theorem printText (h : Alike b b') (t : Text) : Alike (b.printText t) (b'.printText t) :=
  h.print _

theorem of_transcript (b : Bench) {e : Event} (silent : e.ofTranscript = true) :
    Alike b (b.happen e) :=
  { refl b with
    trace := by simp [Bench.happen, observed, silent] }

theorem of_record (b : Bench) (entry : Transcript.Entry) : Alike b (b.record entry) := by
  unfold Bench.record
  split
  · exact refl b
  · exact of_transcript b rfl
  · exact of_transcript b rfl
  · exact (of_transcript b rfl).trans (of_sink _ _)

theorem record (h : Alike b b') (entry : Transcript.Entry) :
    Alike (b.record entry) (b'.record entry) :=
  ((of_record b entry).symm.trans h).trans (of_record b' entry)

theorem stop (h : Alike b b') : Alike b.stop b'.stop := by
  unfold Bench.stop
  rw [h.alive]
  split
  · exact { h.happen .stopped with alive := rfl }
  · exact h

theorem arrive (h : Alike b b') (a : Arrival) : Alike (b.arrive a) (b'.arrive a) := by
  unfold Bench.arrive
  rw [h.alive]
  split
  · exact h
  · cases a with
    | data bytes => exact { h.happen (.arrived bytes) with inbox := by rw [h.inbox] }
    | lost cause => exact (h.notice _).stop
    | stop => exact h.stop

theorem setClock (h : Alike b b') (time : Nat) : Alike (b.setClock time) (b'.setClock time) :=
  { h with clock := rfl }

theorem advanceClock (h : Alike b b') (time : Nat) :
    Alike { b with clock := max b.clock time } { b' with clock := max b'.clock time } :=
  { h with clock := by rw [h.clock] }

theorem setAgenda (h : Alike b b') (agenda : List (Nat × Arrival)) :
    Alike { b with agenda } { b' with agenda } :=
  { h with agenda := rfl }

theorem setInbox (h : Alike b b') (inbox : Inbox) : Alike { b with inbox } { b' with inbox } :=
  { h with inbox := rfl }

theorem plan (h : Alike b b') (delay : Nat) (a : Arrival) :
    Alike (b.plan delay a) (b'.plan delay a) :=
  { h with
    agenda := by
      unfold Bench.plan
      rw [h.clock, h.agenda] }

theorem plans (h : Alike b b') (later : List (Nat × Arrival)) :
    Alike (b.plans later) (b'.plans later) := by
  unfold Bench.plans
  induction later generalizing b b' with
  | nil => exact h
  | cons entry rest ih => exact ih (h.plan entry.1 entry.2)

theorem settleFrom (h : Alike b b') (time : Nat) (agenda : List (Nat × Arrival)) :
    Alike (Bench.settleFrom time agenda b) (Bench.settleFrom time agenda b') := by
  induction agenda generalizing b b' with
  | nil => exact h.setAgenda []
  | cons entry rest ih =>
      obtain ⟨t, a⟩ := entry
      unfold Bench.settleFrom
      split
      · exact ih ((h.advanceClock t).arrive a)
      · exact h.setAgenda _

theorem settleAlive (h : Alike b b') (time : Nat) (agenda : List (Nat × Arrival)) :
    Alike (Bench.settleAlive time agenda b) (Bench.settleAlive time agenda b') := by
  induction agenda generalizing b b' with
  | nil => exact h.setAgenda []
  | cons entry rest ih =>
      obtain ⟨t, a⟩ := entry
      have same : (b'.alive && decide (t ≤ time)) = (b.alive && decide (t ≤ time)) := by
        rw [h.alive]
      unfold Bench.settleAlive
      by_cases due : (b.alive && decide (t ≤ time)) = true
      · rw [if_pos due, if_pos (same.trans due)]
        exact ih ((h.advanceClock t).arrive a)
      · rw [if_neg due, if_neg (same ▸ due)]
        exact h.setAgenda _

theorem sleep (h : Alike b b') (d : Duration) : Alike (b.sleep d) (b'.sleep d) := by
  unfold Bench.sleep
  rw [h.clock, h.agenda]
  exact (h.settleFrom _ _).setClock _

theorem pause (h : Alike b b') (d : Duration) : Alike (b.pause d) (b'.pause d) := by
  unfold Bench.pause
  rw [h.clock, h.agenda]
  have settled := h.settleAlive (b.clock + d.ceilMillis) b.agenda
  dsimp only
  rw [settled.alive]
  split
  · exact settled.setClock _
  · exact settled

theorem hold (h : Alike b b') : Alike b.hold b'.hold := by
  unfold Bench.hold
  rw [h.agenda]
  split
  · exact h
  · exact h.settleAlive _ _

theorem heed (h : Alike b b') (reply : Reply) :
    Agree (b.heed reply) (b'.heed reply) := by
  have stopped : Alike (if reply.stops then b.stop else b)
      (if reply.stops then b'.stop else b') := by
    split
    · exact h.stop
    · exact h
  unfold Bench.heed
  dsimp only
  generalize (if reply.stops then b.stop else b) = c at *
  generalize (if reply.stops then b'.stop else b') = c' at *
  cases reply.fails with
  | some cause => exact stopped.agree _
  | none =>
      dsimp only
      rw [stopped.alive]
      split
      · exact stopped.agree _
      · refine (plans ?_ reply.later).agree _
        have brought : Alike (if reply.data.isEmpty then c else c.arrive (.data reply.data))
            (if reply.data.isEmpty then c' else c'.arrive (.data reply.data)) := by
          split
          · exact stopped
          · exact stopped.arrive _
        cases reply.loses with
        | none => exact brought
        | some cause => exact brought.arrive _

theorem write (h : Alike b b') (data : Bytes) :
    Agree (b.write data) (b'.write data) := by
  have logged : Alike (b.log data) (b'.log data) :=
    { h.happen (.wrote data) with
      writes := by
        unfold Bench.log
        rw [h.clock, h.writes] }
  rw [write_eq, write_eq, h.device, h.writes, h.clock]
  exact logged.heed _

theorem surface (h : Alike b b') (origin : Origin) (command : Text) (data : Bytes) :
    Alike (b.surface origin command data) (b'.surface origin command data) := by
  unfold Bench.surface
  split
  · exact h
  · exact (((h.notice _).record _).print _).printText _

theorem deliver (h : Alike b b') (origin : Origin) (command : Text) (taken : Taken) :
    Alike (b.deliver origin command taken).1 (b'.deliver origin command taken).1 :=
  (((h.surface origin command taken.stray).record _).printText _).printText _

theorem report (h : Alike b b') (origin : Origin) (command : Text) (timeout : Duration)
    (ending : Exchange.Ending) :
    Agree (b.report origin command timeout ending) (b'.report origin command timeout ending) := by
  cases ending with
  | answered taken => exact (h.deliver origin command taken).agree _
  | stopped => exact (h.notice _).agree _
  | expired => exact (((h.notice _).record _).printText _).agree _

theorem check (h : Alike b b') (x : Exchange) :
    x.check b'.sentries b'.inbox b'.alive = x.check b.sentries b.inbox b.alive := by
  rw [h.sentries, h.inbox, h.alive]

theorem await (h : Alike b b') (x : Exchange) : Agree (b.await x) (b'.await x) := by
  fun_induction Bench.await b x generalizing b' with
  | case1 b x taken rest answered =>
      have found : b'.await x = ({ b' with inbox := rest }, .answered taken) := by
        rw [Bench.await, h.check, answered]
      exact ⟨_, _, _, rfl, found, h.setInbox rest⟩
  | case2 b x stopped =>
      have ends : b'.await x = (b', .stopped) := by rw [Bench.await, h.check, stopped]
      exact ⟨_, _, _, rfl, ends, h⟩
  | case3 b x expired =>
      have ends : b'.await x = (b', .expired) := by rw [Bench.await, h.check, expired]
      exact ⟨_, _, _, rfl, ends, h⟩
  | case4 b x next waits ih =>
      have later : b'.await x = (b'.sleep b.poll).await next := by
        rw [Bench.await, h.check, waits]
        dsimp only
        rw [h.poll]
      rw [later]
      exact ih (h.sleep b.poll)

theorem issue (h : Alike b b') (origin : Origin) (command : Text) (timeout : Duration) :
    Agree (b.issue origin command timeout) (b'.issue origin command timeout) := by
  have announced := (h.notice (.sending origin command)).record
    (.moved origin .outward (wire command))
  obtain ⟨c, c', result, wrote, wrote', alike⟩ := announced.write (wire command)
  have mark : (b'.notice (.sending origin command)).inbox.data.length =
      (b.notice (.sending origin command)).inbox.data.length := by
    rw [(h.notice _).inbox]
  unfold Bench.issue
  dsimp only
  rw [wrote, wrote', mark]
  cases result with
  | error cause => exact alike.agree _
  | ok _ =>
      dsimp only
      rw [alike.poll, alike.inbox]
      exact alike.agree _

theorem exchange (h : Alike b b') (origin : Origin) (command : Text) (timeout : Duration) :
    Agree (b.exchange origin command timeout) (b'.exchange origin command timeout) := by
  obtain ⟨c, c', result, issued, issued', alike⟩ := h.issue origin command timeout
  unfold Bench.exchange
  rw [issued, issued']
  cases result with
  | error fault => exact alike.agree _
  | ok x =>
      obtain ⟨d, d', ending, waited, waited', alike⟩ := alike.await x
      dsimp only
      rw [waited, waited']
      exact alike.agree _

theorem send (h : Alike b b') (origin : Origin) (command : Text) (timeout : Duration) :
    Agree (b.send origin command timeout) (b'.send origin command timeout) := by
  obtain ⟨c, c', result, exchanged, exchanged', alike⟩ := h.exchange origin command timeout
  unfold Bench.send
  rw [exchanged, exchanged']
  cases result with
  | error fault => exact alike.agree _
  | ok ending =>
      obtain ⟨d, d', response, reported, reported', alike⟩ :=
        alike.report origin command timeout ending
      dsimp only
      rw [reported, reported']
      exact alike.agree _

theorem checkLink (h : Alike b b') (check : LinkCheck) (timeout : Duration) :
    Agree (b.checkLink check timeout) (b'.checkLink check timeout) := by
  obtain ⟨c, c', result, sent, sent', alike⟩ := h.send .script check.command timeout
  unfold Bench.checkLink
  rw [sent, sent']
  cases result with
  | error fault => exact alike.agree _
  | ok response =>
      dsimp only
      cases check.judge response with
      | error fault => exact alike.agree _
      | ok _ => exact (alike.notice _).agree _

end Alike
end Bench
end ModemDialog
