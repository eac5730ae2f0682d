import ModemDialog.Proofs.Advance
import ModemDialog.Proofs.Engine.Dealing
import ModemDialog.Proofs.Session.Accounting
import ModemDialog.Proofs.Session.Unrecorded

/-! The transcript only looks on. Sessions and whole dialogues go the same way whether there
is no transcript, a working one, or one that fails from some line on. -/
namespace ModemDialog

namespace Script.Stage

structure Alike (s s' : Stage) : Prop where
  bench : Bench.Alike s.bench s'.bench
  machine : s'.machine = s.machine

theorem serve_alike {b b' : Bench} (h : Bench.Alike b b') (setup : Setup) (m : Machine)
    (request : Request) :
    Alike (serve setup b m request).1 (serve setup b' m request).1 ∧
      (serve setup b' m request).2 = (serve setup b m request).2 := by
  cases request with
  | send command =>
      obtain ⟨c, c', result, sent, sent', alike⟩ := h.send .script command setup.timeout
      rw [serve, serve, sent, sent']
      cases result <;> exact ⟨⟨alike, rfl⟩, rfl⟩
  | pause d => exact ⟨⟨h.pause d, rfl⟩, rfl⟩
  | hold => exact ⟨⟨h.hold, rfl⟩, rfl⟩
  | load path script line =>
      rw [serve, serve]
      cases load setup.files path <;> exact ⟨⟨h.notice _, rfl⟩, rfl⟩
  | nothing => exact ⟨⟨h, rfl⟩, rfl⟩
  | finish outcome => exact ⟨⟨h, rfl⟩, rfl⟩

theorem step_alike (setup : Setup) (s s' : Stage) (h : Alike s s') :
    Alike (s.step setup).1 (s'.step setup).1 ∧ (s'.step setup).2 = (s.step setup).2 := by
  unfold step
  rw [h.bench.alive, h.machine]
  split
  · exact ⟨⟨h.bench, rfl⟩, rfl⟩
  · exact serve_alike (h.bench.notices _) setup _ _

/-! Sessions of any kind. -/

/-- One thing done in a session: with the device, with the scripts, or with the link. -/
inductive Job where
  | act (act : Act)
  | checkLink (check : LinkCheck) (timeout : Duration)
  | enter (script : Script)
  | runScripts (setup : Setup) (steps : Nat)

inductive Told where
  | nothing
  | answer (result : Except SendFault Response)
  | link (result : Except LinkFault Unit)
  | scripts (ending : Option Ending)

def perform (s : Stage) : Job → Stage × Told
  | .act (.send origin command timeout) =>
      let (bench, result) := s.bench.send origin command timeout
      ({ s with bench }, .answer result)
  | .act act => ({ s with bench := s.bench.perform act }, .nothing)
  | .checkLink check timeout =>
      let (bench, result) := s.bench.checkLink check timeout
      ({ s with bench }, .link result)
  | .enter script =>
      let (machine, entered) := s.machine.push script
      (⟨s.bench.notice entered, machine⟩, .nothing)
  | .runScripts setup steps =>
      let (s, ending) := advance (step setup) steps s
      (s, .scripts ending)

def session : Stage → List Job → Stage × List Told
  | s, [] => (s, [])
  | s, job :: more =>
      let (s, told) := s.perform job
      let (s, later) := session s more
      (s, told :: later)

theorem perform_alike {s s' : Stage} (h : Alike s s') (job : Job) :
    Alike (s.perform job).1 (s'.perform job).1 ∧ (s'.perform job).2 = (s.perform job).2 := by
  cases job with
  | act act =>
      cases act with
      | send origin command timeout =>
          obtain ⟨c, c', result, sent, sent', alike⟩ := h.bench.send origin command timeout
          rw [perform, perform, sent, sent']
          exact ⟨⟨alike, h.machine⟩, rfl⟩
      | wait d => exact ⟨⟨h.bench.sleep d, h.machine⟩, rfl⟩
      | arrive a => exact ⟨⟨h.bench.arrive a, h.machine⟩, rfl⟩
      | plan delay a => exact ⟨⟨h.bench.plan delay a, h.machine⟩, rfl⟩
      | print data => exact ⟨⟨h.bench.print data, h.machine⟩, rfl⟩
  | checkLink check timeout =>
      obtain ⟨c, c', result, checked, checked', alike⟩ := h.bench.checkLink check timeout
      rw [perform, perform, checked, checked']
      exact ⟨⟨alike, h.machine⟩, rfl⟩
  | enter script =>
      rw [perform, perform, h.machine]
      exact ⟨⟨h.bench.notice _, rfl⟩, rfl⟩
  | runScripts setup steps =>
      obtain ⟨alike, same⟩ := advance_related (step_alike setup) steps h
      exact ⟨alike, congrArg Told.scripts same⟩

theorem session_alike {s s' : Stage} (h : Alike s s') (jobs : List Job) :
    Alike (s.session jobs).1 (s'.session jobs).1 ∧ (s'.session jobs).2 = (s.session jobs).2 := by
  induction jobs generalizing s s' with
  | nil => exact ⟨h, rfl⟩
  | cons job more ih =>
      obtain ⟨alike, told⟩ := perform_alike h job
      obtain ⟨ends, later⟩ := ih alike
      refine ⟨ends, ?_⟩
      rw [session, session]
      exact congrArg₂ _ told later

def recordedTo (s : Stage) (sink : Sink) : Stage := { s with bench := { s.bench with sink } }

end Script.Stage

namespace Engine

def Alike (e e' : Engine) : Prop := ∃ b, e' = { e with bench := b } ∧ Bench.Alike e.bench b

variable {e : Engine} {b : Bench}

theorem ask_alike (h : Bench.Alike e.bench b) (operator : Operator) :
    Bench.Agree (e.bench.ask operator) (b.ask operator) := by
  cases comes : operator.turns with
  | nil =>
      rw [Bench.ask_of_none _ comes, Bench.ask_of_none _ comes, h.hold.alive]
      split
      · exact h.hold.agree _
      · exact h.agree _
  | cons turn turns =>
      have attended : Bench.Alike (e.bench.attend turn) (b.attend turn) := by
        unfold Bench.attend
        split
        · exact h.pause _
        · exact h
      rw [Bench.ask_of_turn _ comes, Bench.ask_of_turn _ comes]
      dsimp only
      rw [attended.alive]
      split
      · exact attended.agree _
      · split
        · exact attended.agree _
        · refine (Bench.Alike.happen ?_ _).agree _
          split
          · exact attended.stop
          · exact attended

theorem act_alike (h : Bench.Alike e.bench b) (deed : Dialogue.Deed) :
    Alike (e.act deed).1 (act { e with bench := b } deed).1 ∧
      (act { e with bench := b } deed).2 = (e.act deed).2 := by
  cases deed with
  | nothing => exact ⟨⟨b, rfl, h⟩, rfl⟩
  | load path =>
      rw [act, act]
      cases Script.load e.files path with
      | ok s => exact ⟨⟨_, rfl, h.notices _⟩, rfl⟩
      | error fault => exact ⟨⟨_, rfl, (h.notice _).printText _⟩, rfl⟩
  | print text => exact ⟨⟨_, rfl, h.printText text⟩, rfl⟩
  | send command =>
      obtain ⟨c, c', result, sent, sent', alike⟩ := h.send .operator command e.timeout
      rw [act, act]
      dsimp only
      rw [sent, sent']
      cases result <;> exact ⟨⟨c', rfl, alike⟩, rfl⟩

theorem serve_alike (h : Bench.Alike e.bench b) (request : Dialogue.Request) :
    Alike (e.serve request).1 (serve { e with bench := b } request).1 ∧
      (serve { e with bench := b } request).2 = (e.serve request).2 := by
  cases request with
  | checkLink =>
      obtain ⟨c, c', result, checked, checked', alike⟩ := h.checkLink e.linkCheck e.timeout
      rw [serve, serve]
      dsimp only
      rw [checked, checked']
      cases result with
      | ok _ => exact ⟨⟨_, rfl, alike.notices _⟩, rfl⟩
      | error fault => exact ⟨⟨c', rfl, alike⟩, rfl⟩
  | script request =>
      obtain ⟨⟨alike, machine⟩, same⟩ :=
        Script.Stage.serve_alike h ⟨e.files, e.timeout⟩ e.dialogue.machine request
      rw [serve, serve]
      dsimp only
      rw [machine, same]
      split <;> exact ⟨⟨_, rfl, alike⟩, rfl⟩
  | ask =>
      obtain ⟨c, c', ⟨operator, heard⟩, asked, asked', alike⟩ := ask_alike h e.operator
      rw [serve, serve]
      dsimp only
      rw [asked, asked']
      cases heard with
      | line line => exact act_alike (alike.notices _) _
      | failed cause => exact ⟨⟨c', rfl, alike⟩, rfl⟩
      | silence => exact ⟨⟨c', rfl, alike⟩, rfl⟩
  | finish => exact ⟨⟨b, rfl, h⟩, rfl⟩

theorem step_alike (e e' : Engine) (h : e.Alike e') :
    Alike e.step.1 e'.step.1 ∧ e'.step.2 = e.step.2 := by
  obtain ⟨b, rfl, alike⟩ := h
  unfold step
  dsimp only
  rw [alike.alive]
  exact serve_alike (alike.notices _) _

def recordedTo (e : Engine) (sink : Sink) : Engine := { e with bench := { e.bench with sink } }

end Engine

/-- Where the transcript goes, and from which line on it fails, makes no difference to
anything but itself. Whatever is done in a session, everybody is told the same; however far a
dialogue goes, it ends in the same way or goes on; and at any time the writes and their times,
the console, the receive buffer, the alive flag, the clock, all other notices and the script
stack are the same. -/
theorem transcript_only_observes (sink sink' : Sink) :
    (∀ (s : Script.Stage) (jobs : List Script.Stage.Job),
      let plain := (s.recordedTo sink).session jobs
      let recorded := (s.recordedTo sink').session jobs
      recorded.2 = plain.2 ∧ recorded.1.bench.console = plain.1.bench.console ∧
        plain.1.Alike recorded.1) ∧
      ∀ (e : Engine) (n : Nat),
        let plain := advance Engine.step n (e.recordedTo sink)
        let recorded := advance Engine.step n (e.recordedTo sink')
        recorded.2 = plain.2 ∧ recorded.1.bench.console = plain.1.bench.console ∧
          plain.1.Alike recorded.1 := by
  have benches (b : Bench) : Bench.Alike { b with sink } { b with sink := sink' } :=
    .of_sink _ sink'
  constructor
  · intro s jobs plain recorded
    have start : Script.Stage.Alike (s.recordedTo sink) (s.recordedTo sink') :=
      ⟨benches s.bench, rfl⟩
    obtain ⟨alike, told⟩ := Script.Stage.session_alike start jobs
    exact ⟨told, alike.bench.console, alike⟩
  · intro e n plain recorded
    have start : Engine.Alike (e.recordedTo sink) (e.recordedTo sink') :=
      ⟨_, rfl, benches e.bench⟩
    obtain ⟨alike, same⟩ := advance_related Engine.step_alike n start
    obtain ⟨b, rest, bench⟩ := id alike
    refine ⟨same, ?_, alike⟩
    rw [rest]
    exact bench.console

end ModemDialog
