import ModemDialog.Proofs.Advance
import ModemDialog.Proofs.Script.Reading
import ModemDialog.Proofs.Session.Failing

/-! How a run of scripts ends. Only a write that fails is an error; the run then stops at once,
and is left as if the line that it was at had been carried out. -/
namespace ModemDialog

namespace Bench

/-- The device has refused the write `w` since `before`, when `earlier` had been written. -/
def Refuses (before after : Bench) (w : Write) (earlier : List Write) : Prop :=
  w :: earlier <:+ after.writes ∧ before.writes.length ≤ earlier.length ∧
    (before.device earlier w).refusal? ≠ none

theorem refuses_cons {before mid after : Bench} {w : Write}
    (wrote : after.writes = w :: mid.writes) {v : Write} {earlier : List Write}
    (refuses : Refuses before after v earlier) :
    v = w ∧ earlier = mid.writes ∨ Refuses before mid v earlier := by
  obtain ⟨suffix, since, refused⟩ := refuses
  rw [wrote] at suffix
  rcases List.suffix_cons_iff.mp suffix with same | within
  · exact .inl (List.cons.inj same)
  · exact .inr ⟨within, since, refused⟩

end Bench

namespace Script.Stage

variable {setup : Setup} {s : Stage}

theorem serve_unsent (setup : Setup) (b : Bench) (m : Machine) (request : Request)
    (other : ∀ command, request ≠ .send command) :
    (serve setup b m request).1.bench.device = b.device ∧
      (serve setup b m request).1.bench.writes = b.writes ∧
      ∀ fault, (serve setup b m request).2 ≠ some (.error fault) := by
  cases request with
  | send command => exact absurd rfl (other command)
  | pause d => exact ⟨(b.pause_line d).idles.device, (b.pause_line d).idles.writes, by simp [serve]⟩
  | hold => exact ⟨b.hold_line.idles.device, b.hold_line.idles.writes, by simp [serve]⟩
  | load path script line =>
      rw [serve]
      cases Script.load setup.files path <;> exact ⟨rfl, rfl, by simp⟩
  | nothing => simp [serve]
  | finish outcome => simp [serve]

theorem step_unsent (setup : Setup)
    (other : s.bench.alive = true → ∀ command, s.machine.step.2.2 ≠ .send command) :
    (s.step setup).1.bench.device = s.bench.device ∧
      (s.step setup).1.bench.writes = s.bench.writes ∧
      ∀ fault, (s.step setup).2 ≠ some (.error fault) := by
  cases alive : s.bench.alive with
  | false =>
      rw [step, alive]
      simp
  | true =>
      rw [step_of_alive alive]
      have served := serve_unsent setup (s.bench.notices s.machine.step.2.1) s.machine.step.1
        s.machine.step.2.2 (other alive)
      rwa [Bench.notices_device, Bench.notices_writes] at served

theorem step_sent (setup : Setup) {command : Text} (alive : s.bench.alive = true)
    (sends : s.machine.step.2.2 = .send command) :
    ∃ w : Write, w.data = wire command ∧
      (s.step setup).1.bench.writes = w :: s.bench.writes ∧
      (s.step setup).1.bench.device = s.bench.device ∧
      match (s.bench.device s.bench.writes w).refusal? with
      | some cause => (s.step setup).2 = some (.error ⟨command, cause⟩) ∧
          (s.step setup).1.machine = s.machine.step.1.dropLoop
      | none => (s.step setup).2 = none := by
  have lives : (s.bench.notices s.machine.step.2.1).alive = true :=
    (Bench.notices_alive _ _).trans alive
  have sent := (s.bench.notices s.machine.step.2.1).send_sends .script command setup.timeout
  have fault := Bench.faultOf_send (s.bench.notices s.machine.step.2.1) .script command
    setup.timeout
  rw [lives, Reply.failure?_of_alive] at fault
  simp only [Bench.notices_device, Bench.notices_writes] at sent fault
  have writes := sent.writes
  have device := sent.device
  rw [Bench.notices_writes] at writes
  rw [Bench.notices_device] at device
  refine ⟨⟨(s.bench.notices s.machine.step.2.1).clock, wire command⟩, rfl, ?_⟩
  rw [step_of_alive alive, sends]
  simp only [serve]
  cases told : (s.bench.notices s.machine.step.2.1).send .script command setup.timeout with
  | mk c result =>
      rw [told] at writes device fault
      cases result with
      | error f =>
          obtain ⟨cause, refused, rfl⟩ := Option.map_eq_some_iff.mp fault.symm
          rw [refused]
          exact ⟨writes, device, rfl, rfl⟩
      | ok response =>
          rw [Option.map_eq_none_iff.mp fault.symm]
          exact ⟨writes, device, rfl⟩

/-- What a run reports first that goes on behind the line. -/
def upcoming (r : Reading) (below : List Script) : Notice :=
  match r.remainder with
  | line :: _ => .directive r.script line
  | [] => .scriptLeft .ended r.script (below.head?.map Script.name)

def Continues (setup : Setup) (r : Reading) (below : List Script) (m : Machine) : Prop :=
  ∀ c : Bench, c.alive = true → ∃ events,
    (step setup ⟨c, m⟩).1.bench.history = c.history ++ .noticed (upcoming r below) :: events

theorem step_history (setup : Setup) (alive : s.bench.alive = true) {first : Notice}
    {notices : List Notice} (reports : s.machine.step.2.1 = first :: notices) :
    ∃ events, (s.step setup).1.bench.history = s.bench.history ++ .noticed first :: events := by
  obtain ⟨events, follows⟩ := (serve_orderly setup (s.bench.notices s.machine.step.2.1)
    s.machine.step.1 s.machine.step.2.2).follows
  refine ⟨notices.map .noticed ++ events.map Prod.snd, ?_⟩
  rw [step_of_alive alive, follows.history, Bench.notices_history, reports]
  simp

theorem behind_continues (setup : Setup) (r : Reading) (below : List Script) :
    Continues setup r below (r.behind below) := by
  intro c alive
  unfold upcoming Reading.behind
  cases r.remainder with
  | nil => exact step_history setup (s := ⟨c, _⟩) alive rfl
  | cons line rest => exact step_history setup (s := ⟨c, _⟩) alive rfl

def Reads (setup : Setup) (s : Stage) (n : Nat) (r : Reading) (below : List Script) : Prop :=
  ∃ k < n, ∃ c, advance (step setup) k s = (⟨c, r.ahead below⟩, none)

theorem reads_succ {n : Nat} {t : Stage} (reached : advance (step setup) n s = (t, none))
    {r : Reading} {below : List Script}
    (read : Reads setup s n r below ∨ t.machine = r.ahead below) :
    Reads setup s (n + 1) r below := by
  rcases read with ⟨k, lt, c, earlier⟩ | here
  · exact ⟨k, Nat.lt_succ_of_lt lt, c, earlier⟩
  · exact ⟨n, Nat.lt_succ_self n, t.bench, by rw [reached, ← here]⟩

/-- A run that goes on has had no write refused, and is at a line that it has read. -/
structure UnderWay (setup : Setup) (s : Stage) (n : Nat) (t : Stage) : Prop where
  busy : Busy (Reads setup s n) t.machine
  device : t.bench.device = s.bench.device
  accepted : ∀ w earlier, ¬ Bench.Refuses s.bench t.bench w earlier
  since : s.bench.writes.length ≤ t.bench.writes.length

theorem alive_of_goesOn (goesOn : (s.step setup).2 = none) : s.bench.alive = true := by
  cases alive : s.bench.alive with
  | true => rfl
  | false =>
      rw [step, alive] at goesOn
      cases goesOn

theorem UnderWay.start (setup : Setup) {s : Stage} (idle : s.machine.loop = none) :
    UnderWay setup s 0 s := by
  refine ⟨.inl idle, rfl, fun w earlier refuses => ?_, Nat.le_refl _⟩
  obtain ⟨written, since, -⟩ := refuses
  have longer := written.length_le
  rw [List.length_cons] at longer
  omega

theorem UnderWay.step {n : Nat} {t u : Stage} (h : UnderWay setup s n t)
    (reached : advance (step setup) n s = (t, none)) (stepped : t.step setup = (u, none)) :
    UnderWay setup s (n + 1) u := by
  have goesOn : (t.step setup).2 = none := by rw [stepped]
  have alive := alive_of_goesOn goesOn
  have served := h.busy.serve setup (t.bench.notices t.machine.step.2.1)
  rw [← step_of_alive alive, stepped] at served
  have busy : Busy (Reads setup s (n + 1)) u.machine :=
    served.mono fun r below => reads_succ reached
  -- Only a step that sends has a write that can be refused, and then the run does not go on.
  by_cases sends : ∃ command, t.machine.step.2.2 = .send command
  · obtain ⟨command, sends⟩ := sends
    obtain ⟨w, -, writes, device, answered⟩ := step_sent setup alive sends
    rw [stepped] at writes device answered
    have accepted : (s.bench.device t.bench.writes w).refusal? = none := by
      rw [← h.device]
      cases refusal : (t.bench.device t.bench.writes w).refusal? with
      | none => rfl
      | some cause =>
          rw [refusal] at answered
          cases answered.1
    refine ⟨busy, device.trans h.device, fun v earlier refuses => ?_, ?_⟩
    · rcases Bench.refuses_cons writes refuses with ⟨rfl, rfl⟩ | before
      · exact refuses.2.2 accepted
      · exact h.accepted v earlier before
    · rw [writes, List.length_cons]
      exact Nat.le_succ_of_le h.since
  · have other : ∀ command, t.machine.step.2.2 ≠ .send command :=
      fun command same => sends ⟨command, same⟩
    obtain ⟨device, writes, -⟩ := step_unsent setup fun _ => other
    rw [stepped] at device writes
    refine ⟨busy, device.trans h.device, fun v earlier refuses => ?_, writes ▸ h.since⟩
    refine h.accepted v earlier ?_
    rwa [Bench.Refuses, ← writes]

theorem advance_underWay (idle : s.machine.loop = none) {n : Nat} {t : Stage}
    (reached : advance (step setup) n s = (t, none)) : UnderWay setup s n t := by
  induction n generalizing t with
  | zero =>
      obtain ⟨rfl, -⟩ := Prod.mk.inj reached
      exact .start setup idle
  | succ n ih =>
      have last := reached
      rw [advance_succ] at last
      cases before : advance (step setup) n s with
      | mk u ending =>
          rw [before] at last
          cases ending with
          | some ending => cases last
          | none => exact (ih before).step before last

/-- The run has failed: the last write was refused, and the machine is behind the line that it
was made for. -/
structure Failed (setup : Setup) (s : Stage) (n : Nat) (t : Stage) (fault : SendFault)
    (r : Reading) (below : List Script) : Prop where
  reads : Reads setup s n r below
  command : fault.command ∈ r.commands
  machine : t.machine = r.behind below
  continues : Continues setup r below t.machine
  refused : ∃ w earlier, t.bench.writes = w :: earlier ∧ w.data = wire fault.command ∧
    (s.bench.device earlier w).refusal? = some fault.cause ∧
    s.bench.writes.length ≤ earlier.length

/-- The run has been handed over to the operator: its last step has read the line `r`. -/
structure HandedOver (setup : Setup) (s : Stage) (n : Nat) (t : Stage) (r : Reading)
    (below : List Script) : Prop where
  manual : Directive.parse r.line.text = .manual
  machine : t.machine = ⟨⟨r.script, r.rest⟩ :: below, none⟩
  continues : Continues setup r below t.machine
  last : ∃ k < n, ∃ c, advance (step setup) k s = (⟨c, r.ahead below⟩, none) ∧
    step setup ⟨c, r.ahead below⟩ = (t, some (.ok .interactive))

def Left (setup : Setup) (s : Stage) (n : Nat) (t : Stage) : Ending → Prop
  | .ok .exhausted => t.machine = .empty ∧ t.bench.alive = true
  | .ok .interactive => ∃ r below, HandedOver setup s n t r below
  | .ok .halted => t.bench.alive = false ∧ t.machine.loop = none
  | .error fault => ∃ r below, Failed setup s n t fault r below

theorem UnderWay.left {n : Nat} {t u : Stage} {ending : Ending} (h : UnderWay setup s n t)
    (reached : advance (Stage.step setup) n s = (t, none))
    (stepped : t.step setup = (u, some ending)) : Left setup s (n + 1) u ending := by
  cases alive : t.bench.alive with
  | false =>
      rw [Stage.step, alive] at stepped
      obtain ⟨rfl, same⟩ := Prod.mk.inj stepped
      obtain rfl := Option.some.inj same
      exact ⟨alive, rfl⟩
  | true =>
      cases request : t.machine.step.2.2 with
      | send command =>
          obtain ⟨w, data, writes, -, answered⟩ := step_sent setup alive request
          obtain ⟨r, below, read, member, behind⟩ := h.busy.sends request
          rw [stepped, h.device] at answered
          rw [stepped] at writes
          cases refusal : (s.bench.device t.bench.writes w).refusal? with
          | none =>
              rw [refusal] at answered
              cases answered
          | some cause =>
              rw [refusal] at answered
              obtain ⟨same, machine⟩ := answered
              obtain rfl := Option.some.inj same
              have left := machine.trans behind
              exact ⟨r, below, reads_succ reached read, member, left,
                left ▸ behind_continues setup r below, w, _, writes, data, refusal, h.since⟩
      | finish outcome =>
          have last := stepped
          rw [step_of_alive alive, request] at last
          obtain ⟨rfl, same⟩ := Prod.mk.inj last
          obtain rfl := Option.some.inj same
          rcases h.busy.finishes request with ⟨rfl, empty⟩ | ⟨rfl, r, below, here, manual, behind⟩
          · refine ⟨?_, (Bench.notices_alive _ _).trans alive⟩
            rw [empty]
            rfl
          · refine ⟨r, below, manual, behind.trans ?_, behind ▸ behind_continues setup r below,
              n, Nat.lt_succ_self n, t.bench, ?_, ?_⟩
            · rw [Reading.behind, Reading.remainder, ScriptLine.opens, manual]
              rfl
            · rw [reached, ← here]
            · rw [← stepped, ← here]
      | load path script line =>
          rw [step_of_alive alive, request, serve] at stepped
          split at stepped <;> cases stepped
      | _ =>
          rw [step_of_alive alive, request] at stepped
          cases stepped

theorem UnderWay.refuses_iff {n : Nat} {t u : Stage} {ending : Ending} (h : UnderWay setup s n t)
    (left : Left setup s (n + 1) u ending) (stepped : t.step setup = (u, some ending)) :
    (∃ fault, ending = .error fault) ↔ ∃ w earlier, Bench.Refuses s.bench u.bench w earlier := by
  constructor
  · rintro ⟨fault, rfl⟩
    obtain ⟨r, below, failed⟩ := left
    obtain ⟨w, earlier, writes, -, refused, since⟩ := failed.refused
    exact ⟨w, earlier, writes ▸ List.suffix_refl _, since, by simp [refused]⟩
  · rintro ⟨w, earlier, refuses⟩
    by_cases sends : t.bench.alive = true ∧ ∃ command, t.machine.step.2.2 = .send command
    · obtain ⟨alive, command, request⟩ := sends
      obtain ⟨v, -, writes, -, answered⟩ := step_sent setup alive request
      rw [stepped, h.device] at answered
      rw [stepped] at writes
      rcases Bench.refuses_cons writes refuses with ⟨rfl, rfl⟩ | before
      · cases refusal : (s.bench.device t.bench.writes w).refusal? with
        | none => exact absurd refusal refuses.2.2
        | some cause =>
            rw [refusal] at answered
            exact ⟨_, Option.some.inj answered.1⟩
      · exact absurd before (h.accepted w earlier)
    · have other := step_unsent setup fun alive command same => sends ⟨alive, command, same⟩
      rw [stepped] at other
      refine absurd ?_ (h.accepted w earlier)
      rwa [Bench.Refuses, ← other.2.1]

theorem Left.mono {m n : Nat} {t : Stage} {ending : Ending} (h : Left setup s m t ending)
    (le : m ≤ n) : Left setup s n t ending := by
  cases ending with
  | error fault =>
      obtain ⟨r, below, failed⟩ := h
      obtain ⟨k, lt, read⟩ := failed.reads
      exact ⟨r, below, { failed with reads := ⟨k, Nat.lt_of_lt_of_le lt le, read⟩ }⟩
  | ok outcome =>
      cases outcome with
      | interactive =>
          obtain ⟨r, below, handed⟩ := h
          obtain ⟨k, lt, last⟩ := handed.last
          exact ⟨r, below, { handed with last := ⟨k, Nat.lt_of_lt_of_le lt le, last⟩ }⟩
      | _ => exact h

theorem left_of_ended (idle : s.machine.loop = none) {n : Nat} {t : Stage} {ending : Ending}
    (ended : advance (step setup) n s = (t, some ending)) : Left setup s n t ending := by
  obtain ⟨k, lt, u, reached, stepped⟩ := exists_step_of_ended ended
  exact ((advance_underWay idle reached).left reached stepped).mono lt

theorem refuses_iff_of_ended (idle : s.machine.loop = none) {n : Nat} {t : Stage}
    {ending : Ending} (ended : advance (step setup) n s = (t, some ending)) :
    (∃ fault, ending = .error fault) ↔ ∃ w earlier, Bench.Refuses s.bench t.bench w earlier := by
  obtain ⟨k, -, u, reached, stepped⟩ := exists_step_of_ended ended
  have under := advance_underWay idle reached
  exact under.refuses_iff (under.left reached stepped) stepped

/-- What the outcome of a run means. Of each stack, on each bench and however far the run is
followed: it ends with its scripts used up, behind a line that hands over to the operator, or
because the session was stopped; or with an error, and this just if a write has been refused.
That is the last one then, and a later run goes on behind the line that the command or its loop
stood in. -/
theorem run_ends_as_outcome_says (setup : Setup) (b : Bench) (stack : List Script) (n : Nat) :
    let s : Stage := ⟨b, ⟨stack, none⟩⟩
    let run := advance (step setup) n s
    (∀ ending ∈ run.2, Left setup s n run.1 ending) ∧
      ((∃ fault, run.2 = some (.error fault)) ↔
        ∃ w earlier, Bench.Refuses b run.1.bench w earlier) := by
  intro s run
  cases ran : advance (step setup) n s with
  | mk t ending =>
      have same : run = (t, ending) := ran
      rw [same]
      cases ending with
      | none =>
          have under := advance_underWay (s := s) rfl ran
          refine ⟨by simp, by simp, ?_⟩
          rintro ⟨w, earlier, refuses⟩
          exact absurd refuses (under.accepted w earlier)
      | some ending =>
          refine ⟨fun other same => ?_, ?_⟩
          · obtain rfl := Option.some.inj same
            exact left_of_ended (s := s) rfl ran
          · simpa using refuses_iff_of_ended (s := s) rfl ran

/-- A script that hands over to the operator between two commands, on a device that takes only
the first one. -/
def handingStage : Stage where
  bench := .start (fun earlier w =>
      if earlier = [] then .ofData (w.data ++ Utf8.encode "\r\nOK\r\n".toList)
      else { Reply.silence with fails := some "unplugged".toList })
    Sentry.defaults (.ofMillis 10) .none
  machine := ⟨[.ofText "a.scom".toList "AT+A\nenman\nAT+B\nAT+C".toList], none⟩

def handingSetup : Setup := ⟨.bare, .ofMillis 50⟩

theorem run_ends_as_outcome_says_of_handingStage :
    let run := advance (step handingSetup) 4 handingStage
    let behind : Stage := ⟨run.1.bench, ⟨run.1.machine.stack, none⟩⟩
    let rerun := advance (step handingSetup) 4 behind
    (run.2 = some (.ok .interactive) ∧
        ∃ r below, HandedOver handingSetup handingStage 4 run.1 r below) ∧
      rerun.2 = some (.error ⟨"AT+B".toList, "unplugged".toList⟩) ∧
        (∃ r below, Failed handingSetup behind 4 rerun.1
          ⟨"AT+B".toList, "unplugged".toList⟩ r below) ∧
        ∃ w earlier, Bench.Refuses run.1.bench rerun.1.bench w earlier := by
  intro run behind rerun
  have handed : run.2 = some (.ok .interactive) := by decide +kernel
  have failed : rerun.2 = some (.error ⟨"AT+B".toList, "unplugged".toList⟩) := by decide +kernel
  obtain ⟨left, -⟩ := run_ends_as_outcome_says handingSetup handingStage.bench
    handingStage.machine.stack 4
  obtain ⟨left', refuses⟩ := run_ends_as_outcome_says handingSetup run.1.bench
    run.1.machine.stack 4
  exact ⟨⟨handed, left _ handed⟩, failed, left' _ failed, refuses.mp ⟨_, failed⟩⟩

end Script.Stage
end ModemDialog
