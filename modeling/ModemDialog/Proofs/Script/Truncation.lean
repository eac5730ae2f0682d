import ModemDialog.Proofs.Advance
import ModemDialog.Proofs.Script.Serving
import ModemDialog.Proofs.Session.Parting

/-! A run of the script machine that is stopped from outside goes as the run does that is
not, up to the moment of the stop, and then comes to its end without another write. -/
namespace ModemDialog.Script

open Bench (Doomed Severed Passed Follows faultOf)

namespace Machine

theorem stepLine_ne_hold (s : Script) (line : ScriptLine) (below : List Script) :
    (stepLine s line below).2.2 ≠ .hold := by
  unfold stepLine
  cases Directive.parse line.text with
  | loopBegin rounds =>
      dsimp only
      split
      · unfold beginLoop
        split <;> simp
      · simp
  | run path => cases path <;> simp
  | invalid keyword fault =>
      dsimp only
      split
      · split <;> simp
      · simp
  | _ => simp

theorem step_of_hold {m : Machine} (holds : m.step.2.2 = .hold) : m.step = (m, [], .hold) := by
  obtain ⟨stack, loop⟩ := m
  cases loop with
  | some run =>
      obtain ⟨actions, left, round, todo⟩ := run
      cases todo with
      | cons a todo => cases a <;> cases holds
      | nil =>
          cases left with
          | some n => cases n <;> cases holds
          | none =>
              cases actions with
              | nil => rfl
              | cons a actions => cases holds
  | none =>
      cases stack with
      | nil => cases holds
      | cons s below =>
          obtain ⟨name, pending⟩ := s
          cases pending with
          | nil => cases holds
          | cons line rest => exact absurd holds (stepLine_ne_hold _ _ _)

end Machine

namespace Stage

variable {setup : Setup} {i : Interruption}

/-- Nothing but the end of the session is waited for, and nothing is to come. -/
structure Held (s : Stage) : Prop where
  holds : s.machine.step.2.2 = .hold
  agenda : s.bench.agenda = []

theorem Held.step {s : Stage} (h : s.Held) (alive : s.bench.alive = true) (setup : Setup) :
    s.step setup = (s, none) := by
  have stays : s.bench.hold = s.bench := by
    rw [Bench.hold, h.agenda]
    rfl
  rw [Stage.step, alive, Machine.step_of_hold h.holds]
  show (⟨s.bench.hold, s.machine⟩, none) = (s, none)
  rw [stays]

theorem step_follows (setup : Setup) (s : Stage) :
    ∃ events, Follows s.bench (s.step setup).1.bench events := by
  rw [step]
  split
  · exact ⟨[], .refl _⟩
  · obtain ⟨events, noticed⟩ := (s.bench.notices_rests s.machine.step.2.1).follows
    obtain ⟨later, served⟩ := (serve_orderly setup (s.bench.notices s.machine.step.2.1)
      s.machine.step.1 s.machine.step.2.2).follows
    exact ⟨_, noticed.trans served⟩

theorem advance_follows (setup : Setup) (n : Nat) (s : Stage) :
    ∃ events, Follows s.bench (advance (step setup) n s).1.bench events := by
  refine advance_invariant (fun t : Stage => ∃ events, Follows s.bench t.bench events)
    (fun t ⟨events, follows⟩ => ?_) n ⟨[], .refl _⟩
  obtain ⟨later, stepped⟩ := step_follows setup t
  exact ⟨_, follows.trans stepped⟩

/-- Two runs have come to the same, but for an interruption to come in the second. -/
structure Abreast (i : Interruption) (r r' : Stage × Option Ending) : Prop where
  bench : Doomed i r.1.bench r'.1.bench
  machine : r'.1.machine = r.1.machine
  ending : r'.2 = r.2

theorem serve_doomed {b b' : Bench} (h : Doomed i b b') (m : Machine) (request : Request)
    (lives : (serve setup b m request).1.bench.alive = true) :
    Abreast i (serve setup b m request) (serve setup b' m request) ∧
        (request = .hold → ∃ index, i = .answering index) ∨
      Severed i b (serve setup b m request).1.bench (serve setup b' m request).1.bench
          ((serve setup b' m request).2.bind faultOf) ∧
        (∀ outcome, (serve setup b' m request).2 ≠ some (.ok outcome)) ∧
        (Passed (serve setup b m request).1.bench i ∨
          request = .hold ∧ (serve setup b m request).1.bench.agenda = []) := by
  cases request with
  | send command =>
      have alike := h.send .script command setup.timeout
      rcases sent : b.send .script command setup.timeout with ⟨c, result⟩
      rcases sent' : b'.send .script command setup.timeout with ⟨c', result'⟩
      rw [sent, sent'] at alike
      simp only [serve, sent, sent'] at lives ⊢
      have alive : c.alive = true := by cases result <;> exact lives
      rcases alike alive with ⟨kept, same⟩ | ⟨severed, passed⟩
      · obtain rfl : result' = result := same
        cases result' <;> exact .inl ⟨⟨kept, rfl, rfl⟩, fun other => by cases other⟩
      · cases result <;> cases result' <;> exact .inr ⟨severed, by simp, .inl passed⟩
  | pause d =>
      rcases h.pause lives with kept | ⟨severed, passed⟩
      · exact .inl ⟨⟨kept, rfl, rfl⟩, fun other => by cases other⟩
      · exact .inr ⟨severed, by simp [serve], .inl passed⟩
  | hold =>
      rcases h.hold lives with ⟨index, answering, kept⟩ | ⟨severed, held⟩
      · exact .inl ⟨⟨kept, rfl, rfl⟩, fun _ => ⟨index, answering⟩⟩
      · exact .inr ⟨severed, by simp [serve], .inr ⟨rfl, held⟩⟩
  | load path script line =>
      refine .inl ⟨?_, fun other => by cases other⟩
      rw [serve, serve]
      cases load setup.files path with
      | ok s => exact ⟨h.blind (.notice _), rfl, rfl⟩
      | error fault => exact ⟨h.blind (.notice _), rfl, rfl⟩
  | nothing => exact .inl ⟨⟨h, rfl, rfl⟩, fun other => by cases other⟩
  | finish outcome => exact .inl ⟨⟨h, rfl, rfl⟩, fun other => by cases other⟩

/-- One step: it ends alike on both stages, or the interruption has fallen into it. -/
theorem step_doomed {s s' : Stage} (h : Doomed i s.bench s'.bench)
    (same : s'.machine = s.machine) (lives : (s.step setup).1.bench.alive = true) :
    Abreast i (s.step setup) (s'.step setup) ∧ (s.Held → ∃ index, i = .answering index) ∨
      Severed i s.bench (s.step setup).1.bench (s'.step setup).1.bench
          ((s'.step setup).2.bind faultOf) ∧
        (∀ outcome, (s'.step setup).2 ≠ some (.ok outcome)) ∧
        (Passed (s.step setup).1.bench i ∨ (s.step setup).1.Held) := by
  obtain ⟨events, follows⟩ := step_follows setup s
  have alive := follows.alive lives
  rw [step_of_alive alive] at lives ⊢
  rw [step_of_alive (h.alive.trans alive), same]
  have noticed := h.blind (.notices s.machine.step.2.1)
  rcases serve_doomed noticed s.machine.step.1 s.machine.step.2.2 lives with
    ⟨abreast, held⟩ | ⟨severed, goesOn, onward⟩
  · exact .inl ⟨abreast, fun h => held h.holds⟩
  · refine .inr ⟨severed.precede (Bench.notices_rests _ _).follows, goesOn, onward.imp id ?_⟩
    rintro ⟨holds, agenda⟩
    rw [Machine.step_of_hold holds] at agenda ⊢
    exact ⟨holds, agenda⟩

/-- Interrupted, the run from `s'` ends by itself; it is the run from `s` to `t` up to the
interruption, and no command is written from there on. -/
def CutOff (setup : Setup) (i : Interruption) (s s' t : Stage) : Prop :=
  ∃ fuel final ending, s'.run setup fuel = some (final, ending) ∧
    (∀ outcome, ending = .ok outcome → outcome = .halted) ∧
    Severed i s.bench t.bench final.bench (faultOf ending)

theorem CutOff.of_step {s s' t t' : Stage} {n : Nat}
    (reached : advance (step setup) n s' = (t', none))
    (severed : Severed i s.bench (t.step setup).1.bench (t'.step setup).1.bench
      ((t'.step setup).2.bind faultOf))
    (goesOn : ∀ outcome, (t'.step setup).2 ≠ some (.ok outcome)) :
    CutOff setup i s s' (t.step setup).1 := by
  have next : advance (step setup) (n + 1) s' = t'.step setup := by rw [advance_succ, reached]
  cases stepped : t'.step setup with
  | mk u ending =>
      rw [stepped] at severed goesOn next
      cases ending with
      | some ending =>
          cases ending with
          | ok outcome => exact absurd rfl (goesOn outcome)
          | error fault =>
              refine ⟨n + 1, u, .error fault, by rw [run_eq_advance, next]; rfl, ?_, severed⟩
              exact fun outcome other => by cases other
      | none =>
          have halts : u.step setup = (⟨u.bench, u.machine.dropLoop⟩, some (.ok .halted)) := by
            rw [step, severed.dead]
            rfl
          refine ⟨n + 2, ⟨u.bench, u.machine.dropLoop⟩, .ok .halted, ?_, ?_, severed⟩
          · rw [run_eq_advance, advance_succ, next]
            dsimp only
            rw [halts]
            rfl
          · exact fun outcome same => (Except.ok.inj same).symm

theorem CutOff.extend {s s' t u : Stage} (h : CutOff setup i s s' t) (passed : Passed t.bench i)
    (further : ∃ events, Follows t.bench u.bench events) : CutOff setup i s s' u := by
  obtain ⟨fuel, final, ending, ends, halts, severed⟩ := h
  exact ⟨fuel, final, ending, ends, halts, severed.extend passed further (.refl _)⟩

theorem advance_doomed {s s' : Stage} (h : Doomed i s.bench s'.bench)
    (same : s'.machine = s.machine) (n : Nat)
    (lives : (advance (step setup) n s).1.bench.alive = true) :
    Abreast i (advance (step setup) n s) (advance (step setup) n s') ∨
      CutOff setup i s s' (advance (step setup) n s).1 ∧
        (Passed (advance (step setup) n s).1.bench i ∨ (advance (step setup) n s).1.Held) := by
  -- Alike up to a step into which the interruption falls. What the first run does from there
  -- on comes after it: its time has passed, or nothing is done any more.
  induction n with
  | zero => exact .inl ⟨h, same, rfl⟩
  | succ n ih =>
      have lead := advance_follows setup n s
      rw [advance_succ] at lives ⊢
      rw [advance_succ]
      rcases advanced : advance (step setup) n s with ⟨t, ending⟩
      rcases advanced' : advance (step setup) n s' with ⟨t', ending'⟩
      rw [advanced, advanced'] at ih
      rw [advanced] at lives lead
      cases ending with
      | some ending =>
          rcases ih lives with ⟨kept, machine, ended⟩ | cut
          · obtain rfl : ending' = some ending := ended
            exact .inl ⟨kept, machine, rfl⟩
          · exact .inr cut
      | none =>
          obtain ⟨events, follows⟩ := step_follows setup t
          have alive := follows.alive lives
          rcases ih alive with ⟨kept, machine, ended⟩ | ⟨cut, passed | held⟩
          · obtain rfl : ending' = none := ended
            rcases step_doomed kept machine lives with ⟨abreast, -⟩ | ⟨severed, goesOn, onward⟩
            · exact .inl abreast
            · exact .inr ⟨.of_step advanced' (severed.precede lead) goesOn, onward⟩
          · have passed' := passed.mono follows.clock
            exact .inr ⟨cut.extend passed ⟨events, follows⟩, .inl passed'⟩
          · dsimp only
            rw [held.step alive setup]
            exact .inr ⟨cut, .inr held⟩

/-- A run that is never stopped, compared with one that differs in an interruption only. As
long as this has not come, both are alike, and the first is not waiting for the end of the
session alone if the interruption comes at a time. Else the second comes to its end by itself,
halted or with the error of the very write that was answered by the stop: up to that moment it
is the first run, and from there on it writes nothing. -/
theorem interrupted_run_is_cut_off {s s' : Stage} (doomed : Doomed i s.bench s'.bench)
    (same : s'.machine = s.machine) (n : Nat)
    (lives : (advance (step setup) n s).1.bench.alive = true) :
    Abreast i (advance (step setup) n s) (advance (step setup) n s') ∧
        (∀ time a, i = .waiting time a → (advance (step setup) n s).2 = none →
          ¬ (advance (step setup) n s).1.Held) ∨
      CutOff setup i s s' (advance (step setup) n s).1 := by
  rcases advance_doomed doomed same n lives with abreast | ⟨cut, -⟩
  · -- A run that only waits for the end is one into which the interruption falls with the next
    -- step; that leaves the first run as it is.
    by_cases waits : (∃ time a, i = .waiting time a) ∧ (advance (step setup) n s).2 = none ∧
      (advance (step setup) n s).1.Held
    · obtain ⟨⟨time, a, rfl⟩, goesOn, held⟩ := waits
      have stays := held.step lives setup
      have reached : advance (step setup) n s' = ((advance (step setup) n s').1, none) := by
        rw [← goesOn, ← abreast.ending]
      rcases step_doomed abreast.bench abreast.machine (by rw [stays]; exact lives) with
        ⟨-, answers⟩ | ⟨severed, ends, -⟩
      · obtain ⟨index, other⟩ := answers held
        cases other
      · have cut := CutOff.of_step reached (severed.precede (advance_follows setup n s)) ends
        rw [stays] at cut
        exact .inr cut
    · exact .inl ⟨abreast, fun time a at_time goesOn held =>
        waits ⟨⟨time, a, at_time⟩, goesOn, held⟩⟩
  · exact .inr cut

def promptReply (_ : List Write) (w : Write) : Reply :=
  .ofData (w.data ++ Utf8.encode "\r\nOK\r\n".toList)

/-- A script that sends a command twice, on a device that answers at once. -/
def twiceStage : Stage where
  bench := .start promptReply Sentry.defaults (.ofMillis 10) .none
  machine := ⟨[.ofText "a.scom".toList "loopbegin iter 2\nAT+A\nsleep 20ms\nloopend".toList], none⟩

def twiceSetup : Setup := ⟨.bare, .ofMillis 100⟩

def sleepyStage : Stage := { twiceStage with bench := twiceStage.bench.plan 5 .stop }

def answeredStage : Stage :=
  { twiceStage with bench.device := fun earlier w =>
      if earlier.length = 1 then { promptReply earlier w with stops := true }
      else promptReply earlier w }

theorem interrupted_run_is_cut_off_of_twiceStage :
    CutOff twiceSetup (.waiting 5 .stop) twiceStage sleepyStage
        (advance (step twiceSetup) 10 twiceStage).1 ∧
      CutOff twiceSetup (.answering 1) twiceStage answeredStage
        (advance (step twiceSetup) 10 twiceStage).1 := by
  have lives : (advance (step twiceSetup) 10 twiceStage).1.bench.alive = true := by
    decide +kernel
  have clock : (advance (step twiceSetup) 10 twiceStage).1.bench.clock = 40 := by
    decide +kernel
  have writes : (advance (step twiceSetup) 10 twiceStage).1.bench.writes.length = 2 := by
    decide +kernel
  have sleepy : Doomed (.waiting 5 .stop) twiceStage.bench sleepyStage.bench :=
    .waiting [] [] rfl rfl (List.pairwise_singleton _ _) (Nat.zero_le _) rfl
  have answered : Doomed (.answering 1) twiceStage.bench answeredStage.bench := by
    refine .answering _ rfl (fun earlier w fewer => ?_) (Nat.zero_le _) fun earlier w one => ?_
    · exact if_neg (Nat.ne_of_lt fewer)
    · exact .inl (by rw [if_pos one])
  constructor
  · rcases interrupted_run_is_cut_off sleepy rfl 10 lives with ⟨kept, -⟩ | cut
    · exact absurd kept.bench.clock_le (by rw [clock]; decide)
    · exact cut
  · rcases interrupted_run_is_cut_off answered rfl 10 lives with ⟨kept, -⟩ | cut
    · exact absurd kept.bench.writes_le (by rw [writes]; decide)
    · exact cut

end Stage
end ModemDialog.Script
