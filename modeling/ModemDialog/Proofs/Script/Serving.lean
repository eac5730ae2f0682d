import ModemDialog.Proofs.Session.Timeline
import ModemDialog.Script.Run

/-! What comes of a step's request: on the bench at most one write, and to the machine no
more than another script on top or the end of a loop. -/
namespace ModemDialog.Script

def Request.writes : Request → List Bytes
  | .send command => [wire command]
  | _ => []

namespace Stage

theorem serve_send_bench (setup : Setup) (b : Bench) (m : Machine) (command : Text) :
    (serve setup b m (.send command)).1.bench = (b.send .script command setup.timeout).1 := by
  rw [serve]
  cases b.send .script command setup.timeout with
  | mk c result => cases result <;> rfl

theorem serve_orderly (setup : Setup) (b : Bench) (m : Machine) (request : Request) :
    Bench.Orderly b (serve setup b m request).1.bench request.writes := by
  cases request with
  | send command =>
      rw [serve_send_bench]
      exact b.send_orderly .script command setup.timeout
  | pause d => exact .of_rests (b.pause_line d).rests
  | hold => exact .of_rests b.hold_line.rests
  | load path script line =>
      rw [serve]
      split
      · exact .of_rests (b.notice_rests _)
      · exact .of_rests (b.notice_rests _)
  | nothing => exact .of_rests (.refl b)
  | finish outcome => exact .of_rests (.refl b)

theorem serve_keeps (setup : Setup) (b : Bench) (m : Machine) (request : Request)
    (other : ∀ path script line, request ≠ .load path script line) :
    (serve setup b m request).1.machine = m ∨
      (serve setup b m request).1.machine = m.dropLoop := by
  cases request with
  | send command =>
      rw [serve]
      split
      · exact .inl rfl
      · exact .inr rfl
  | load path script line => exact absurd rfl (other path script line)
  | _ => exact .inl rfl

theorem serve_machine (setup : Setup) (b : Bench) (m : Machine) (request : Request) :
    (serve setup b m request).1.machine = m ∨ (serve setup b m request).1.machine = m.dropLoop ∨
      ∃ s, (serve setup b m request).1.machine = (m.push s).1 := by
  by_cases loads : ∃ path script line, request = .load path script line
  · obtain ⟨path, script, line, rfl⟩ := loads
    rw [serve]
    split
    · rename_i s loaded
      exact .inr (.inr ⟨s, rfl⟩)
    · exact .inl rfl
  · have other : ∀ path script line, request ≠ .load path script line :=
      fun path script line same => loads ⟨path, script, line, same⟩
    exact (serve_keeps setup b m request other).imp id .inl

theorem step_of_alive {setup : Setup} {s : Stage} (alive : s.bench.alive = true) :
    s.step setup = serve setup (s.bench.notices s.machine.step.2.1) s.machine.step.1
      s.machine.step.2.2 := by
  rw [step, alive]
  rfl

end Stage
end ModemDialog.Script
