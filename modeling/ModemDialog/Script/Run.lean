import ModemDialog.Script.File
import ModemDialog.Script.Machine
import ModemDialog.Session

/-! The script machine at work on a bench. -/
namespace ModemDialog.Script

structure Setup where
  files : FileTree
  timeout : Duration

structure Stage where
  bench : Bench
  machine : Machine

abbrev Ending := Except SendFault Outcome

namespace Stage

/-- Do what a step asks for. A command that cannot be written ends the run, and
the loop it stood in. -/
def serve (setup : Setup) (b : Bench) (m : Machine) : Request → Stage × Option Ending
  | .send command =>
      match b.send .script command setup.timeout with
      | (b, .ok _) => (⟨b, m⟩, none)
      | (b, .error fault) => (⟨b, m.dropLoop⟩, some (.error fault))
  | .pause d => (⟨b.pause d, m⟩, none)
  | .hold => (⟨b.hold, m⟩, none)
  | .load path script line =>
      match load setup.files path with
      | .ok s =>
          let (m, entered) := m.push s
          (⟨b.notice entered, m⟩, none)
      | .error fault => (⟨b.notice (.includeFailed script line fault), m⟩, none)
  | .nothing => (⟨b, m⟩, none)
  | .finish outcome => (⟨b, m⟩, some (.ok outcome))

/-- One step; a stopped session takes none. -/
def step (setup : Setup) (s : Stage) : Stage × Option Ending :=
  if !s.bench.alive then (⟨s.bench, s.machine.dropLoop⟩, some (.ok .halted))
  else
    let (m, notices, request) := s.machine.step
    serve setup (s.bench.notices notices) m request

def run (setup : Setup) : (fuel : Nat) → Stage → Option (Stage × Ending)
  | 0, _ => none
  | fuel + 1, s =>
      match s.step setup with
      | (s, some ending) => some (s, ending)
      | (s, none) => run setup fuel s

end Stage
end ModemDialog.Script
