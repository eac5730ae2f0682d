import ModemDialog.Proofs.Script.Meaning
import ModemDialog.Proofs.Session.Written
import ModemDialog.Script.Run

/-! The runs of a script with the operator's turns between them, and what a step of the
machine contributes to them on a calm bench. -/
namespace ModemDialog.Script
namespace Stage

/-- Run the scripts, and run them again each time they hand over to the operator, who
then does `operator` of what is there: so many calls of so many steps each, at most. -/
def rerun (setup : Setup) (operator : Stage → List Act) :
    (calls fuel : Nat) → Stage → Option (Stage × Ending)
  | 0, _, _ => none
  | calls + 1, fuel, s =>
      match s.run setup fuel with
      | some (s, .ok .interactive) =>
          rerun setup operator calls fuel { s with bench := s.bench.session (operator s) }
      | result => result

theorem run_mono {setup : Setup} {fuel more : Nat} {s : Stage} {result : Stage × Ending}
    (le : fuel ≤ more) (runs : s.run setup fuel = some result) :
    s.run setup more = some result := by
  induction fuel generalizing s more with
  | zero => cases runs
  | succ fuel ih =>
      cases more with
      | zero => exact absurd le (Nat.not_succ_le_zero fuel)
      | succ more =>
          unfold run at runs ⊢
          cases stepped : s.step setup with
          | mk next ending =>
              rw [stepped] at runs
              cases ending with
              | some ending => exact runs
              | none => exact ih (Nat.le_of_succ_le_succ le) runs

variable {setup : Setup} {operator : Stage → List Act}

theorem rerun_of_run {calls fuel more : Nat} {s t : Stage} {result : Stage × Ending}
    (le : fuel ≤ more)
    (follows : ∀ result, s.run setup fuel = some result → t.run setup more = some result)
    (runs : s.rerun setup operator calls fuel = some result) :
    t.rerun setup operator calls more = some result := by
  induction calls generalizing s t with
  | zero => cases runs
  | succ calls ih =>
      unfold rerun at runs ⊢
      cases ran : s.run setup fuel with
      | none => simp [ran] at runs
      | some pair =>
          rw [ran] at runs
          rw [follows pair ran]
          obtain ⟨u, ending⟩ := pair
          cases ending with
          | error fault => exact runs
          | ok outcome =>
              cases outcome with
              | interactive => exact ih (fun result => run_mono le) runs
              | _ => exact runs

def Ends (setup : Setup) (operator : Stage → List Act) (s : Stage) (result : Stage × Ending) :
    Prop :=
  ∃ calls fuel, s.rerun setup operator calls fuel = some result

namespace Ends

variable {s t : Stage} {result : Stage × Ending}

theorem of_step (stepped : s.step setup = (t, none)) (h : Ends setup operator t result) :
    Ends setup operator s result := by
  obtain ⟨calls, fuel, runs⟩ := h
  refine ⟨calls, fuel + 1, rerun_of_run (Nat.le_succ fuel) (fun result ran => ?_) runs⟩
  rw [run, stepped]
  exact ran

theorem of_interactive (stepped : s.step setup = (t, some (.ok .interactive)))
    (h : Ends setup operator { t with bench := t.bench.session (operator t) } result) :
    Ends setup operator s result := by
  obtain ⟨calls, fuel, runs⟩ := h
  refine ⟨calls + 1, fuel + 1, ?_⟩
  rw [rerun, run, stepped]
  exact rerun_of_run (Nat.le_succ fuel) (fun result => run_mono (Nat.le_succ fuel)) runs

theorem of_exhausted (stepped : s.step setup = (t, some (.ok .exhausted))) :
    Ends setup operator s (t, .ok .exhausted) :=
  ⟨1, 1, by rw [rerun, run, stepped]⟩

end Ends
end Stage

namespace Machine

def Quiet (notices : List Notice) : Prop := ∀ n ∈ notices, (Event.noticed n).quiet = true

theorem stepLoop_quiet (stack : List Script) (run : LoopRun) :
    Quiet (stepLoop stack run).2.1 := by
  unfold stepLoop
  split <;> simp [Quiet, Event.quiet, Event.aside]

theorem beginLoop_quiet (stack : List Script) (plan : LoopPlan) :
    Quiet (beginLoop stack plan).2.1 := by
  unfold beginLoop
  split <;> simp [Quiet, Event.quiet, Event.aside]

theorem stepLine_quiet (s : Script) (line : ScriptLine) (below : List Script) :
    Quiet (stepLine s line below).2.1 := by
  unfold stepLine
  cases Directive.parse line.text with
  | loopBegin rounds =>
      dsimp only
      split
      · exact beginLoop_quiet _ _
      · simp [Quiet, Event.quiet, Event.aside]
  | run path => cases path <;> simp [Quiet, Event.quiet, Event.aside]
  | invalid keyword fault =>
      dsimp only
      split
      · split <;> simp [Quiet, Event.quiet, Event.aside]
      · simp [Quiet, Event.quiet, Event.aside]
  | _ => simp [Quiet, Event.quiet, Event.aside, leave]

theorem step_quiet (m : Machine) : Quiet m.step.2.1 := by
  unfold step
  split
  · exact stepLoop_quiet _ _
  · split
    · simp [Quiet]
    · split
      · simp [Quiet, Event.quiet, Event.aside, leave]
      · simp only [Quiet, List.forall_mem_cons]
        exact ⟨rfl, stepLine_quiet _ _ _⟩

end Machine

/-- On every calm bench, the runs that start with the machine `before` come to `after` on
a calm bench, and write the commands `out` on the way. -/
def Yields (setup : Setup) (operator : Stage → List Act) (before : Machine) (out : List Text)
    (after : Machine) : Prop :=
  ∀ b : Bench, b.Calm → ∃ b' : Bench, b'.Calm ∧
    b'.written .script = b.written .script ++ out.map wire ∧
    ∀ result, Stage.Ends setup operator ⟨b', after⟩ result →
      Stage.Ends setup operator ⟨b, before⟩ result

namespace Yields

variable {setup : Setup} {operator : Stage → List Act} {m mid after : Machine}
  {out more : List Text} {notices : List Notice}

theorem refl (m : Machine) : Yields setup operator m [] m :=
  fun b calm => ⟨b, calm, (List.append_nil _).symm, fun _ ends => ends⟩

theorem trans (h : Yields setup operator m out mid) (k : Yields setup operator mid more after) :
    Yields setup operator m (out ++ more) after := by
  intro b calm
  obtain ⟨b₁, calm₁, written₁, back₁⟩ := h b calm
  obtain ⟨b₂, calm₂, written₂, back₂⟩ := k b₁ calm₁
  refine ⟨b₂, calm₂, ?_, fun result ends => back₁ result (back₂ result ends)⟩
  rw [written₂, written₁, List.map_append, List.append_assoc]

theorem notices_calm {b : Bench} (calm : b.Calm) (notices : List Notice) :
    (b.notices notices).Calm := by
  unfold Bench.notices
  induction notices generalizing b with
  | nil => exact calm
  | cons n rest ih => exact ih (calm.notice n)

theorem notices_written {notices : List Notice} (silent : Machine.Quiet notices) (b : Bench) :
    (b.notices notices).written .script = b.written .script := by
  unfold Bench.notices
  induction notices generalizing b with
  | nil => rfl
  | cons n rest ih =>
      have ⟨first, others⟩ := List.forall_mem_cons.mp silent
      rw [List.foldl_cons, ih others]
      exact (b.notice_advances n).written (by simpa using first) .script

theorem of_serve {request : Request} (stepped : m.step = (mid, notices, request))
    (serves : ∀ b : Bench, b.Calm → ∃ b' : Bench,
      Stage.serve setup b mid request = (⟨b', after⟩, none) ∧ b'.Calm ∧
        b'.written .script = b.written .script ++ out.map wire) :
    Yields setup operator m out after := by
  intro b calm
  have silent := m.step_quiet
  rw [stepped] at silent
  obtain ⟨b', served, calm', written⟩ := serves _ (notices_calm calm notices)
  refine ⟨b', calm', ?_, fun result ends => .of_step ?_ ends⟩
  · rw [written, notices_written silent]
  · simp only [Stage.step, calm.alive, stepped]
    exact served

theorem of_nothing (stepped : m.step = (after, notices, .nothing)) :
    Yields setup operator m [] after :=
  of_serve stepped fun b calm => ⟨b, rfl, calm, (List.append_nil _).symm⟩

theorem of_send {command : Text} (stepped : m.step = (after, notices, .send command)) :
    Yields setup operator m [command] after := by
  refine of_serve stepped fun b calm => ?_
  obtain ⟨calm', response, sent⟩ := calm.send .script command setup.timeout
  refine ⟨(b.send .script command setup.timeout).1, ?_, calm', ?_⟩
  · rw [Stage.serve]
    cases told : b.send .script command setup.timeout with
    | mk b' result =>
        rw [told] at sent
        obtain rfl : result = .ok response := sent
        rfl
  · rw [b.send_written, if_pos rfl]
    rfl

theorem of_pause {d : Duration} (stepped : m.step = (after, notices, .pause d)) :
    Yields setup operator m [] after :=
  of_serve stepped fun b calm =>
    ⟨b.pause d, rfl, calm.pause d, by rw [(b.pause_line d).passes.written]; simp⟩

theorem of_load {path script : Text} {line : Nat} {s : Script}
    (stepped : m.step = (mid, notices, .load path script line))
    (loaded : load setup.files path = .ok s) : Yields setup operator m [] (mid.push s).1 := by
  refine of_serve stepped fun b calm => ⟨b.notice (mid.push s).2, ?_, calm.notice _, ?_⟩
  · rw [Stage.serve, loaded]
  · rw [(b.notice_advances _).written (by simp [Machine.push, Event.quiet, Event.aside])]
    simp

theorem of_load_failed {path script : Text} {line : Nat} {fault : ScriptFault}
    (stepped : m.step = (after, notices, .load path script line))
    (refused : load setup.files path = .error fault) : Yields setup operator m [] after := by
  refine of_serve stepped fun b calm =>
    ⟨b.notice (.includeFailed script line fault), ?_, calm.notice _, ?_⟩
  · rw [Stage.serve, refused]
  · rw [(b.notice_advances _).written (by simp [Event.quiet, Event.aside])]
    simp

theorem of_interactive (own : ∀ s, ∀ act ∈ operator s, act.ofOperator = true)
    (stepped : m.step = (after, notices, .finish .interactive)) :
    Yields setup operator m [] after := by
  intro b calm
  have silent := m.step_quiet
  rw [stepped] at silent
  have handed : (⟨b, m⟩ : Stage).step setup =
      (⟨b.notices notices, after⟩, some (.ok .interactive)) := by
    simp only [Stage.step, calm.alive, stepped]
    rfl
  refine ⟨_, (notices_calm calm notices).session (own ⟨b.notices notices, after⟩), ?_,
    fun result ends => .of_interactive handed ends⟩
  rw [Bench.session_written _ (own _), notices_written silent]
  simp

end Yields
end ModemDialog.Script
