import ModemDialog.Proofs.Script.Serving
import ModemDialog.Proofs.Script.Stack

/-! A line as it is carried out: what it gives commands for, and where its script stands behind
it. A loop is replayed on behalf of the line that opened it, with the script already behind the
block; so whatever the machine sends, it sends for the line it has read last. -/
namespace ModemDialog.Script

structure Reading where
  script : Text
  line : ScriptLine
  rest : List ScriptLine
  deriving DecidableEq, Repr

namespace Reading

/-- What is still to be read once the line has been carried out. -/
def remainder (r : Reading) : List ScriptLine :=
  if r.line.opens then behindBlock r.rest else r.rest

def commands (r : Reading) : List Text :=
  match Directive.parse r.line.text with
  | .command text => [text]
  | .loopBegin _ => (loopBody? r.rest).getD []
  | _ => []

def ahead (r : Reading) (below : List Script) : Machine :=
  ⟨⟨r.script, r.line :: r.rest⟩ :: below, none⟩

def behind (r : Reading) (below : List Script) : Machine :=
  ⟨⟨r.script, r.remainder⟩ :: below, none⟩

end Reading

structure Replays (r : Reading) (below : List Script) (m : Machine) : Prop where
  stack : m.stack = (r.behind below).stack
  loop : ∃ run, m.loop = some run ∧ LoopPlan.commands run.actions = r.commands ∧
    run.todo <:+ run.actions

namespace Machine

theorem ahead_step (r : Reading) (below : List Script) :
    step (r.ahead below) =
      let stepped := stepLine ⟨r.script, r.rest⟩ r.line below
      (stepped.1, .directive r.script r.line :: stepped.2.1, stepped.2.2) := rfl

theorem idle_cases (stack : List Script) :
    stack = [] ∨ (∃ name below, stack = ⟨name, []⟩ :: below) ∨
      ∃ r below, (⟨stack, none⟩ : Machine) = Reading.ahead r below := by
  rcases stack with _ | ⟨⟨name, _ | ⟨line, rest⟩⟩, below⟩
  · exact .inl rfl
  · exact .inr (.inl ⟨name, below, rfl⟩)
  · exact .inr (.inr ⟨⟨name, line, rest⟩, below, rfl⟩)

theorem beginLoop_spec (r : Reading) (below : List Script) (plan : LoopPlan)
    (commands : LoopPlan.commands plan.actions = r.commands) :
    let begun := beginLoop (r.behind below).stack plan
    (begun.1 = r.behind below ∨ Replays r below begun.1) ∧ begun.2.2 = .nothing := by
  have replays : Replays r below ⟨(r.behind below).stack, some (.ofPlan plan)⟩ :=
    ⟨rfl, _, rfl, commands, List.nil_suffix⟩
  unfold beginLoop
  split
  · exact ⟨.inr replays, rfl⟩
  · exact ⟨.inl rfl, rfl⟩
  · exact ⟨.inr replays, rfl⟩
  · exact ⟨.inr replays, rfl⟩

/-- Carrying out a line leaves the machine behind it, at most with a loop to replay, or in the
script below; and nothing is asked for but what the line says. -/
structure Carried (r : Reading) (below : List Script) (m : Machine) (notices : List Notice)
    (request : Request) : Prop where
  machine : m = r.behind below ∨ request = .nothing ∧ (Replays r below m ∨ m = ⟨below, none⟩)
  sends : ∀ command, request = .send command → command ∈ r.commands
  holds : request ≠ .hold
  finishes : ∀ outcome, request = .finish outcome → outcome = .interactive ∧
    Directive.parse r.line.text = .manual ∧
    notices = [.directive r.script r.line, .toOperator r.script r.line.number]

theorem Carried.of_nothing {r : Reading} {below : List Script} {m : Machine}
    {notices : List Notice} (machine : m = r.behind below ∨ Replays r below m ∨ m = ⟨below, none⟩) :
    Carried r below m notices .nothing :=
  ⟨machine.imp id fun other => ⟨rfl, other⟩, by simp, by simp, by simp⟩

theorem Carried.behind {r : Reading} {below : List Script} {m : Machine} {notices : List Notice}
    {request : Request} (h : Carried r below m notices request) (asks : request ≠ .nothing) :
    m = r.behind below :=
  h.machine.resolve_right fun other => asks other.1

theorem step_ahead (r : Reading) (below : List Script) :
    Carried r below (step (r.ahead below)).1 (step (r.ahead below)).2.1
      (step (r.ahead below)).2.2 := by
  rw [ahead_step]
  have behind (same : r.line.opens = false) :
      (⟨⟨r.script, r.rest⟩ :: below, none⟩ : Machine) = r.behind below := by
    rw [Reading.behind, Reading.remainder, same]
    rfl
  have skipped (opens : r.line.opens = true) :
      (⟨⟨r.script, behindBlock r.rest⟩ :: below, none⟩ : Machine) = r.behind below := by
    rw [Reading.behind, Reading.remainder, opens]
    rfl
  unfold stepLine
  cases parsed : Directive.parse r.line.text with
  | command text =>
      have stays := behind (by rw [ScriptLine.opens, parsed]; rfl)
      refine ⟨.inl stays, fun command same => ?_, by simp, by simp⟩
      obtain rfl := Request.send.inj same
      rw [Reading.commands, parsed]
      exact List.mem_singleton_self _
  | loopBegin rounds =>
      have stays := skipped (by rw [ScriptLine.opens, parsed]; rfl)
      obtain ⟨result, built, planned⟩ :=
        LoopPlan.build_spec ⟨r.script, r.rest⟩ rounds r.line.number
      dsimp only
      rw [built]
      cases result with
      | error fault => exact .of_nothing (.inl stays)
      | ok plan =>
          have commands : LoopPlan.commands plan.actions = r.commands := by
            rw [Reading.commands, parsed]
            exact (congrArg (Option.getD · []) planned.2).symm
          have begun := beginLoop_spec r below plan commands
          rw [← stays] at begun
          dsimp only
          rw [begun.2]
          refine .of_nothing (begun.1.imp ?_ .inl)
          exact fun same => same.trans stays
  | loopEnd => exact .of_nothing (.inl (behind (by rw [ScriptLine.opens, parsed]; rfl)))
  | sleep d =>
      have stays := behind (by rw [ScriptLine.opens, parsed]; rfl)
      exact ⟨.inl stays, by simp, by simp, by simp⟩
  | leave => exact .of_nothing (.inr (.inr rfl))
  | manual =>
      have stays := behind (by rw [ScriptLine.opens, parsed]; rfl)
      refine ⟨.inl stays, by simp, by simp, fun outcome same => ?_⟩
      exact ⟨(Request.finish.inj same).symm, parsed, rfl⟩
  | run path =>
      have stays := behind (by rw [ScriptLine.opens, parsed]; rfl)
      cases path with
      | none => exact .of_nothing (.inl stays)
      | some path => exact ⟨.inl stays, by simp, by simp, by simp⟩
  | invalid keyword fault =>
      dsimp only
      split
      · rename_i opening
        have stays := skipped (by rw [ScriptLine.opens, parsed, opening]; rfl)
        obtain ⟨result, built, -⟩ :=
          LoopPlan.build_spec ⟨r.script, r.rest⟩ (.count 1) r.line.number
        rw [built]
        cases result <;> exact .of_nothing (.inl stays)
      · rename_i other
        have stays := behind (by
          rw [ScriptLine.opens, parsed]
          cases keyword with
          | loopBegin => exact absurd rfl other
          | _ => rfl)
        exact .of_nothing (.inl stays)

end Machine

theorem LoopPlan.mem_commands {actions : List LoopAction} {command : Text}
    (member : .send command ∈ actions) : command ∈ commands actions :=
  List.mem_filterMap.mpr ⟨_, member, rfl⟩

/-- A loop that is replayed sends no other commands, and leads back behind its block. -/
structure Replayed (r : Reading) (below : List Script) (m : Machine) (request : Request) :
    Prop where
  machine : Replays r below m ∨ m = r.behind below ∧ request = .nothing
  asks : match request with
    | .send command => command ∈ r.commands
    | .load .. | .finish _ => False
    | _ => True

theorem Replays.step {r : Reading} {below : List Script} {m : Machine} (h : Replays r below m) :
    Replayed r below m.step.1 m.step.2.2 := by
  obtain ⟨stack, run, replaying, commands, suffix⟩ := h
  obtain ⟨_, _⟩ := m
  obtain rfl : _ = (r.behind below).stack := stack
  obtain rfl : _ = some run := replaying
  obtain ⟨actions, left, round, todo⟩ := run
  have again (left : Option Nat) (round : Nat) {todo : List LoopAction}
      (part : todo <:+ actions) :
      Replays r below ⟨(r.behind below).stack, some ⟨actions, left, round, todo⟩⟩ :=
    ⟨rfl, _, rfl, commands, part⟩
  cases todo with
  | cons a todo =>
      have later := again left round ((List.suffix_cons a todo).trans suffix)
      have member : a ∈ actions := suffix.subset List.mem_cons_self
      cases a with
      | send command => exact ⟨.inl later, commands ▸ LoopPlan.mem_commands member⟩
      | pause d => exact ⟨.inl later, trivial⟩
  | nil =>
      cases left with
      | some n =>
          cases n with
          | zero => exact ⟨.inr ⟨rfl, rfl⟩, trivial⟩
          | succ n => exact ⟨.inl (again _ _ (List.suffix_refl actions)), trivial⟩
      | none =>
          cases actions with
          | nil => exact ⟨.inl (again _ _ List.nil_suffix), trivial⟩
          | cons a actions => exact ⟨.inl (again _ _ (List.suffix_refl _)), trivial⟩

def Busy (reads : Reading → List Script → Prop) (m : Machine) : Prop :=
  m.loop = none ∨ ∃ r below, reads r below ∧ Replays r below m

namespace Busy

variable {reads : Reading → List Script → Prop} {m : Machine}

theorem mono {more : Reading → List Script → Prop} (h : Busy reads m)
    (le : ∀ r below, reads r below → more r below) : Busy more m :=
  h.imp id fun ⟨r, below, read, replays⟩ => ⟨r, below, le r below read, replays⟩

theorem cases (h : Busy reads m) :
    m = .empty ∨ (∃ name below, m = ⟨⟨name, []⟩ :: below, none⟩) ∨
      (∃ r below, m = Reading.ahead r below) ∨ ∃ r below, reads r below ∧ Replays r below m := by
  rcases h with idle | ⟨r, below, read, replays⟩
  · obtain ⟨stack, _⟩ := m
    obtain rfl : _ = none := idle
    rcases Machine.idle_cases stack with rfl | ended | ⟨r, below, ahead⟩
    · exact .inl rfl
    · obtain ⟨name, below, rfl⟩ := ended
      exact .inr (.inl ⟨name, below, rfl⟩)
    · exact .inr (.inr (.inl ⟨r, below, ahead⟩))
  · exact .inr (.inr (.inr ⟨r, below, read, replays⟩))

theorem sends (h : Busy reads m) {command : Text} (sends : m.step.2.2 = .send command) :
    ∃ r below, (reads r below ∨ m = r.ahead below) ∧ command ∈ r.commands ∧
      m.step.1.dropLoop = r.behind below := by
  rcases h.cases with rfl | ⟨name, below, rfl⟩ | ⟨r, below, rfl⟩ | ⟨r, below, read, replays⟩
  · cases sends
  · cases sends
  · have carried := Machine.step_ahead r below
    rw [sends] at carried
    refine ⟨r, below, .inr rfl, carried.sends command rfl, ?_⟩
    rw [carried.behind (by simp)]
    rfl
  · have replayed := replays.step
    rw [sends] at replayed
    have later : Replays r below m.step.1 :=
      replayed.machine.resolve_right fun other => by cases other.2
    refine ⟨r, below, .inl read, replayed.asks, ?_⟩
    rw [Machine.dropLoop, later.stack]
    rfl

theorem finishes (h : Busy reads m) {outcome : Outcome} (finishes : m.step.2.2 = .finish outcome) :
    outcome = .exhausted ∧ m = .empty ∨
      outcome = .interactive ∧ ∃ (r : Reading) (below : List Script), m = r.ahead below ∧
        Directive.parse r.line.text = .manual ∧ m.step.1 = r.behind below := by
  rcases h.cases with rfl | ⟨name, below, rfl⟩ | ⟨r, below, rfl⟩ | ⟨r, below, read, replays⟩
  · exact .inl ⟨(Request.finish.inj finishes).symm, rfl⟩
  · cases finishes
  · have carried := Machine.step_ahead r below
    rw [finishes] at carried
    obtain ⟨interactive, manual, -⟩ := carried.finishes outcome rfl
    exact .inr ⟨interactive, r, below, rfl, manual, carried.behind (by simp)⟩
  · have replayed := replays.step
    rw [finishes] at replayed
    exact replayed.asks.elim

theorem serve (h : Busy reads m) (setup : Setup) (b : Bench) :
    Busy (fun r below => reads r below ∨ m = r.ahead below)
      (Stage.serve setup b m.step.1 m.step.2.2).1.machine := by
  rcases h.cases with rfl | ⟨name, below, rfl⟩ | ⟨r, below, rfl⟩ | ⟨r, below, read, replays⟩
  · exact .inl rfl
  · exact .inl rfl
  · have carried := Machine.step_ahead r below
    rcases carried.machine with same | ⟨nothing, replays | left⟩
    · -- What a line asks for may put a script on top, but never starts a loop.
      rw [same]
      refine .inl ?_
      rcases Stage.serve_machine setup b (r.behind below) (Machine.step (r.ahead below)).2.2
        with kept | dropped | ⟨s, pushed⟩
      · rw [kept]
        rfl
      · rw [dropped]
        rfl
      · rw [pushed]
        rfl
    · rw [nothing]
      exact .inr ⟨r, below, .inr rfl, replays⟩
    · rw [nothing, left]
      exact .inl rfl
  · have replayed := replays.step
    rcases replayed.machine with later | ⟨same, nothing⟩
    · have keeps := Stage.serve_keeps setup b m.step.1 m.step.2.2 fun path script line loads => by
        rw [loads] at replayed
        exact replayed.asks
      rcases keeps with kept | dropped
      · rw [kept]
        exact .inr ⟨r, below, .inl read, later⟩
      · rw [dropped]
        exact .inl rfl
    · rw [nothing, same]
      exact .inl rfl

end Busy
end ModemDialog.Script
