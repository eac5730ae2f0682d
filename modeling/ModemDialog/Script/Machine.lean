import ModemDialog.Notice

/-! The script machine: a stack of scripts, the active one first, and the loop
that is being replayed. A step reads or replays at most one line and says what
it needs done outside; it sees neither the device nor the clock. -/
namespace ModemDialog.Script

/-- A loop being replayed: the rounds still to start (`none`: no end to them), the
number of the current one, and what is left of it. -/
structure LoopRun where
  actions : List LoopAction
  left : Option Nat
  round : Nat
  todo : List LoopAction
  deriving DecidableEq, Repr

/-- The stack keeps the active script at its head; the others wait for it. -/
structure Machine where
  stack : List Script
  loop : Option LoopRun
  deriving DecidableEq, Repr

inductive Outcome where
  | exhausted
  | interactive
  | halted
  deriving DecidableEq, Repr

inductive Request where
  | send (command : Text)
  | pause (d : Duration)
  /-- Wait until the session is stopped. -/
  | hold
  /-- Open a script for the line `line` of `script`. -/
  | load (path script : Text) (line : Nat)
  | nothing
  | finish (outcome : Outcome)
  deriving DecidableEq, Repr

namespace LoopRun

/-- The first round has the number 1; the count of rounds stays within 32 bits. -/
def ofPlan (plan : LoopPlan) : LoopRun where
  actions := plan.actions
  left := match plan.rounds with
    | .count n => some n
    | .unbounded => none
  round := 0
  todo := []

def nextRound (run : LoopRun) : Nat := min (run.round + 1) Numeral.largestCount

end LoopRun

def LoopAction.request : LoopAction → Request
  | .send command => .send command
  | .pause d => .pause d

namespace Machine

def empty : Machine := ⟨[], none⟩

def depth (m : Machine) : Nat := m.stack.length

def names (m : Machine) : List Text := (m.stack.map Script.name).reverse

def push (m : Machine) (s : Script) : Machine × Notice :=
  ({ m with stack := s :: m.stack }, .scriptEntered s.name (m.depth + 1))

def dropLoop (m : Machine) : Machine := { m with loop := none }

def leave (s : Script) (below : List Script) (departure : Departure) : Machine × Notice :=
  (⟨below, none⟩, .scriptLeft departure s.name (below.head?.map Script.name))

/-- Replay one action, or start the next round, or end the loop. A loop without
end and without actions only waits. -/
def stepLoop (stack : List Script) (run : LoopRun) : Machine × List Notice × Request :=
  match run.todo, run.left, run.actions with
  | a :: todo, _, _ => (⟨stack, some { run with todo }⟩, [], a.request)
  | [], some 0, _ => (⟨stack, none⟩, [], .nothing)
  | [], some (n + 1), actions =>
      (⟨stack, some { run with left := some n, round := run.nextRound, todo := actions }⟩,
        [.round run.nextRound], .nothing)
  | [], none, [] => (⟨stack, some run⟩, [], .hold)
  | [], none, actions =>
      (⟨stack, some { run with round := run.nextRound, todo := actions }⟩,
        [.round run.nextRound], .nothing)

def beginLoop (stack : List Script) (plan : LoopPlan) : Machine × List Notice × Request :=
  match plan.actions, plan.rounds with
  | [], .unbounded => (⟨stack, some (.ofPlan plan)⟩, [.emptyLoop], .nothing)
  | [], .count _ => (⟨stack, none⟩, [], .nothing)
  | _ :: _, .unbounded => (⟨stack, some (.ofPlan plan)⟩, [.unboundedLoop], .nothing)
  | _ :: _, .count _ => (⟨stack, some (.ofPlan plan)⟩, [], .nothing)

def stepLine (s : Script) (line : ScriptLine) (below : List Script) :
    Machine × List Notice × Request :=
  let here : Machine := ⟨s :: below, none⟩
  match Directive.parse line.text with
  | .command text => (here, [], .send text)
  | .loopBegin rounds =>
      match LoopPlan.build s rounds line.number with
      | (.ok plan, s) => beginLoop (s :: below) plan
      | (.error fault, s) => (⟨s :: below, none⟩, [.loopSkipped fault], .nothing)
  | .loopEnd => (here, [.strayLoopEnd s.name line.number], .nothing)
  | .sleep d => (here, [], .pause d)
  | .leave =>
      let (m, notice) := leave s below .broke
      (m, [notice], .nothing)
  | .manual => (here, [.toOperator s.name line.number], .finish .interactive)
  | .run (some path) => (here, [], .load path s.name line.number)
  | .run none => (here, [.pathMissing (.badLine s.name line .missingPath)], .nothing)
  | .invalid keyword fault =>
      let discarded := Notice.lineDiscarded (.badLine s.name line (.directive fault))
      if keyword = .loopBegin then
        match LoopPlan.build s (.count 1) line.number with
        | (.ok _, s) => (⟨s :: below, none⟩, [discarded], .nothing)
        | (.error fault, s) =>
            (⟨s :: below, none⟩, [discarded, .loopSkipped fault], .nothing)
      else (here, [discarded], .nothing)

/-- One step of a machine that has not been stopped. -/
def step (m : Machine) : Machine × List Notice × Request :=
  match m.loop with
  | some run => stepLoop m.stack run
  | none =>
      match m.stack with
      | [] => (m, [], .finish .exhausted)
      | s :: below =>
          match s.next? with
          | none =>
              let (m, notice) := leave s below .ended
              (m, [notice], .nothing)
          | some (line, s) =>
              let (m, notices, request) := stepLine s line below
              (m, .directive s.name line :: notices, request)

end Machine
end ModemDialog.Script
