import ModemDialog.Proofs.Script.Outcome

/-! What is wrong with the lines of a script, listed line by line without running it, and that
a run warns of nothing else: of each fault when its line is carried out, and of each once. -/
namespace ModemDialog

/-- A warning that neither the line nor the transcript is the cause of. -/
def Notice.ofScript (n : Notice) : Bool := n.level = .warn && !(Event.noticed n).incidental

namespace Event

def warning? : Event → Option Notice
  | .noticed n => if n.ofScript then some n else none
  | _ => none

def line? : Event → Option (Text × ScriptLine)
  | .noticed (.directive script line) => some (script, line)
  | _ => none

variable {events : List Event}

theorem warnings_of_incidental (incidental : ∀ e ∈ events, e.incidental = true) :
    events.filterMap warning? = [] := by
  refine List.filterMap_eq_nil_iff.mpr fun e member => ?_
  cases e with
  | noticed n => simp [warning?, Notice.ofScript, incidental _ member]
  | _ => rfl

theorem lines_of_incidental (incidental : ∀ e ∈ events, e.incidental = true) :
    events.filterMap line? = [] := by
  refine List.filterMap_eq_nil_iff.mpr fun e member => ?_
  have own := incidental e member
  unfold line?
  split
  · cases own
  · rfl

theorem warnings_of_notices (notices : List Notice) :
    (notices.map noticed).filterMap warning? = notices.filter Notice.ofScript := by
  rw [List.filterMap_map, ← List.filterMap_eq_filter]
  rfl

end Event

def ScriptLine.refusal (line : ScriptLine) : LineFault :=
  match Script.Directive.parse line.text with
  | .invalid _ fault => .directive fault
  | _ => .notInLoop

namespace Script

/-- Each line stands in the file of that name, under its number from 1. -/
def Numbered (files : FileTree) (s : Script) : Prop :=
  ∃ content, files.readText s.name = .ok content ∧ ∀ line ∈ s.pending,
    0 < line.number ∧ ((Text.lines content)[line.number - 1]?).map Text.trim = some line.text

theorem significant_numbered {number : Nat} {raw : List Text} {line : ScriptLine}
    (member : line ∈ significant number raw) :
    ∃ i, line.number = number + i ∧ (raw[i]?).map Text.trim = some line.text := by
  induction raw generalizing number with
  | nil => cases member
  | cons text more ih =>
      have behind (member : line ∈ significant (number + 1) more) :
          ∃ i, line.number = number + i ∧
            ((text :: more)[i]?).map Text.trim = some line.text := by
        obtain ⟨i, here, found⟩ := ih member
        exact ⟨i + 1, by omega, found⟩
      rw [significant] at member
      split at member
      · exact behind member
      · rcases List.mem_cons.mp member with rfl | later
        · exact ⟨0, rfl, rfl⟩
        · exact behind later

theorem load_numbered {files : FileTree} {path : Text} {s : Script}
    (loaded : load files path = .ok s) : s.Numbered files := by
  rw [load] at loaded
  cases valid : validate files path with
  | error fault =>
      rw [valid] at loaded
      cases loaded
  | ok _ =>
      rw [valid] at loaded
      cases read : files.readText path with
      | error fault => simp [read, bind, Except.bind] at loaded
      | ok content =>
          simp only [read, bind, Except.bind, Except.ok.injEq] at loaded
          obtain rfl := loaded
          refine ⟨content, read, fun line member => ?_⟩
          obtain ⟨i, number, found⟩ := significant_numbered member
          exact ⟨by omega, by rw [number, Nat.add_sub_cancel_left, found]⟩

theorem Numbered.further {files : FileTree} {s t : Script} (h : s.Numbered files)
    (further : Further s t) : t.Numbered files := by
  obtain ⟨content, read, lines⟩ := h
  refine ⟨content, ?_, fun line member => lines line (further.pending.subset member)⟩
  rw [further.name, read]

namespace Reading

/-- What is wrong with the block that the line opens: that it has no end, or else the first line
in it that may not stand in a loop. -/
def blockFault? (r : Reading) : Option ScriptFault :=
  match block? 0 r.rest with
  | none => some (.unclosedLoop r.script r.line.number)
  | some (body, _) =>
      (body.find? (!·.loopable)).map fun line => .badLine r.script line line.refusal

def defects (files : FileTree) (r : Reading) : List Notice :=
  match Directive.parse r.line.text with
  | .loopBegin _ => r.blockFault?.toList.map .loopSkipped
  | .loopEnd => [.strayLoopEnd r.script r.line.number]
  | .run none => [.pathMissing (.badLine r.script r.line .missingPath)]
  | .run (some path) =>
      match load files path with
      | .ok _ => []
      | .error fault => [.includeFailed r.script r.line.number fault]
  | .invalid keyword fault =>
      .lineDiscarded (.badLine r.script r.line (.directive fault)) ::
        if keyword = .loopBegin then r.blockFault?.toList.map .loopSkipped else []
  | _ => []

/-- The line opens a loop without end around nothing. -/
def opensVoid (r : Reading) : Bool :=
  match Directive.parse r.line.text, block? 0 r.rest with
  | .loopBegin .unbounded, some ([], _) => true
  | _, _ => false

theorem opensVoid_iff {r : Reading} {rounds : Rounds}
    (parsed : Directive.parse r.line.text = .loopBegin rounds) :
    r.opensVoid = true ↔ rounds = .unbounded ∧ ∃ back, block? 0 r.rest = some ([], back) := by
  unfold opensVoid
  rw [parsed]
  split
  · rename_i back same empty
    simp [Directive.loopBegin.inj same, empty]
  · rename_i full
    simp only [Bool.false_eq_true, false_iff]
    rintro ⟨rfl, back, empty⟩
    exact full back rfl empty

theorem opensVoid_of_other {r : Reading}
    (other : ∀ rounds, Directive.parse r.line.text ≠ .loopBegin rounds) :
    r.opensVoid = false := by
  unfold opensVoid
  split
  · rename_i parsed _
    exact absurd parsed (other _)
  · rfl

def warnings (files : FileTree) (r : Reading) : List Notice :=
  r.defects files ++ if r.opensVoid then [.emptyLoop] else []

def onward (files : FileTree) (r : Reading) (below : List Script) : List Script :=
  match Directive.parse r.line.text with
  | .leave => below
  | .run (some path) =>
      match load files path with
      | .ok s => s :: ⟨r.script, r.rest⟩ :: below
      | .error _ => ⟨r.script, r.rest⟩ :: below
  | _ => ⟨r.script, r.remainder⟩ :: below

end Reading

def move (files : FileTree) : List Script → List Reading × List Script
  | [] => ([], [])
  | ⟨_, []⟩ :: below => ([], below)
  | ⟨name, line :: rest⟩ :: below =>
      ([⟨name, line, rest⟩], Reading.onward files ⟨name, line, rest⟩ below)

/-- The lines read in so many moves, and the scripts that are still to be read then. -/
def walk (files : FileTree) : (moves : Nat) → List Script → List Reading × List Script
  | 0, stack => ([], stack)
  | moves + 1, stack =>
      let (read, stack) := move files stack
      let (later, stack) := walk files moves stack
      (read ++ later, stack)

namespace LoopPlan

theorem action_refusal (line : ScriptLine) :
    match action line.text with
    | .ok _ => line.loopable = true
    | .error fault => line.loopable = false ∧ fault = line.refusal := by
  unfold action
  cases parsed : Directive.parse line.text <;>
    simp [ScriptLine.loopable, ScriptLine.refusal, parsed]

theorem actionsOf_fault (script : Text) (body : List ScriptLine) :
    match actionsOf script body with
    | .ok actions =>
        body.find? (!·.loopable) = none ∧ (actions = [] ↔ body = [])
    | .error fault =>
        (body.find? (!·.loopable)).map (fun line => .badLine script line line.refusal) =
          some fault := by
  induction body with
  | nil => simp [actionsOf]
  | cons line rest ih =>
      have first := action_refusal line
      rw [actionsOf, List.find?_cons]
      cases here : action line.text with
      | error fault =>
          rw [here] at first
          obtain ⟨refused, rfl⟩ := first
          simp [refused]
      | ok a =>
          rw [here] at first
          rw [first]
          cases read : actionsOf script rest with
          | error fault =>
              rw [read] at ih
              exact ih
          | ok actions =>
              rw [read] at ih
              exact ⟨ih.1, by simp⟩

theorem build_fault (r : Reading) (rounds : Rounds) :
    match (build ⟨r.script, r.rest⟩ rounds r.line.number).1 with
    | .ok plan => r.blockFault? = none ∧ plan.rounds = rounds ∧
        (plan.actions = [] ↔ ∃ back, block? 0 r.rest = some ([], back))
    | .error fault => r.blockFault? = some fault := by
  rw [build, splitBlock_eq, Reading.blockFault?]
  cases block? 0 r.rest with
  | none => rfl
  | some pair =>
      obtain ⟨body, back⟩ := pair
      have read := actionsOf_fault r.script body
      dsimp only
      cases result : actionsOf r.script body with
      | error fault =>
          rw [result] at read
          exact read
      | ok actions =>
          rw [result] at read
          refine ⟨by rw [read.1]; rfl, rfl, ?_⟩
          simpa using read.2

end LoopPlan

namespace Request

def opened (files : FileTree) : Request → List Script
  | .load path _ _ => (Script.load files path).toOption.toList
  | _ => []

def warnings (files : FileTree) : Request → List Notice
  | .load path script line =>
      match Script.load files path with
      | .ok _ => []
      | .error fault => [.includeFailed script line fault]
  | _ => []

end Request

namespace Machine

/-- A step warns of these, carries out no other line, and leaves these scripts. -/
structure Tells (files : FileTree) (stepped : Machine × List Notice × Request)
    (warnings : List Notice) (stack : List Script) : Prop where
  warnings : stepped.2.1.filter Notice.ofScript ++ stepped.2.2.warnings files = warnings
  lines : (stepped.2.1.map Event.noticed).filterMap Event.line? = []
  stack : stepped.2.2.opened files ++ stepped.1.stack = stack

theorem beginLoop_tells (files : FileTree) (stack : List Script) (plan : LoopPlan) :
    Tells files (beginLoop stack plan)
      (if plan.rounds = .unbounded ∧ plan.actions = [] then [.emptyLoop] else []) stack := by
  obtain ⟨actions, rounds⟩ := plan
  cases actions <;> cases rounds <;> exact ⟨rfl, rfl, rfl⟩

theorem stepLoop_tells (files : FileTree) (stack : List Script) (run : LoopRun) :
    Tells files (stepLoop stack run) [] stack := by
  obtain ⟨actions, left, round, todo⟩ := run
  cases todo with
  | cons a todo => cases a <;> exact ⟨rfl, rfl, rfl⟩
  | nil =>
      cases left with
      | some n => cases n <;> exact ⟨rfl, rfl, rfl⟩
      | none => cases actions <;> exact ⟨rfl, rfl, rfl⟩

theorem stepLine_tells (files : FileTree) (r : Reading) (below : List Script) :
    Tells files (stepLine ⟨r.script, r.rest⟩ r.line below) (r.warnings files)
      (r.onward files below) := by
  have built (rounds : Rounds) :
      (LoopPlan.build ⟨r.script, r.rest⟩ rounds r.line.number).2 =
        ⟨r.script, behindBlock r.rest⟩ := LoopPlan.build_left _ rounds _
  have remainder : r.remainder = if r.line.opens then behindBlock r.rest else r.rest := rfl
  rw [ScriptLine.opens] at remainder
  unfold stepLine Reading.warnings Reading.defects Reading.onward
  cases parsed : Directive.parse r.line.text with
  | loopBegin rounds =>
      rw [parsed] at remainder
      have fault := LoopPlan.build_fault r rounds
      have left := built rounds
      have void := Reading.opensVoid_iff parsed
      dsimp only
      generalize LoopPlan.build ⟨r.script, r.rest⟩ rounds r.line.number = result at fault left ⊢
      obtain ⟨result, s⟩ := result
      obtain rfl : s = _ := left
      rw [remainder]
      cases result with
      | error fault' =>
          have full : r.opensVoid = false := by
            rw [Bool.eq_false_iff, ne_eq, void]
            rintro ⟨-, back, empty⟩
            simp [Reading.blockFault?, empty] at fault
          rw [fault, full]
          exact ⟨rfl, rfl, rfl⟩
      | ok plan =>
          obtain ⟨none, same, empty⟩ := fault
          have begun := beginLoop_tells files (⟨r.script, behindBlock r.rest⟩ :: below) plan
          have here : r.opensVoid = true ↔ plan.rounds = .unbounded ∧ plan.actions = [] := by
            rw [void, same, empty]
          rw [none]
          simp only [here]
          exact begun
  | invalid keyword fault =>
      rw [Reading.opensVoid_of_other (by simp [parsed])]
      dsimp only
      split
      · rename_i opening
        rw [parsed, opening] at remainder
        have fault := LoopPlan.build_fault r (.count 1)
        have left := built (.count 1)
        generalize LoopPlan.build ⟨r.script, r.rest⟩ (.count 1) r.line.number = result
          at fault left ⊢
        obtain ⟨result, s⟩ := result
        obtain rfl : s = _ := left
        rw [remainder]
        cases result with
        | error fault' =>
            rw [fault]
            exact ⟨rfl, rfl, rfl⟩
        | ok plan =>
            rw [fault.1]
            exact ⟨rfl, rfl, rfl⟩
      · rename_i other
        have stays : r.remainder = r.rest := by
          rw [remainder, parsed]
          cases keyword with
          | loopBegin => exact absurd rfl other
          | _ => rfl
        rw [stays]
        exact ⟨rfl, rfl, rfl⟩
  | run path =>
      rw [parsed] at remainder
      rw [Reading.opensVoid_of_other (by simp [parsed])]
      cases path with
      | none =>
          rw [remainder]
          exact ⟨rfl, rfl, rfl⟩
      | some path =>
          refine ⟨(List.append_nil _).symm, rfl, ?_⟩
          dsimp only [Request.opened]
          cases load files path <;> rfl
  | _ =>
      rw [parsed] at remainder
      rw [Reading.opensVoid_of_other (by simp [parsed]), remainder]
      exact ⟨rfl, rfl, rfl⟩

end Machine

theorem walk_add (files : FileTree) (moves more : Nat) (stack : List Script) :
    walk files (moves + more) stack =
      ((walk files moves stack).1 ++ (walk files more (walk files moves stack).2).1,
        (walk files more (walk files moves stack).2).2) := by
  induction moves generalizing stack with
  | zero => simp [walk]
  | succ moves ih => simp only [Nat.succ_add, walk, ih, List.append_assoc]

theorem walk_nil (files : FileTree) (moves : Nat) : walk files moves [] = ([], []) := by
  induction moves with
  | zero => rfl
  | succ moves ih => simp only [walk, move, ih, List.append_nil]

theorem Reading.onward_numbered {files : FileTree} {r : Reading} {below : List Script}
    (here : Script.Numbered files ⟨r.script, r.rest⟩) (others : ∀ s ∈ below, s.Numbered files) :
    ∀ s ∈ r.onward files below, s.Numbered files := by
  have behind : Script.Numbered files ⟨r.script, r.remainder⟩ := by
    refine here.further ⟨rfl, ?_⟩
    unfold Reading.remainder
    split
    · exact behindBlock_suffix r.rest
    · exact List.suffix_refl _
  unfold Reading.onward
  split
  · exact others
  · split
    · rename_i s loaded
      exact List.forall_mem_cons.mpr
        ⟨load_numbered loaded, List.forall_mem_cons.mpr ⟨here, others⟩⟩
    · exact List.forall_mem_cons.mpr ⟨here, others⟩
  · exact List.forall_mem_cons.mpr ⟨behind, others⟩

theorem move_numbered {files : FileTree} {stack : List Script}
    (numbered : ∀ s ∈ stack, s.Numbered files) :
    (∀ r ∈ (move files stack).1, Script.Numbered files ⟨r.script, r.line :: r.rest⟩) ∧
      ∀ s ∈ (move files stack).2, s.Numbered files := by
  rcases stack with _ | ⟨⟨name, _ | ⟨line, rest⟩⟩, below⟩
  · exact ⟨by simp [move], numbered⟩
  · exact ⟨by simp [move], (List.forall_mem_cons.mp numbered).2⟩
  · obtain ⟨here, others⟩ := List.forall_mem_cons.mp numbered
    refine ⟨fun r member => ?_, ?_⟩
    · obtain rfl := List.mem_singleton.mp member
      exact here
    · exact Reading.onward_numbered (here.further (.next name line rest)) others

theorem walk_numbered {files : FileTree} (moves : Nat) {stack : List Script}
    (numbered : ∀ s ∈ stack, s.Numbered files) :
    (∀ r ∈ (walk files moves stack).1, Script.Numbered files ⟨r.script, r.line :: r.rest⟩) ∧
      ∀ s ∈ (walk files moves stack).2, s.Numbered files := by
  induction moves generalizing stack with
  | zero => exact ⟨by simp [walk], numbered⟩
  | succ moves ih =>
      obtain ⟨read, left⟩ := move_numbered numbered
      obtain ⟨later, left'⟩ := ih left
      refine ⟨fun r member => ?_, left'⟩
      rcases List.mem_append.mp member with early | late
      · exact read r early
      · exact later r late

/-- From `before` to `after` just the lines `read` are carried out, and nothing but what is to
be said of them is warned of. -/
def Reports (files : FileTree) (before after : Bench) (read : List Reading) : Prop :=
  ∃ events, after.history = before.history ++ events ∧
    events.filterMap Event.line? = read.map (fun r => (r.script, r.line)) ∧
    events.filterMap Event.warning? = read.flatMap (·.warnings files)

namespace Reports

variable {files : FileTree} {before mid after : Bench} {read later : List Reading}

theorem refl (b : Bench) : Reports files b b [] := ⟨[], by simp, rfl, rfl⟩

theorem trans (h : Reports files before mid read) (k : Reports files mid after later) :
    Reports files before after (read ++ later) := by
  obtain ⟨events, history, lines, warned⟩ := h
  obtain ⟨events', history', lines', warned'⟩ := k
  refine ⟨events ++ events', ?_, ?_, ?_⟩
  · rw [history', history, List.append_assoc]
  · rw [List.filterMap_append, lines, lines', List.map_append]
  · rw [List.filterMap_append, warned, warned', List.flatMap_append]

end Reports

namespace Stage

variable {setup : Setup} {s : Stage}

theorem send_tells (b : Bench) (command : Text) (timeout : Duration) :
    ∃ events, (b.send .script command timeout).1.history = b.history ++ events ∧
      events.filterMap Event.line? = [] ∧ events.filterMap Event.warning? = [] := by
  obtain ⟨ahead, behind, history, before, after⟩ := (b.send_sends .script command timeout).history
  refine ⟨_, history, ?_, ?_⟩
  · rw [List.filterMap_append, List.filterMap_cons, List.filterMap_cons,
      Event.lines_of_incidental before, Event.lines_of_incidental after]
    rfl
  · rw [List.filterMap_append, List.filterMap_cons, List.filterMap_cons,
      Event.warnings_of_incidental before, Event.warnings_of_incidental after]
    rfl

theorem serve_stack (setup : Setup) (b : Bench) (m : Machine) (request : Request) :
    (serve setup b m request).1.machine.stack = request.opened setup.files ++ m.stack := by
  cases request with
  | send command =>
      rw [serve]
      split <;> rfl
  | load path script line =>
      rw [serve, Request.opened]
      cases load setup.files path <;> rfl
  | _ => rfl

theorem serve_tells (setup : Setup) (b : Bench) (m : Machine) (request : Request) :
    ∃ events, (serve setup b m request).1.bench.history = b.history ++ events ∧
      events.filterMap Event.line? = [] ∧
      events.filterMap Event.warning? = request.warnings setup.files := by
  have idle {c : Bench} (idles : Bench.Idles b c) : ∃ events, c.history = b.history ++ events ∧
      events.filterMap Event.line? = [] ∧ events.filterMap Event.warning? = [] := by
    obtain ⟨events, history, incidental⟩ := idles.history
    exact ⟨events, history, Event.lines_of_incidental incidental,
      Event.warnings_of_incidental incidental⟩
  have told (n : Notice) : (b.notice n).history = b.history ++ [.noticed n] :=
    b.notices_history [n]
  cases request with
  | send command =>
      rw [serve_send_bench]
      exact send_tells b command setup.timeout
  | pause d => exact idle (b.pause_line d).idles
  | hold => exact idle b.hold_line.idles
  | load path script line =>
      rw [serve, Request.warnings]
      cases load setup.files path <;> exact ⟨_, told _, rfl, rfl⟩
  | _ => exact idle (.refl b)

theorem step_reports_of_tells {m : Machine} {notices : List Notice} {request : Request}
    (alive : s.bench.alive = true) (read : List Reading) {stack : List Script}
    (stepped : s.machine.step =
      (m, read.map (fun r => .directive r.script r.line) ++ notices, request))
    (tells : Machine.Tells setup.files (m, notices, request)
      (read.flatMap (·.warnings setup.files)) stack) :
    Reports setup.files s.bench (s.step setup).1.bench read ∧
      (s.step setup).1.machine.stack = stack := by
  obtain ⟨events, history, lines, warned⟩ := serve_tells setup
    (s.bench.notices s.machine.step.2.1) m request
  rw [step_of_alive alive]
  rw [stepped] at history ⊢
  rw [Bench.notices_history, List.append_assoc, List.map_append] at history
  refine ⟨⟨_, history, ?_, ?_⟩, (serve_stack _ _ _ _).trans tells.stack⟩
  · rw [List.filterMap_append, List.filterMap_append, lines, tells.lines]
    simp [List.filterMap_map, Function.comp_def, Event.line?]
  · rw [List.filterMap_append, List.filterMap_append, warned, Event.warnings_of_notices,
      Event.warnings_of_notices, ← tells.warnings]
    have silent : (read.map fun r => Notice.directive r.script r.line).filter Notice.ofScript =
        [] := by
      refine List.filter_eq_nil_iff.mpr fun n member => ?_
      obtain ⟨r, -, rfl⟩ := List.mem_map.mp member
      exact Bool.false_ne_true
    rw [silent]
    rfl

theorem step_walks (setup : Setup) (s : Stage) :
    ∃ moves, Reports setup.files s.bench (s.step setup).1.bench
        (walk setup.files moves s.machine.stack).1 ∧
      (s.step setup).1.machine.stack = (walk setup.files moves s.machine.stack).2 := by
  cases alive : s.bench.alive with
  | false =>
      rw [step, alive]
      exact ⟨0, .refl _, rfl⟩
  | true =>
      obtain ⟨b, stack, loop⟩ := s
      cases loop with
      | some run =>
          exact ⟨0, step_reports_of_tells alive [] rfl
            (Machine.stepLoop_tells setup.files stack run)⟩
      | none =>
          rcases Machine.idle_cases stack with rfl | ⟨name, below, rfl⟩ | ⟨r, below, ahead⟩
          · exact ⟨0, step_reports_of_tells alive [] rfl ⟨rfl, rfl, rfl⟩⟩
          · exact ⟨1, step_reports_of_tells alive [] rfl ⟨rfl, rfl, rfl⟩⟩
          · obtain rfl := congrArg Machine.stack ahead
            refine ⟨1, step_reports_of_tells alive [r] (Machine.ahead_step r below) ?_⟩
            rw [List.flatMap_singleton]
            exact Machine.stepLine_tells setup.files r below

theorem advance_walks (setup : Setup) (n : Nat) (s : Stage) :
    ∃ moves, Reports setup.files s.bench (advance (step setup) n s).1.bench
        (walk setup.files moves s.machine.stack).1 ∧
      (advance (step setup) n s).1.machine.stack =
        (walk setup.files moves s.machine.stack).2 := by
  -- The rest of the walk starts from the scripts that the step has left, whatever the loop that
  -- may be under way: replaying one makes no moves.
  induction n generalizing s with
  | zero => exact ⟨0, .refl _, rfl⟩
  | succ n ih =>
      obtain ⟨moves, reports, left⟩ := step_walks setup s
      rw [advance]
      cases stepped : s.step setup with
      | mk t ending =>
          rw [stepped] at reports left
          cases ending with
          | some ending => exact ⟨moves, reports, left⟩
          | none =>
              obtain ⟨more, later, left'⟩ := ih t
              rw [left] at later left'
              refine ⟨moves + more, ?_⟩
              rw [walk_add]
              exact ⟨reports.trans later, left'⟩

/-- What a run of scripts warns of, apart from what the line and the transcript do: line by
line as it comes to them, of what is wrong with each, of a loop that is not run, and of one that
only waits. -/
theorem run_warns_of_defects (setup : Setup) (b : Bench) (stack : List Script) (n : Nat) :
    let run := advance (step setup) n ⟨b, ⟨stack, none⟩⟩
    ∃ moves, let walked := walk setup.files moves stack
      Reports setup.files b run.1.bench walked.1 ∧ run.1.machine.stack = walked.2 ∧
        (run.2 = some (.ok .exhausted) → walked.2 = []) ∧
        ((∀ s ∈ stack, s.Numbered setup.files) →
          ∀ r ∈ walked.1, Script.Numbered setup.files ⟨r.script, r.line :: r.rest⟩) := by
  intro run
  obtain ⟨moves, reports, left⟩ := advance_walks setup n ⟨b, ⟨stack, none⟩⟩
  refine ⟨moves, reports, left, fun exhausted => ?_, fun numbered => ?_⟩
  · have ended := left_of_ended (s := ⟨b, ⟨stack, none⟩⟩) rfl (Prod.ext rfl exhausted)
    exact left.symm.trans (congrArg Machine.stack ended.1)
  · exact (walk_numbered moves numbered).1

def idleScript : Script := .ofText "idle.scom".toList "loopbegin\nloopend".toList

def idleBench : Bench :=
  .start (fun _ _ => .silence) Sentry.defaults (.ofMillis 10) .none

theorem idleScript_defects (moves : Nat) :
    (walk .bare moves [idleScript]).1.flatMap (·.defects .bare) = [] := by
  have read : move .bare [idleScript] =
      ([⟨idleScript.name, ⟨1, "loopbegin".toList⟩, [⟨2, "loopend".toList⟩]⟩],
        [⟨idleScript.name, []⟩]) := by decide +kernel
  have nothing : Reading.defects .bare
      ⟨idleScript.name, ⟨1, "loopbegin".toList⟩, [⟨2, "loopend".toList⟩]⟩ = [] := by
    decide +kernel
  cases moves with
  | zero => rfl
  | succ moves =>
      have ended : (walk .bare moves [⟨idleScript.name, []⟩]).1 = [] := by
        cases moves with
        | zero => rfl
        | succ moves => exact congrArg Prod.fst (walk_nil .bare moves)
      rw [walk, read]
      dsimp only
      rw [ended, List.append_nil, List.flatMap_singleton, nothing]

/-- The list is not complete without the loops that only wait. -/
theorem idle_loop_is_warned_of :
    ¬ ∀ (setup : Setup) (b : Bench) (stack : List Script) (n : Nat),
      let run := advance (step setup) n ⟨b, ⟨stack, none⟩⟩
      run.1.bench.alive = true → (∀ fault, run.2 ≠ some (.error fault)) →
        ∃ moves, ∃ events, run.1.bench.history = b.history ++ events ∧
          events.filterMap Event.warning? =
            (walk setup.files moves stack).1.flatMap (·.defects setup.files) := by
  intro complete
  have warned : (advance (step ⟨.bare, .ofMillis 100⟩) 2
      ⟨idleBench, ⟨[idleScript], none⟩⟩).1.bench.history.filterMap Event.warning? =
        [.emptyLoop] := by decide +kernel
  obtain ⟨moves, events, history, listed⟩ := complete ⟨.bare, .ofMillis 100⟩ idleBench
    [idleScript] 2 (by decide +kernel) fun fault failed => by
      have goesOn : (advance (step ⟨.bare, .ofMillis 100⟩) 2
        ⟨idleBench, ⟨[idleScript], none⟩⟩).2.isNone = true := by decide +kernel
      rw [failed] at goesOn
      cases goesOn
  rw [history, List.filterMap_append, listed, idleScript_defects] at warned
  cases warned

end Stage
end Script
end ModemDialog
