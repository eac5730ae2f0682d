import ModemDialog.Proofs.Script.Rerun

/-! Scripts run to their end, and write what they mean: by induction on what is left of a
loop, on the lines of a script, and along the scripts that run each other. -/
namespace ModemDialog.Script
namespace Yields

variable {setup : Setup} {operator : Stage → List Act} {m mid after : Machine}
  {out : List Text} {notices : List Notice}

theorem replay_round (stack : List Script) (actions : List LoopAction) (left : Option Nat)
    (round : Nat) (todo : List LoopAction) :
    Yields setup operator ⟨stack, some ⟨actions, left, round, todo⟩⟩ (LoopPlan.commands todo)
      ⟨stack, some ⟨actions, left, round, []⟩⟩ := by
  induction todo with
  | nil => exact .refl _
  | cons a todo ih =>
      cases a with
      | send command => exact (of_send rfl).trans ih
      | pause d => exact (of_pause rfl).trans ih

theorem replay (stack : List Script) (actions : List LoopAction) (n round : Nat)
    (todo : List LoopAction) :
    Yields setup operator ⟨stack, some ⟨actions, some n, round, todo⟩⟩
      (LoopPlan.commands todo ++ (List.replicate n (LoopPlan.commands actions)).flatten)
      ⟨stack, none⟩ := by
  induction n generalizing round todo with
  | zero => exact (replay_round stack actions _ round todo).trans (of_nothing rfl)
  | succ n ih =>
      have next := ih (LoopRun.nextRound ⟨actions, some (n + 1), round, []⟩) actions
      exact (replay_round stack actions _ round todo).trans ((of_nothing rfl).trans next)

section Lines

variable {name : Text} {line : ScriptLine} {rest : List ScriptLine} {below : List Script}

theorem step_line {request : Request}
    (stepped : Machine.stepLine ⟨name, rest⟩ line below = (after, notices, request)) :
    Machine.step ⟨⟨name, line :: rest⟩ :: below, none⟩ =
      (after, .directive name line :: notices, request) := by
  simp only [Machine.step, Script.next?, stepped]

theorem of_loop {n : Nat} {body : List Text}
    (parsed : Directive.parse line.text = .loopBegin (.count n))
    (found : loopBody? rest = some body) :
    Yields setup operator ⟨⟨name, line :: rest⟩ :: below, none⟩ (List.replicate n body).flatten
      ⟨⟨name, behindBlock rest⟩ :: below, none⟩ := by
  obtain ⟨result, built, planned⟩ := LoopPlan.build_spec ⟨name, rest⟩ (.count n) line.number
  cases result with
  | error fault => simp [found] at planned
  | ok plan =>
      obtain ⟨actions, rounds⟩ := plan
      obtain ⟨same, body_eq⟩ := planned
      obtain rfl : rounds = .count n := same
      obtain rfl : body = LoopPlan.commands actions := by simpa [found] using body_eq
      have begins : Machine.stepLine ⟨name, rest⟩ line below =
          Machine.beginLoop (⟨name, behindBlock rest⟩ :: below) ⟨actions, .count n⟩ := by
        simp [Machine.stepLine, parsed, built]
      cases actions with
      | nil =>
          have none_sent : (List.replicate n (LoopPlan.commands [])).flatten = [] := by
            simp [LoopPlan.commands]
          rw [none_sent]
          exact of_nothing (step_line begins)
      | cons a actions => exact (of_nothing (step_line begins)).trans (replay _ _ n 0 [])

theorem of_block (opens : (∃ rounds, Directive.parse line.text = .loopBegin rounds ∧
      loopBody? rest = none) ∨ ∃ fault, Directive.parse line.text = .invalid .loopBegin fault) :
    Yields setup operator ⟨⟨name, line :: rest⟩ :: below, none⟩ []
      ⟨⟨name, behindBlock rest⟩ :: below, none⟩ := by
  rcases opens with ⟨rounds, parsed, missing⟩ | ⟨fault, parsed⟩
  · obtain ⟨result, built, planned⟩ := LoopPlan.build_spec ⟨name, rest⟩ rounds line.number
    cases result with
    | ok plan => simp [missing] at planned
    | error fault =>
        have skips : Machine.stepLine ⟨name, rest⟩ line below =
            (⟨⟨name, behindBlock rest⟩ :: below, none⟩, [.loopSkipped fault], .nothing) := by
          simp [Machine.stepLine, parsed, built]
        exact of_nothing (step_line skips)
  · obtain ⟨result, built, -⟩ := LoopPlan.build_spec ⟨name, rest⟩ (.count 1) line.number
    have skips : ∃ notices, Machine.stepLine ⟨name, rest⟩ line below =
        (⟨⟨name, behindBlock rest⟩ :: below, none⟩, notices, .nothing) := by
      cases result with
      | ok plan => exact ⟨_, by simp [Machine.stepLine, parsed, built]; rfl⟩
      | error fault => exact ⟨_, by simp [Machine.stepLine, parsed, built]; rfl⟩
    obtain ⟨notices, skips⟩ := skips
    exact of_nothing (step_line skips)

theorem of_run {path : Text} {acyclic : Acyclic setup.files}
    (parsed : Directive.parse line.text = .run (some path))
    (inner : ∀ s, load setup.files path = .ok s → ∀ below,
      Yields setup operator ⟨s :: below, none⟩ (commandsOf acyclic s.pending) ⟨below, none⟩) :
    Yields setup operator ⟨⟨name, line :: rest⟩ :: below, none⟩ (commandsAt acyclic path)
      ⟨⟨name, rest⟩ :: below, none⟩ := by
  have loads : Machine.stepLine ⟨name, rest⟩ line below =
      (⟨⟨name, rest⟩ :: below, none⟩, [], .load path name line.number) := by
    simp [Machine.stepLine, parsed]
  rw [commandsAt_eq]
  cases loaded : load setup.files path with
  | error fault => exact of_load_failed (step_line loads) loaded
  | ok s => exact (of_load (step_line loads) loaded).trans (inner s loaded _)

/-- A line of any other kind sends nothing; the operator's turn at `enman` does not count. -/
theorem of_other (own : ∀ s, ∀ act ∈ operator s, act.ofOperator = true)
    (here : match Directive.parse line.text with
      | .loopEnd | .sleep _ | .manual | .run none => True
      | .invalid k _ => k ≠ .loopBegin
      | _ => False) :
    Yields setup operator ⟨⟨name, line :: rest⟩ :: below, none⟩ []
      ⟨⟨name, rest⟩ :: below, none⟩ := by
  have line_eq {notices : List Notice} {request : Request}
      (stepped : Machine.stepLine ⟨name, rest⟩ line below =
        (⟨⟨name, rest⟩ :: below, none⟩, notices, request)) := step_line stepped
  cases parsed : Directive.parse line.text with
  | loopEnd => exact of_nothing (line_eq (by rw [Machine.stepLine, parsed]))
  | sleep d => exact of_pause (line_eq (by rw [Machine.stepLine, parsed]))
  | manual => exact of_interactive own (line_eq (by rw [Machine.stepLine, parsed]))
  | run path =>
      cases path with
      | none => exact of_nothing (line_eq (by rw [Machine.stepLine, parsed]))
      | some path => simp [parsed] at here
  | invalid k fault =>
      rw [parsed] at here
      exact of_nothing (line_eq (by simp [Machine.stepLine, parsed, here]; rfl))
  | _ => simp [parsed] at here

end Lines

def Fulfilled (setup : Setup) (operator : Stage → List Act) (acyclic : Acyclic setup.files) :
    Statement → Prop
  | .command _ => True
  | .loop rounds _ => rounds ≠ .unbounded
  | .run path => ∀ s, load setup.files path = .ok s → ∀ below,
      Yields setup operator ⟨s :: below, none⟩ (commandsOf acyclic s.pending) ⟨below, none⟩

theorem lines {acyclic : Acyclic setup.files}
    (own : ∀ s, ∀ act ∈ operator s, act.ofOperator = true) (name : Text) (below : List Script)
    (lines : List ScriptLine)
    (fulfilled : ∀ st ∈ statements lines, Fulfilled setup operator acyclic st) :
    Yields setup operator ⟨⟨name, lines⟩ :: below, none⟩ (commandsOf acyclic lines)
      ⟨below, none⟩ := by
  unfold commandsOf
  fun_induction statements lines with
  | case1 => exact of_nothing rfl
  | case2 line rest text parsed ih =>
      have others := (List.forall_mem_cons.mp fulfilled).2
      have sends : Machine.stepLine ⟨name, rest⟩ line below =
          (⟨⟨name, rest⟩ :: below, none⟩, [], .send text) := by
        simp [Machine.stepLine, parsed]
      exact (of_send (step_line sends)).trans (ih others)
  | case3 line rest path parsed ih =>
      have both := List.forall_mem_cons.mp fulfilled
      exact (of_run parsed both.1).trans (ih both.2)
  | case4 line rest parsed =>
      have leaves : Machine.stepLine ⟨name, rest⟩ line below =
          (⟨below, none⟩, [(Machine.leave ⟨name, rest⟩ below .broke).2], .nothing) := by
        simp [Machine.stepLine, parsed, Machine.leave]
      exact of_nothing (step_line leaves)
  | case5 line rest rounds parsed body found ih =>
      have both := List.forall_mem_cons.mp fulfilled
      cases rounds with
      | unbounded => exact absurd rfl both.1
      | count n => exact (of_loop parsed found).trans (ih both.2)
  | case6 line rest rounds parsed missing ih =>
      exact (of_block (.inl ⟨rounds, parsed, missing⟩)).trans (ih fulfilled)
  | case7 line rest fault parsed ih =>
      exact (of_block (.inr ⟨fault, parsed⟩)).trans (ih fulfilled)
  | case8 line rest command run leave begins invalid ih =>
      refine (of_other own ?_).trans (ih fulfilled)
      cases parsed : Directive.parse line.text with
      | command text => exact command text parsed
      | loopBegin rounds => exact begins rounds parsed
      | leave => exact leave parsed
      | run path =>
          cases path with
          | none => trivial
          | some path => exact run path parsed
      | invalid k fault => exact fun opens => invalid fault (opens ▸ parsed)
      | _ => trivial

theorem fulfilled_of_bounded {acyclic : Acyclic setup.files} {lines : List ScriptLine}
    (bounded : Bounded lines)
    (inner : ∀ path, .run path ∈ statements lines →
      Fulfilled setup operator acyclic (.run path)) :
    ∀ st ∈ statements lines, Fulfilled setup operator acyclic st := by
  intro st member
  cases st with
  | command text => trivial
  | loop rounds body => exact fun endless => bounded body (endless ▸ member)
  | run path => exact inner path member

/-- A script that can be opened sends what it means: by induction along the scripts that
run each other. -/
theorem script (acyclic : Acyclic setup.files)
    (own : ∀ s, ∀ act ∈ operator s, act.ofOperator = true)
    (bounded : ∀ path s, load setup.files path = .ok s → Bounded s.pending) (path : Text) :
    Fulfilled setup operator acyclic (.run path) := by
  induction path using acyclic.wellFounded.induction with
  | _ path ih =>
      intro s loaded below
      have inner (other : Text) (runs : .run other ∈ statements s.pending) :
          Fulfilled setup operator acyclic (.run other) := ih other ⟨s, loaded, runs⟩
      exact lines own s.name below s.pending
        (fulfilled_of_bounded (bounded path s loaded) inner)

theorem stack (acyclic : Acyclic setup.files)
    (own : ∀ s, ∀ act ∈ operator s, act.ofOperator = true)
    (bounded : ∀ path s, load setup.files path = .ok s → Bounded s.pending)
    (stack : List Script) (open_bounded : ∀ s ∈ stack, Bounded s.pending) :
    Yields setup operator ⟨stack, none⟩ (commandsOfStack acyclic stack) .empty := by
  induction stack with
  | nil => exact .refl _
  | cons s below ih =>
      have ⟨first, others⟩ := List.forall_mem_cons.mp open_bounded
      have fulfilled : ∀ st ∈ statements s.pending, Fulfilled setup operator acyclic st :=
        fulfilled_of_bounded first fun path _ => script acyclic own bounded path
      exact (lines own s.name below s.pending fulfilled).trans (ih others)

end Yields

/-- Scripts without cycles and endless loops, on a device that takes every write: run
again after each turn of the operator, whatever that does, they come to their end, and
what is written for them meanwhile are the commands they stand for, each once and in
their order. -/
theorem Stage.rerun_writes_commands_of_stack {setup : Setup} {operator : Stage → List Act}
    {stack : List Script} {b : Bench} (acyclic : Acyclic setup.files)
    (bounded : ∀ path s, load setup.files path = .ok s → Bounded s.pending)
    (open_bounded : ∀ s ∈ stack, Bounded s.pending)
    (own : ∀ s, ∀ act ∈ operator s, act.ofOperator = true) (calm : b.Calm) :
    ∃ calls fuel final,
      rerun setup operator calls fuel ⟨b, ⟨stack, none⟩⟩ = some (final, .ok .exhausted) ∧
        final.machine = .empty ∧
        final.bench.written .script =
          b.written .script ++ (commandsOfStack acyclic stack).map wire := by
  obtain ⟨b', calm', written, back⟩ :=
    Yields.stack acyclic own bounded stack open_bounded b calm
  have exhausted : (⟨b', .empty⟩ : Stage).step setup =
      (⟨b', .empty⟩, some (.ok .exhausted)) := by
    simp only [Stage.step, calm'.alive]
    rfl
  obtain ⟨calls, fuel, runs⟩ := back _ (.of_exhausted exhausted)
  exact ⟨calls, fuel, _, runs, rfl, written⟩

def shortPath : Text := "b.scom".toList

def shortFiles : FileTree :=
  FileTree.bare.plant shortPath (.file (Utf8.encode "ATI\nbreak\nATX".toList))

/-- A script that runs the other one between a turn of the operator and a loop. -/
def outerScript : Script :=
  .ofText "a.scom".toList "AT+A\nenman\nenscom b.scom\nloopbegin iter 2\nAT+B\nloopend".toList

def echoBench : Bench :=
  .start (fun _ w => .ofData w.data) Sentry.defaults (.ofMillis 10) .none

def resets (_ : Stage) : List Act := [.send .operator "ATZ".toList (.ofMillis 20)]

theorem outerScript_statements : statements outerScript.pending =
    [.command "AT+A".toList, .run shortPath, .loop (.count 2) ["AT+B".toList]] := by
  decide +kernel

theorem shortFiles_statements {path : Text} {s : Script}
    (loaded : load shortFiles path = .ok s) :
    statements s.pending = [] ∨ statements s.pending = [.command "ATI".toList] := by
  have all : ∀ text ∈ texts shortFiles, statements (ofText [] text).pending = [] ∨
      statements (ofText [] text).pending = [.command "ATI".toList] := by
    decide +kernel
  obtain ⟨text, member, rfl⟩ := load_eq_ok loaded
  exact all text member

theorem shortFiles_acyclic : Acyclic shortFiles := by
  intro path cycle
  obtain ⟨other, ⟨s, loaded, runs⟩, -⟩ := Relation.TransGen.head'_iff.mp cycle
  rcases shortFiles_statements loaded with none | one
  · simp [none] at runs
  · simp [one] at runs

theorem shortFiles_bounded (path : Text) (s : Script) (loaded : load shortFiles path = .ok s) :
    Bounded s.pending := by
  intro body member
  rcases shortFiles_statements loaded with none | one
  · simp [none] at member
  · simp [one] at member

theorem commandsOf_outerScript : commandsOfStack shortFiles_acyclic [outerScript] =
    ["AT+A".toList, "ATI".toList, "AT+B".toList, "AT+B".toList] := by
  have inner : (load shortFiles shortPath).toOption.map (statements ·.pending) =
      some [.command "ATI".toList] := by
    decide +kernel
  cases loaded : load shortFiles shortPath with
  | error fault => simp [loaded, Except.toOption] at inner
  | ok s =>
      rw [loaded] at inner
      have same : statements s.pending = [.command "ATI".toList] := Option.some.inj inner
      simp [commandsOfStack, commandsOf, outerScript_statements, Statement.commands,
        commandsAt_eq, loaded, same]

theorem rerun_writes_commands_of_outerScript :
    ∃ calls fuel final,
      Stage.rerun ⟨shortFiles, .ofMillis 50⟩ resets calls fuel ⟨echoBench, ⟨[outerScript], none⟩⟩ =
          some (final, .ok .exhausted) ∧
        final.bench.written .script =
          ["AT+A".toList, "ATI".toList, "AT+B".toList, "AT+B".toList].map wire := by
  have steady : echoBench.device.Steady := fun _ _ => ⟨rfl, rfl, rfl, fun _ none => by cases none⟩
  have open_bounded : ∀ s ∈ [outerScript], Bounded s.pending := by
    intro s member body unbounded
    obtain rfl := List.mem_singleton.mp member
    simp [outerScript_statements] at unbounded
  have own : ∀ s, ∀ act ∈ resets s, act.ofOperator = true := by
    intro s act member
    rw [List.mem_singleton.mp member]
    rfl
  obtain ⟨calls, fuel, final, ends, -, written⟩ :=
    @Stage.rerun_writes_commands_of_stack ⟨shortFiles, .ofMillis 50⟩ resets [outerScript] echoBench
      shortFiles_acyclic shortFiles_bounded open_bounded own (.start steady _ _ _)
  refine ⟨calls, fuel, final, ends, ?_⟩
  rw [written, commandsOf_outerScript]
  rfl

end ModemDialog.Script
