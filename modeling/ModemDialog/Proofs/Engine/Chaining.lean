import ModemDialog.Proofs.Advance
import ModemDialog.Proofs.Engine.Turns
import ModemDialog.Proofs.Script.Serving
import ModemDialog.Proofs.Script.Stack

/-! Scripts that run scripts. However a session goes on, the scripts below one that has been
started stay as they were left until it is over; then the next line is the one behind the
line that started it. -/
namespace ModemDialog

namespace Engine

open Script (Directive)
open Script.Machine (Within Spent)

variable {e : Engine}

theorem checkLink_machine (e : Engine) :
    (e.serve .checkLink).1.dialogue.machine = e.dialogue.machine := by
  rw [serve]
  split <;> rfl

section Chained

variable {child : Script} {mothers : List Script}

theorem step_within (within : Within child mothers e.dialogue.machine) :
    Within child mothers e.step.1.dialogue.machine ∨
      e.Scripted ∧ Spent child mothers e.dialogue.machine := by
  rcases e.turn with unlinked | ended | scripted | interactive
  · rw [step_of_unlinked unlinked, checkLink_machine]
    exact .inl within
  · obtain ⟨notices, stepped⟩ := ended.step
    rw [stepped]
    exact .inl within
  · rcases within.step with stays | spent
    · obtain ⟨mode, change, -, stepped, -⟩ := scripted.step
      rw [stepped]
      dsimp only
      rcases Script.Stage.serve_machine ⟨e.files, e.timeout⟩
        (e.bench.notices (e.dialogue.machine.step.2.1 ++ change)) e.dialogue.machine.step.1
        e.dialogue.machine.step.2.2 with same | dropped | ⟨s, pushed⟩
      · rw [same]
        exact .inl stays
      · rw [dropped]
        exact .inl stays.dropLoop
      · rw [pushed]
        exact .inl (stays.push s)
    · exact .inr ⟨scripted, spent⟩
  · obtain ⟨mode, same | ⟨s, pushed⟩⟩ := e.ask_dialogue
    · rw [interactive.step, same]
      exact .inl within
    · rw [interactive.step, pushed]
      exact .inl (within.push s)

theorem step_spent (scripted : e.Scripted) (spent : Spent child mothers e.dialogue.machine) :
    e.step.2 = none ∧ e.step.1.Scripted ∧ e.step.1.dialogue.machine = ⟨mothers, none⟩ := by
  obtain ⟨current, machine, -, ended⟩ := spent
  obtain ⟨notices, left⟩ := Script.Machine.step_of_over ended mothers
  obtain ⟨mode, change, kept, stepped, ending⟩ := scripted.step
  rw [machine, left] at kept stepped ending
  obtain ⟨rfl, rfl⟩ : mode = .scripted ∧ change = [] := by
    rcases kept with kept | ⟨outcome, finishes⟩
    · exact kept
    · cases finishes
  refine ⟨ending, ?_, by rw [stepped]; rfl⟩
  rw [stepped]
  exact ⟨scripted.linked, (Bench.notices_alive _ _).trans scripted.alive, rfl⟩

/-- The mothers have the turn, as they were left. -/
structure Resumes (mothers : List Script) (e : Engine) : Prop where
  scripted : e.Scripted
  machine : e.dialogue.machine = ⟨mothers, none⟩
  reads : ∀ name line rest below, mothers = ⟨name, line :: rest⟩ :: below →
    ∃ events, e.step.1.bench.history = e.bench.history ++ .noticed (.directive name line) :: events

theorem resumes (scripted : e.Scripted) (machine : e.dialogue.machine = ⟨mothers, none⟩) :
    Resumes mothers e where
  scripted
  machine
  reads := by
    rintro name line rest below rfl
    obtain ⟨mode, change, -, stepped, -⟩ := scripted.step
    have announced : e.dialogue.machine.step.2.1 ++ change = .directive name line ::
        ((Script.Machine.stepLine ⟨name, rest⟩ line below).2.1 ++ change) := by
      rw [machine]
      rfl
    rw [stepped]
    dsimp only
    rw [announced]
    have first := e.bench.happen_follows (e := .noticed (.directive name line)) rfl rfl
    obtain ⟨others, noticed, -⟩ := Bench.notices_rests
      ((Script.Machine.stepLine ⟨name, rest⟩ line below).2.1 ++ change)
      (e.bench.notice (.directive name line))
    obtain ⟨events, served⟩ := (Script.Stage.serve_orderly ⟨e.files, e.timeout⟩
      ((e.bench.notice (.directive name line)).notices
        ((Script.Machine.stepLine ⟨name, rest⟩ line below).2.1 ++ change))
      e.dialogue.machine.step.1 e.dialogue.machine.step.2.2).follows
    exact ⟨_, ((first.trans noticed).trans served).history⟩

theorem resumes_of_spent {n : Nat} (goesOn : (advance step n e).2 = none)
    (scripted : (advance step n e).1.Scripted)
    (spent : Spent child mothers (advance step n e).1.dialogue.machine) :
    (advance step (n + 1) e).2 = none ∧ Resumes mothers (advance step (n + 1) e).1 := by
  obtain ⟨ending, still, machine⟩ := step_spent scripted spent
  rw [advance_succ]
  cases advanced : advance step n e with
  | mk e' ended =>
      rw [advanced] at goesOn ending still machine
      obtain rfl : ended = none := goesOn
      exact ⟨ending, resumes still machine⟩

theorem advance_step_within {n : Nat}
    (within : Within child mothers (advance step n e).1.dialogue.machine) :
    Within child mothers (advance step (n + 1) e).1.dialogue.machine ∨
      (advance step n e).2 = none ∧ (advance step n e).1.Scripted ∧
        Spent child mothers (advance step n e).1.dialogue.machine := by
  rw [advance_succ]
  cases advanced : advance step n e with
  | mk e' ended =>
      rw [advanced] at within
      cases ended with
      | some ending => exact .inl within
      | none =>
          rcases step_within within with stays | ⟨scripted, spent⟩
          · exact .inl stays
          · exact .inr ⟨rfl, scripted, spent⟩

/-- Through the first `n` steps of the session from `e` on there are always more scripts open
than `depth`. -/
def StaysAbove (e : Engine) (depth n : Nat) : Prop :=
  ∀ i ≤ n, depth < (advance step i e).1.dialogue.machine.depth

theorem StaysAbove.succ {depth n : Nat} (h : e.StaysAbove depth n)
    (last : depth < (advance step (n + 1) e).1.dialogue.machine.depth) :
    e.StaysAbove depth (n + 1) := by
  intro i le
  rcases Nat.le_succ_iff.mp le with before | rfl
  · exact h i before
  · exact last

theorem Resumes.not_staysAbove {n : Nat} (h : Resumes mothers (advance step n e).1) :
    ¬ e.StaysAbove mothers.length n := by
  intro above
  have still := above n (Nat.le_refl _)
  rw [h.machine] at still
  exact Nat.lt_irrefl _ still

theorem advance_within {n : Nat} (within : Within child mothers e.dialogue.machine)
    (above : e.StaysAbove mothers.length n) :
    Within child mothers (advance step n e).1.dialogue.machine := by
  -- A step out of the child would be its last, and leave the mothers alone on the stack.
  induction n with
  | zero => exact within
  | succ n ih =>
      rcases advance_step_within (ih fun i le => above i (Nat.le_succ_of_le le)) with
        stays | ⟨goesOn, scripted, spent⟩
      · exact stays
      · exact absurd above (resumes_of_spent goesOn scripted spent).2.not_staysAbove

theorem spent_of_falls {n : Nat} (within : Within child mothers e.dialogue.machine)
    (above : e.StaysAbove mothers.length n) (falls : ¬ e.StaysAbove mothers.length (n + 1)) :
    (advance step n e).2 = none ∧ (advance step n e).1.Scripted ∧
      Spent child mothers (advance step n e).1.dialogue.machine := by
  rcases advance_step_within (advance_within within above) with stays | spent
  · exact absurd (above.succ stays.lt_depth) falls
  · exact spent

end Chained

/-- `child` has just been started on top of `mothers`. Until it is over they keep their names
and lines, and then the session goes on with them. -/
structure Chains (child : Script) (mothers : List Script) (e : Engine) : Prop where
  machine : e.dialogue.machine = ⟨child :: mothers, none⟩
  keeps : ∀ n, e.StaysAbove mothers.length n →
    Within child mothers (advance step n e).1.dialogue.machine
  falls_iff : ∀ n, e.StaysAbove mothers.length n →
    (¬ e.StaysAbove mothers.length (n + 1) ↔
      (advance step n e).2 = none ∧ (advance step n e).1.Scripted ∧
        Spent child mothers (advance step n e).1.dialogue.machine)
  back : ∀ n, e.StaysAbove mothers.length n → ¬ e.StaysAbove mothers.length (n + 1) →
    (advance step (n + 1) e).2 = none ∧ Resumes mothers (advance step (n + 1) e).1

theorem chains {child : Script} {mothers : List Script}
    (machine : e.dialogue.machine = ⟨child :: mothers, none⟩) : Chains child mothers e where
  machine
  keeps n := advance_within ⟨[], child, congrArg _ machine, .refl child⟩
  falls_iff n above := by
    refine ⟨spent_of_falls ⟨[], child, congrArg _ machine, .refl child⟩ above, ?_⟩
    rintro ⟨goesOn, scripted, spent⟩
    exact (resumes_of_spent goesOn scripted spent).2.not_staysAbove
  back n above falls := by
    obtain ⟨goesOn, scripted, spent⟩ :=
      spent_of_falls ⟨[], child, congrArg _ machine, .refl child⟩ above falls
    exact resumes_of_spent goesOn scripted spent

theorem step_run (scripted : e.Scripted) {name : Text} {line : ScriptLine}
    {rest : List ScriptLine} {below : List Script} {path : Option Text}
    (machine : e.dialogue.machine = ⟨⟨name, line :: rest⟩ :: below, none⟩)
    (runs : Directive.parse line.text = .run path) :
    e.step.2 = none ∧
      e.step.1.dialogue.machine =
        match path.map (Script.load e.files) with
        | some (.ok child) => ⟨child :: ⟨name, rest⟩ :: below, none⟩
        | _ => ⟨⟨name, rest⟩ :: below, none⟩ := by
  obtain ⟨mode, change, -, stepped, ending⟩ := scripted.step
  rw [stepped, ending, machine]
  simp only [Script.Machine.step, Script.next?, Script.Machine.stepLine, runs]
  cases path with
  | none => exact ⟨rfl, rfl⟩
  | some path =>
      rw [Option.map_some]
      simp only [Script.Stage.serve]
      cases Script.load e.files path <;> exact ⟨rfl, rfl⟩

/-- Scripts that run scripts, in any state of a session: if the script cannot be loaded, all
stay as they are. Else it goes on top, and while it lasts, whatever it and the operator do,
those below keep their names and lines; it lasts until it has the turn at its end or at a
`break`, and then the line behind the one that started it is read. -/
theorem chained_script_resumes_mothers {name : Text} {line : ScriptLine}
    {rest : List ScriptLine} {below : List Script} {path : Option Text} (scripted : e.Scripted)
    (machine : e.dialogue.machine = ⟨⟨name, line :: rest⟩ :: below, none⟩)
    (runs : Directive.parse line.text = .run path) :
    e.step.2 = none ∧
      match path.map (Script.load e.files) with
      | some (.ok child) => Chains child (⟨name, rest⟩ :: below) e.step.1
      | _ => e.step.1.dialogue.machine = ⟨⟨name, rest⟩ :: below, none⟩ := by
  obtain ⟨goesOn, after⟩ := step_run scripted machine runs
  refine ⟨goesOn, ?_⟩
  split
  · rename_i child loaded
    rw [loaded] at after
    exact chains after
  · rename_i other
    rw [after]
    split
    · rename_i child loaded
      exact absurd loaded (other child)
    · rfl

def pausingPath : Text := "b.scom".toList

def pausingScript : Script := .ofText pausingPath "enman\nbreak\nATX".toList

def pausingFiles : FileTree :=
  FileTree.bare.plant pausingPath (.file (Utf8.encode "enman\nbreak\nATX".toList))

def pausingEngine : Engine where
  bench := .start (fun _ w => .ofData w.data) Sentry.defaults (.ofMillis 10) .none
  dialogue := ⟨true, .scripted, false,
    ⟨[.ofText "a.scom".toList "enscom b.scom\nAT+B".toList], none⟩⟩
  operator := ⟨[⟨some 5, none, false, "enscom".toList⟩], 0, false⟩
  files := pausingFiles
  timeout := .ofMillis 50
  linkCheck := ⟨"AT".toList, "OK".toList⟩

theorem pausingPath_loads : Script.load pausingFiles pausingPath = .ok pausingScript := by
  have loaded : (Script.load pausingFiles pausingPath).toOption = some pausingScript := by
    decide +kernel
  cases result : Script.load pausingFiles pausingPath with
  | error fault => simp [result, Except.toOption] at loaded
  | ok s =>
      rw [result] at loaded
      exact congrArg Except.ok (Option.some.inj loaded)

theorem chained_script_resumes_mothers_of_pausingEngine :
    Chains pausingScript [⟨"a.scom".toList, [⟨2, "AT+B".toList⟩]⟩] pausingEngine.step.1 ∧
      Resumes [⟨"a.scom".toList, [⟨2, "AT+B".toList⟩]⟩]
        (advance step 3 pausingEngine.step.1).1 := by
  have runs : Directive.parse "enscom b.scom".toList = .run (some pausingPath) := by
    decide +kernel
  have machine : pausingEngine.dialogue.machine =
      ⟨[⟨"a.scom".toList, [⟨1, "enscom b.scom".toList⟩, ⟨2, "AT+B".toList⟩]⟩], none⟩ := by
    decide +kernel
  obtain ⟨-, chained⟩ := chained_script_resumes_mothers ⟨rfl, rfl, rfl⟩ machine runs
  rw [Option.map_some, show pausingEngine.files = pausingFiles from rfl,
    pausingPath_loads] at chained
  have above : pausingEngine.step.1.StaysAbove 1 2 := by
    unfold StaysAbove
    decide +kernel
  have falls : ¬ pausingEngine.step.1.StaysAbove 1 3 := by
    unfold StaysAbove
    decide +kernel
  exact ⟨chained, (chained.back 2 above falls).2⟩

end Engine
end ModemDialog
