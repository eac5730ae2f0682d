import ModemDialog.Proofs.Engine.Failing
import ModemDialog.Proofs.Engine.Gate
import ModemDialog.Proofs.Engine.Muting

/-! Turns that halt a session: one in which the operator dismisses it, and the end of all
scripts unless the operator goes on behind it. No other turn that goes on does, and a session
ends well just in the turn behind. -/
namespace ModemDialog

def Heard.dismisses : Heard → Prop
  | .line none => True
  | .line (some text) => OperatorLine.parse text = .halt
  | .failed _ | .silence => False

namespace Script

theorem Busy.empty_of_stack {reads : Reading → List Script → Prop} {m : Machine}
    (busy : Busy reads m) (stack : m.stack = []) : m = .empty := by
  rcases busy.cases with empty | ⟨name, below, rfl⟩ | ⟨r, below, rfl⟩ | ⟨r, below, -, replays⟩
  · exact empty
  · cases stack
  · cases stack
  · have same := replays.stack
    rw [stack] at same
    cases same

end Script

namespace Engine

variable {e t : Engine}

theorem serve_script_mode (e : Engine) (request : Script.Request) :
    (e.serve (.script request)).1.dialogue.mode = e.dialogue.mode := by
  rw [serve]
  dsimp only
  split <;> rfl

theorem Scripted.step_of_empty (h : t.Scripted) (empty : t.dialogue.machine = .empty) :
    ∃ notices, t.step = ({ t with
      bench := t.bench.notices notices
      dialogue.mode := if t.dialogue.manual then .interactive else .halted }, none) := by
  have ends : t.dialogue.stepScript = ({ t.dialogue with
      mode := if t.dialogue.manual then .interactive else .halted },
      t.dialogue.stepScript.2.1, .script .nothing) := by
    have mode := h.mode
    generalize t.dialogue = d at empty mode ⊢
    obtain ⟨linked, _, manual, _⟩ := d
    obtain rfl : _ = Mode.scripted := mode
    obtain rfl : _ = Script.Machine.empty := empty
    cases manual <;> rfl
  refine ⟨t.dialogue.stepScript.2.1, ?_⟩
  rw [h.step_eq, ends]
  rfl

theorem Scripted.mode_cases (h : t.Scripted) {reads : Script.Reading → List Script → Prop}
    (busy : Script.Busy reads t.dialogue.machine) (stack : t.dialogue.machine.stack ≠ []) :
    t.step.1.dialogue.mode = .scripted ∨
      t.step.1.dialogue.mode = .interactive ∧ t.step.1.dialogue.machine.stack ≠ [] := by
  rw [h.step_eq, Dialogue.stepScript]
  cases stepped : t.dialogue.machine.step with
  | mk machine rest =>
      obtain ⟨notices, request⟩ := rest
      have asks : t.dialogue.machine.step.2.2 = request := by rw [stepped]
      cases request with
      | finish outcome =>
          rcases busy.finishes asks with ⟨-, empty⟩ | ⟨rfl, r, below, -, -, behind⟩
          · rw [empty] at stack
            exact absurd rfl stack
          · rw [stepped] at behind
            obtain rfl : machine = r.behind below := behind
            refine .inr ⟨?_, ?_⟩
            · rw [serve_script_mode]
              simp [Dialogue.switch, Mode.switch, h.mode]
            · exact List.cons_ne_nil _ _
      | _ => exact .inl ((serve_script_mode _ _).trans h.mode)

/-- A session that is not halted, and whose scripts have the turn only if there are some. -/
structure Stays (d : Dialogue) : Prop where
  running : d.mode ≠ .halted
  scripted : d.mode = .scripted → d.machine.stack ≠ []

theorem Stays.of_interactive {d : Dialogue} (mode : d.mode = .interactive) : Stays d :=
  ⟨by simp [mode], by simp [mode]⟩

theorem act_stays (mode : e.dialogue.mode = .interactive) (deed : Dialogue.Deed) :
    Stays (e.act deed).1.dialogue := by
  rcases e.act_dialogue deed with same | ⟨s, entered⟩
  · rw [same]
    exact .of_interactive mode
  · rw [entered]
    have scripted : (e.dialogue.enter s).1.mode = .scripted := by
      simp [Dialogue.enter, Dialogue.switch, Mode.switch, mode]
    refine ⟨by simp [scripted], fun _ => ?_⟩
    simp [Dialogue.enter, Dialogue.switch, Script.Machine.push]

theorem hear_stays (mode : e.dialogue.mode = .interactive) {line : Text}
    (other : OperatorLine.parse line ≠ .halt) :
    Stays (act { e with dialogue := (e.dialogue.hear (some line)).1 }
      (e.dialogue.hear (some line)).2.2).1.dialogue := by
  rw [Dialogue.hear]
  cases kind : OperatorLine.parse line with
  | halt => exact absurd kind other
  | resume =>
      dsimp only
      split
      case isTrue waiting =>
        have scripted : (e.dialogue.switch (e.dialogue.mode.switch .scripted)).1.mode =
            .scripted := by
          simp [Dialogue.switch, Mode.switch, mode]
        exact ⟨by simp [act, scripted], fun _ => List.ne_nil_of_length_pos waiting⟩
      case isFalse => exact act_stays mode _
  | _ => exact act_stays mode _

structure Dismissed (t : Engine) : Prop where
  interactive : t.Interactive
  heard : (t.bench.ask t.operator).2.2.dismisses

theorem Dismissed.step (h : t.Dismissed) :
    ∃ notices, t.step = ({ t with
      bench := (t.bench.ask t.operator).1.notices notices
      operator := (t.bench.ask t.operator).2.1
      dialogue.mode := .halted }, none) := by
  have heard := h.heard
  rw [h.interactive.step, serve]
  generalize t.bench.ask t.operator = told at heard ⊢
  obtain ⟨bench, operator, _ | line | cause | silence⟩ := told
  case line line =>
    have deed : ∃ notices, t.dialogue.hear line =
        ({ t.dialogue with mode := .halted }, notices, .nothing) := by
      cases line with
      | none => exact ⟨_, by simp [Dialogue.hear, Dialogue.halt_eq]; rfl⟩
      | some line =>
          have asks : OperatorLine.parse line = .halt := heard
          exact ⟨_, by simp [Dialogue.hear, asks, Dialogue.halt_eq]; rfl⟩
    obtain ⟨notices, hears⟩ := deed
    exact ⟨notices, by simp only [hears, act]⟩
  all_goals cases heard

theorem Interactive.stays (h : t.Interactive) (goesOn : t.step.2 = none)
    (kept : ¬ t.Dismissed) : Stays t.step.1.dialogue := by
  have other : ¬ (t.bench.ask t.operator).2.2.dismisses := fun heard => kept ⟨h, heard⟩
  rw [h.step, serve] at goesOn ⊢
  generalize t.bench.ask t.operator = told at goesOn other ⊢
  obtain ⟨bench, operator, heard⟩ := told
  cases heard with
  | failed cause => cases goesOn
  | silence => exact .of_interactive h.mode
  | line line =>
      cases line with
      | none => exact absurd trivial other
      | some line =>
          exact hear_stays (e := { t with
            bench := bench.notices (t.dialogue.hear (some line)).2.1
            operator }) h.mode other

/-- The scripts' turn, at the end of all of them. -/
structure Exhausted (t : Engine) : Prop where
  scripted : t.Scripted
  stack : t.dialogue.machine.stack = []

def Halts (t : Engine) : Prop := t.Dismissed ∨ t.Exhausted ∧ t.dialogue.manual = false

def Breaks (t : Engine) : Prop :=
  (∃ cause, Bench.Fails t.bench t.step.1.bench cause) ∨ ∃ cause, t.Misread cause

theorem step_manual (t : Engine) : t.step.1.dialogue.manual = t.dialogue.manual := by
  rcases t.turn with unlinked | ended | scripted | interactive
  · rw [step_of_unlinked unlinked, serve]
    split <;> rfl
  · obtain ⟨notices, stepped⟩ := ended.step
    rw [stepped]
  · obtain ⟨mode, change, -, stepped, -⟩ := scripted.step
    rw [stepped]
  · rw [interactive.step]
    obtain ⟨mode, same | ⟨s, pushed⟩⟩ := t.ask_dialogue
    · rw [same]
    · rw [pushed]

theorem EndsBySend.ne_ok {ending : Option Ending} (h : EndsBySend ending) :
    ending ≠ some (.ok ()) := by
  rw [EndsBySend] at h
  rw [h]
  cases sendFault? ending <;> simp

theorem step_ok_iff (linked : t.dialogue.linked = true) :
    t.step.2 = some (.ok ()) ↔ t.Over := by
  constructor
  · intro fine
    rcases t.turn with unlinked | ended | scripted | interactive
    · rw [linked] at unlinked
      cases unlinked
    · exact ended
    · exact absurd fine scripted.answers.2.ne_ok
    · obtain ⟨-, ⟨cause, -, failed⟩ | ⟨-, ends⟩⟩ := interactive.answers
      · rw [failed] at fine
        cases fine
      · exact absurd fine ends.ne_ok
  · exact Over.ends

theorem AtLine.halted_iff {n : Nat} (h : e.AtLine n t) (goesOn : t.step.2 = none) :
    t.step.1.dialogue.mode = .halted ↔ t.Halts := by
  rcases turn_of_goesOn h.linked goesOn with scripted | interactive
  · have kept : ¬ t.Dismissed := fun dismissed => by
      have mode := scripted.mode.symm.trans dismissed.interactive.mode
      cases mode
    by_cases stack : t.dialogue.machine.stack = []
    · obtain ⟨notices, stepped⟩ := scripted.step_of_empty (h.busy.empty_of_stack stack)
      have exhausted : t.Exhausted := ⟨scripted, stack⟩
      rw [stepped]
      cases manual : t.dialogue.manual <;> simp [Halts, kept, exhausted, manual]
    · have going : t.step.1.dialogue.mode ≠ .halted := by
        rcases scripted.mode_cases h.busy stack with mode | ⟨mode, -⟩ <;> simp [mode]
      have busy : ¬ t.Exhausted := fun exhausted => stack exhausted.stack
      simp [Halts, kept, busy, going]
  · have idle : ¬ t.Exhausted := fun exhausted => by
      have mode := interactive.mode.symm.trans exhausted.scripted.mode
      cases mode
    by_cases dismissed : t.Dismissed
    · obtain ⟨notices, stepped⟩ := dismissed.step
      rw [stepped]
      simp [Halts, dismissed]
    · have going := (interactive.stays goesOn dismissed).running
      simp [Halts, dismissed, idle, going]

end Engine
end ModemDialog
