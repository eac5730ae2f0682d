import ModemDialog.Proofs.Engine.Shutdown
import ModemDialog.Proofs.Engine.Dealing
import ModemDialog.Proofs.Session.Failing

/-! Steps that end a session with an error: those whose write fails, and those in which the
operator cannot be read. -/
namespace ModemDialog

namespace Bench

theorem ask_unwritten (b : Bench) (operator : Operator) : Unwritten b (b.ask operator).1 := by
  cases comes : operator.turns with
  | nil =>
      rw [ask_of_none b comes]
      split
      · exact .of_ensues b.hold_line.ensues
      · exact .refl b
  | cons turn turns =>
      have waited := Unwritten.of_ensues (b.attend_line turn).ensues
      rw [ask_of_turn b comes]
      dsimp only
      split
      · exact waited
      · split
        · exact waited
        · refine waited.trans (.trans ?_ (.typed turn.line _))
          split
          · exact .of_ensues (stop_line _).ensues
          · exact .refl _

end Bench

namespace Script.Stage

open Bench (Answers faultOf)

theorem serve_answers (setup : Setup) (b : Bench) (m : Machine) (request : Request) :
    Answers b (serve setup b m request).1.bench ((serve setup b m request).2.bind faultOf) := by
  cases request with
  | send command =>
      have answers := b.send_answers .script command setup.timeout
      rw [serve]
      cases sent : b.send .script command setup.timeout with
      | mk c result =>
          rw [sent] at answers
          cases result <;> exact answers
  | pause d => exact .inl ⟨.of_ensues (b.pause_line d).ensues, rfl⟩
  | hold => exact .inl ⟨.of_ensues b.hold_line.ensues, rfl⟩
  | load path script line =>
      rw [serve]
      split <;> exact .inl ⟨.notices [_] b, rfl⟩
  | nothing => exact .inl ⟨.refl b, rfl⟩
  | finish outcome => exact .inl ⟨.refl b, rfl⟩

end Script.Stage

namespace Engine

open Bench (Unwritten Answers Fails faultOf)

variable {e t : Engine}

def sendFault? : Option Ending → Option SendFault
  | some (.error (.send fault)) => some fault
  | _ => none

/-- Nothing but a write that has failed ends a session here. -/
def EndsBySend (ending : Option Ending) : Prop :=
  ending = (sendFault? ending).map fun fault => .error (.send fault)

theorem EndsBySend.fails_iff {ending : Option Ending} (h : EndsBySend ending) :
    (∃ fault, ending = some (.error fault)) ↔ sendFault? ending ≠ none := by
  unfold EndsBySend at h
  cases told : sendFault? ending with
  | none =>
      rw [told] at h
      simp [h]
  | some fault =>
      rw [told] at h
      simp [h]

theorem act_answers (e : Engine) (deed : Dialogue.Deed) :
    Answers e.bench (e.act deed).1.bench (sendFault? (e.act deed).2) ∧
      EndsBySend (e.act deed).2 := by
  cases deed with
  | nothing => exact ⟨.inl ⟨.refl _, rfl⟩, rfl⟩
  | load path =>
      rw [act]
      split
      · exact ⟨.inl ⟨.notices _ _, rfl⟩, rfl⟩
      · exact ⟨.inl ⟨.trans (.notices [_] _) (.print _ _), rfl⟩, rfl⟩
  | print text => exact ⟨.inl ⟨.print _ _, rfl⟩, rfl⟩
  | send command =>
      have answers := e.bench.send_answers .operator command e.timeout
      rw [act]
      cases sent : e.bench.send .operator command e.timeout with
      | mk bench result =>
          rw [sent] at answers
          cases result <;> exact ⟨answers, rfl⟩

theorem Scripted.answers (h : t.Scripted) :
    Answers t.bench t.step.1.bench (sendFault? t.step.2) ∧ EndsBySend t.step.2 := by
  obtain ⟨mode, change, -, stepped, ends⟩ := h.step
  have answers := Script.Stage.serve_answers ⟨t.files, t.timeout⟩
    (t.bench.notices (t.dialogue.machine.step.2.1 ++ change)) t.dialogue.machine.step.1
    t.dialogue.machine.step.2.2
  rw [stepped, ends]
  generalize Script.Stage.serve _ _ _ _ = served at answers ⊢
  obtain ⟨stage, ending⟩ := served
  have whole := answers.of_unwritten (.notices _ _)
  rcases ending with _ | fault | outcome <;> exact ⟨whole, rfl⟩

def Misread (t : Engine) (cause : Text) : Prop :=
  t.Interactive ∧ (t.bench.ask t.operator).2.2 = .failed cause

theorem Interactive.answers (h : t.Interactive) :
    Answers t.bench t.step.1.bench (sendFault? t.step.2) ∧
      ((∃ cause, t.Misread cause ∧ t.step.2 = some (.error (.operator cause))) ∨
        (∀ cause, ¬ t.Misread cause) ∧ EndsBySend t.step.2) := by
  have asked := t.bench.ask_unwritten t.operator
  have misread : ∀ cause, t.Misread cause ↔ (t.bench.ask t.operator).2.2 = .failed cause :=
    fun cause => and_iff_right h
  simp only [misread]
  rw [h.step, serve]
  generalize t.bench.ask t.operator = told at asked ⊢
  obtain ⟨bench, operator, heard⟩ := told
  cases heard with
  | failed cause => exact ⟨.inl ⟨asked, rfl⟩, .inl ⟨cause, rfl, rfl⟩⟩
  | silence => exact ⟨.inl ⟨asked, rfl⟩, .inr ⟨by simp, rfl⟩⟩
  | line line =>
      obtain ⟨answers, ends⟩ := act_answers { t with
        bench := bench.notices (t.dialogue.hear line).2.1
        operator
        dialogue := (t.dialogue.hear line).1 } (t.dialogue.hear line).2.2
      exact ⟨answers.of_unwritten (asked.trans (.notices _ bench)), .inr ⟨by simp, ends⟩⟩

/-- Behind the link check, a step ends the session with an error just if its write fails or
the operator cannot be read. -/
theorem step_fails_iff (linked : t.dialogue.linked = true) :
    (∃ fault, t.step.2 = some (.error fault)) ↔
      (∃ cause, Fails t.bench t.step.1.bench cause) ∨ ∃ cause, t.Misread cause := by
  rcases t.turn with unlinked | ended | scripted | interactive
  · rw [linked] at unlinked
    cases unlinked
  · obtain ⟨notices, stepped⟩ := ended.step
    have fine : Answers t.bench t.step.1.bench none := by
      rw [stepped]
      exact .inl ⟨.notices notices _, rfl⟩
    have read : ∀ cause, ¬ t.Misread cause := by
      rintro cause ⟨interactive, -⟩
      rcases ended.ended with dead | halted
      · rw [interactive.alive] at dead
        cases dead
      · rw [interactive.mode] at halted
        cases halted
    rw [← fine.fails_iff, stepped]
    simp [read]
  · obtain ⟨answers, ends⟩ := scripted.answers
    have read : ∀ cause, ¬ t.Misread cause := by
      rintro cause ⟨interactive, -⟩
      have mode := scripted.mode.symm.trans interactive.mode
      cases mode
    rw [ends.fails_iff, answers.fails_iff]
    simp [read]
  · obtain ⟨answers, ⟨cause, misread, failed⟩ | ⟨read, ends⟩⟩ := interactive.answers
    · exact ⟨fun _ => .inr ⟨cause, misread⟩, fun _ => ⟨_, failed⟩⟩
    · rw [ends.fails_iff, answers.fails_iff]
      simp [read]

end Engine
end ModemDialog
