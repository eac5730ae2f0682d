import ModemDialog.Engine

/-! Whose turn the next step of an engine is: the link check's before anything else, nobody's
once the session is over, and else that of the scripts or of the operator. -/
namespace ModemDialog
namespace Dialogue

variable {d : Dialogue}

theorem next_of_scripted (linked : d.linked = true) (mode : d.mode = .scripted) :
    d.next true = d.stepScript := by
  simp [next, linked, mode]

theorem next_of_interactive (linked : d.linked = true) (mode : d.mode = .interactive) :
    d.next true = (d, [], .ask) := by
  simp [next, linked, mode]

theorem halt_eq (d : Dialogue) : d.halt.1 = { d with mode := .halted } := by
  simp [halt, switch, Mode.switch]

theorem next_of_over {alive : Bool} (linked : d.linked = true)
    (ended : alive = false ∨ d.mode = .halted) :
    ∃ notices, d.next alive = ({ d with mode := .halted }, notices, .finish) := by
  rcases ended with rfl | mode
  · exact ⟨_, by simp [next, linked, halt_eq]; rfl⟩
  · obtain ⟨link, _, manual, machine⟩ := d
    obtain rfl : _ = Mode.halted := mode
    obtain rfl : link = true := linked
    cases alive <;> exact ⟨_, rfl⟩

theorem hear_keeps (d : Dialogue) (line : Option Text) :
    ∃ mode, (d.hear line).1 = { d with mode } := by
  cases line with
  | none => exact ⟨_, rfl⟩
  | some line =>
      rw [hear]
      cases OperatorLine.parse line with
      | resume =>
          dsimp only
          split <;> exact ⟨_, rfl⟩
      | _ => exact ⟨_, rfl⟩

end Dialogue

namespace Engine

variable {e : Engine}

structure Over (e : Engine) : Prop where
  linked : e.dialogue.linked = true
  ended : e.bench.alive = false ∨ e.dialogue.mode = .halted

structure Scripted (e : Engine) : Prop where
  linked : e.dialogue.linked = true
  alive : e.bench.alive = true
  mode : e.dialogue.mode = .scripted

structure Interactive (e : Engine) : Prop where
  linked : e.dialogue.linked = true
  alive : e.bench.alive = true
  mode : e.dialogue.mode = .interactive

theorem turn (e : Engine) :
    e.dialogue.linked = false ∨ e.Over ∨ e.Scripted ∨ e.Interactive := by
  cases linked : e.dialogue.linked with
  | false => exact .inl rfl
  | true =>
      cases alive : e.bench.alive with
      | false => exact .inr (.inl ⟨linked, .inl alive⟩)
      | true =>
          cases mode : e.dialogue.mode with
          | halted => exact .inr (.inl ⟨linked, .inr mode⟩)
          | scripted => exact .inr (.inr (.inl ⟨linked, alive, mode⟩))
          | interactive => exact .inr (.inr (.inr ⟨linked, alive, mode⟩))

theorem step_of_unlinked (unlinked : e.dialogue.linked = false) : e.step = e.serve .checkLink := by
  simp only [step, Dialogue.next, unlinked]
  rfl

theorem Over.step (h : e.Over) :
    ∃ notices, e.step =
      ({ e with dialogue.mode := .halted, bench := e.bench.notices notices }, some (.ok ())) := by
  obtain ⟨notices, next⟩ := Dialogue.next_of_over h.linked h.ended
  exact ⟨notices, by rw [Engine.step, next]; rfl⟩

theorem Over.ends (h : e.Over) : e.step.2 = some (.ok ()) := by
  obtain ⟨notices, stepped⟩ := h.step
  rw [stepped]

theorem turn_of_goesOn (linked : e.dialogue.linked = true) (goesOn : e.step.2 = none) :
    e.Scripted ∨ e.Interactive := by
  rcases e.turn with unlinked | ended | turn
  · rw [linked] at unlinked
    cases unlinked
  · rw [ended.ends] at goesOn
    cases goesOn
  · exact turn

theorem Interactive.step (h : e.Interactive) : e.step = e.serve .ask := by
  rw [Engine.step, h.alive, Dialogue.next_of_interactive h.linked h.mode]
  rfl

theorem checkLink_bench (e : Engine) :
    ∃ notices, (e.serve .checkLink).1.bench =
      (e.bench.send .script e.linkCheck.command e.timeout).1.notices notices := by
  rw [serve, Bench.checkLink]
  cases e.bench.send .script e.linkCheck.command e.timeout with
  | mk bench result =>
      cases result with
      | error fault => exact ⟨[], rfl⟩
      | ok response =>
          dsimp only
          cases e.linkCheck.judge response with
          | error fault => exact ⟨[], rfl⟩
          | ok _ => exact ⟨.linkAnswered e.linkCheck.command :: e.dialogue.link.2, rfl⟩

theorem act_send_bench (e : Engine) (command : Text) :
    (e.act (.send command)).1.bench = (e.bench.send .operator command e.timeout).1 := by
  rw [act]
  cases e.bench.send .operator command e.timeout with
  | mk bench result => cases result <;> rfl

theorem act_dialogue (e : Engine) (deed : Dialogue.Deed) :
    (e.act deed).1.dialogue = e.dialogue ∨
      ∃ s, (e.act deed).1.dialogue = (e.dialogue.enter s).1 := by
  cases deed with
  | load path =>
      rw [act]
      split
      · rename_i s loaded
        exact .inr ⟨s, rfl⟩
      · exact .inl rfl
  | send command =>
      rw [act]
      split <;> exact .inl rfl
  | _ => exact .inl rfl

theorem ask_dialogue (e : Engine) :
    ∃ mode, (e.serve .ask).1.dialogue = { e.dialogue with mode } ∨
      ∃ s, (e.serve .ask).1.dialogue =
        { e.dialogue with mode, machine := (e.dialogue.machine.push s).1 } := by
  rw [serve]
  split
  · exact ⟨_, .inl rfl⟩
  · exact ⟨_, .inl rfl⟩
  · rename_i bench operator line asked
    obtain ⟨mode, heard⟩ := e.dialogue.hear_keeps line
    rcases act_dialogue { e with
        bench := bench.notices (e.dialogue.hear line).2.1
        operator
        dialogue := (e.dialogue.hear line).1 } (e.dialogue.hear line).2.2 with
      same | ⟨s, entered⟩
    · exact ⟨mode, .inl (same.trans heard)⟩
    · refine ⟨mode.switch .scripted, .inr ⟨s, entered.trans ?_⟩⟩
      rw [heard]
      rfl

theorem Scripted.step (h : e.Scripted) :
    ∃ mode change,
      let m := e.dialogue.machine.step
      let served := Script.Stage.serve ⟨e.files, e.timeout⟩ (e.bench.notices (m.2.1 ++ change))
        m.1 m.2.2
      (mode = .scripted ∧ change = [] ∨ ∃ outcome, m.2.2 = .finish outcome) ∧
        e.step.1 = { e with
          bench := served.1.bench
          dialogue := { e.dialogue with mode, machine := served.1.machine } } ∧
        e.step.2 = match served.2 with
          | some (.error fault) => some (.error (.send fault))
          | _ => none := by
  rw [Engine.step, h.alive, Dialogue.next_of_scripted h.linked h.mode, Dialogue.stepScript]
  cases stepped : e.dialogue.machine.step with
  | mk machine rest =>
      obtain ⟨notices, request⟩ := rest
      cases request with
      | finish outcome => exact ⟨_, _, .inr ⟨outcome, rfl⟩, rfl, rfl⟩
      | _ =>
          refine ⟨.scripted, [], .inl ⟨rfl, rfl⟩, ?_⟩
          rw [← h.mode, List.append_nil]
          dsimp only [serve]
          generalize Script.Stage.serve _ _ _ _ = served
          obtain ⟨stage, ending⟩ := served
          cases ending with
          | none => exact ⟨rfl, rfl⟩
          | some ending => cases ending <;> exact ⟨rfl, rfl⟩

end Engine
end ModemDialog
