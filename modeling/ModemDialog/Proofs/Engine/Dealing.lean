import ModemDialog.Proofs.Engine.Shutdown
import ModemDialog.Proofs.Session.Deals

/-! What each turn of an engine deals: the link check and the scripts only write, and the
operator hands over a line and has its command written before anything else. -/
namespace ModemDialog

def OperatorLine.isSend : OperatorLine → Bool
  | .send _ => true
  | _ => false

theorem OperatorLine.parse_writes (raw : Text) :
    (parse raw).writes = if (parse raw).isSend then [wire (Text.trim raw)] else [] := by
  unfold parse
  dsimp only
  split
  · rfl
  · split
    · rfl
    · split
      · split <;> rfl
      · rfl

/-- What is dealt when the operator hands over a line: the line, and behind it its command. -/
def Deal.ofLine (line : Text) : List Deal :=
  .line line ::
    if (OperatorLine.parse line).isSend then [.write .operator (wire (Text.trim line))] else []

theorem Deal.ofLine_eq (line : Text) :
    ofLine line = .line line :: (OperatorLine.parse line).writes.map (.write .operator) := by
  rw [ofLine, OperatorLine.parse_writes]
  split <;> rfl

def Heard.deals : Heard → List Deal
  | .line (some text) => Deal.ofLine text
  | _ => []

namespace Script.Stage

theorem serve_deals (setup : Setup) (b : Bench) (m : Machine) (request : Request) :
    Bench.Deals b (serve setup b m request).1.bench (request.writes.map (.write .script)) := by
  cases request with
  | send command =>
      rw [serve_send_bench]
      exact b.send_deals .script command setup.timeout
  | pause d => exact (b.pause_line d).idles.deals
  | hold => exact b.hold_line.idles.deals
  | load path script line =>
      rw [serve]
      split
      · exact b.notices_deals [_]
      · exact b.notices_deals [_]
  | _ => exact .refl b

end Script.Stage

namespace Bench

def attend (b : Bench) (turn : OperatorTurn) : Bench :=
  match turn.wait with
  | some ms => b.pause (.ofMillis ms)
  | none => b

theorem attend_line (b : Bench) (turn : OperatorTurn) : Line b (b.attend turn) := by
  unfold attend
  split
  · exact b.pause_line _
  · exact .refl b

theorem ask_of_turn {operator : Operator} {turn : OperatorTurn} {turns : List OperatorTurn}
    (b : Bench) (comes : operator.turns = turn :: turns) :
    b.ask operator =
      let later := { operator with turns, taken := operator.taken + 1 }
      let c := b.attend turn
      if !c.alive then (c, later, .line none)
      else match turn.fails with
        | some cause => (c, later, .failed cause)
        | none => ((if turn.halts then c.stop else c).happen (.typed turn.line), later,
            .line (some turn.line)) := by
  rw [ask, comes]
  rfl

theorem ask_of_none {operator : Operator} (b : Bench) (none : operator.turns = []) :
    b.ask operator =
      if operator.staysOpen then
        (b.hold, operator, if b.hold.alive then .silence else .line .none)
      else (b, operator, .line .none) := by
  rw [ask, none]

theorem ask_cases (b : Bench) (operator : Operator) :
    let asked := b.ask operator
    (operator.turns = [] ∧ asked.2.1 = operator ∧ Idles b asked.1 ∧
        (asked.2.2 = .silence ∨ asked.2.2 = .line none)) ∨
      ∃ turn turns, operator.turns = turn :: turns ∧
        asked.2.1 = { operator with turns, taken := operator.taken + 1 } ∧
        ((Idles b asked.1 ∧ (asked.2.2 = .line none ∨ ∃ cause, asked.2.2 = .failed cause)) ∨
          ∃ mid, Idles b mid ∧ asked.1 = mid.happen (.typed turn.line) ∧
            asked.2.2 = .line (some turn.line)) := by
  intro asked
  cases comes : operator.turns with
  | nil =>
      refine .inl ⟨rfl, ?_⟩
      have told : asked = b.ask operator := rfl
      rw [ask_of_none b comes] at told
      rw [told]
      split
      · refine ⟨rfl, b.hold_line.idles, ?_⟩
        cases b.hold.alive
        · exact .inr rfl
        · exact .inl rfl
      · exact ⟨rfl, .refl b, .inr rfl⟩
  | cons turn turns =>
      refine .inr ⟨turn, turns, rfl, ?_⟩
      have told : asked = b.ask operator := rfl
      rw [ask_of_turn b comes] at told
      dsimp only at told
      rw [told]
      have waited := (b.attend_line turn).idles
      split
      · exact ⟨rfl, .inl ⟨waited, .inl rfl⟩⟩
      · cases turn.fails with
        | some cause => exact ⟨rfl, .inl ⟨waited, .inr ⟨cause, rfl⟩⟩⟩
        | none =>
            refine ⟨rfl, .inr ⟨_, ?_, rfl, rfl⟩⟩
            split
            · exact waited.trans (stop_line _).idles
            · exact waited

end Bench

namespace Engine

variable {e : Engine}

theorem act_deals (e : Engine) (deed : Dialogue.Deed) :
    Bench.Deals e.bench (e.act deed).1.bench (deed.writes.map (.write .operator)) := by
  cases deed with
  | nothing => exact .refl _
  | load path =>
      rw [act]
      split
      · exact e.bench.notices_deals _
      · exact (e.bench.notices_deals [_]).trans (Bench.print_deals _ _)
  | print text => exact Bench.print_deals _ _
  | send command =>
      rw [act_send_bench]
      exact e.bench.send_deals .operator command e.timeout

theorem checkLink_deals (e : Engine) :
    Bench.Deals e.bench (e.serve .checkLink).1.bench
      [.write .script (wire e.linkCheck.command)] := by
  obtain ⟨notices, bench⟩ := e.checkLink_bench
  rw [bench]
  exact (e.bench.send_deals .script e.linkCheck.command e.timeout).idles
    (Bench.notices_deals _ _)

theorem Scripted.deals (h : e.Scripted) :
    Bench.Deals e.bench e.step.1.bench
      (e.dialogue.machine.step.2.2.writes.map (.write .script)) := by
  obtain ⟨mode, change, -, stepped, -⟩ := h.step
  rw [stepped]
  exact (Bench.notices_deals _ _).trans (Script.Stage.serve_deals _ _ _ _)

theorem Over.deals (h : e.Over) : Bench.Deals e.bench e.step.1.bench [] := by
  obtain ⟨notices, stepped⟩ := h.step
  rw [stepped]
  exact Bench.notices_deals _ _

theorem ask_deals (e : Engine) :
    Bench.Deals e.bench (e.serve .ask).1.bench (e.bench.ask e.operator).2.2.deals := by
  have cases := e.bench.ask_cases e.operator
  rw [serve]
  generalize e.bench.ask e.operator = asked at cases ⊢
  obtain ⟨bench, operator, heard⟩ := asked
  have closed (idles : Bench.Idles e.bench bench) :=
    idles.deals.trans (bench.notices_deals (e.dialogue.hear none).2.1)
  rcases cases with ⟨-, rfl, idles, rfl | rfl⟩ |
      ⟨turn, turns, comes, rfl, ⟨idles, rfl | ⟨cause, rfl⟩⟩ | ⟨mid, idles, rfl, rfl⟩⟩
  · exact idles.deals
  · exact closed idles
  · exact closed idles
  · exact idles.deals
  · dsimp only
    have writes := e.dialogue.hear_writes turn.line
    generalize e.dialogue.hear (some turn.line) = told at writes ⊢
    obtain ⟨dialogue, notices, deed⟩ := told
    have typed := (idles.deals.trans (mid.typed_deals turn.line)).trans
      (Bench.notices_deals notices _)
    have whole := typed.trans (act_deals { e with
      bench := (mid.happen (.typed turn.line)).notices notices
      dialogue
      operator := { e.operator with turns, taken := e.operator.taken + 1 } } deed)
    rw [writes] at whole
    rw [Heard.deals, Deal.ofLine_eq]
    exact whole

theorem Interactive.deals (h : e.Interactive) :
    Bench.Deals e.bench e.step.1.bench (e.bench.ask e.operator).2.2.deals := by
  rw [h.step]
  exact e.ask_deals

end Engine
end ModemDialog
