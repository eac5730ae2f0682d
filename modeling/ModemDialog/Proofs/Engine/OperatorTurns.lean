import ModemDialog.Proofs.Engine.Dealing

/-! The operator's turns, one by one: a line that is handed over has its command written before
the next turn, and no command is written for the operator but so. -/
namespace ModemDialog

def Deal.ofOperator : Deal → Bool
  | .write .script _ => false
  | _ => true

theorem Deal.ofOperator_script (writes : List Bytes) :
    (writes.map (Deal.write .script)).filter Deal.ofOperator = [] := by
  refine List.filter_eq_nil_iff.mpr fun d member => ?_
  obtain ⟨data, -, rfl⟩ := List.mem_map.mp member
  exact Bool.false_ne_true

theorem Deal.ofOperator_line (line : Text) :
    (Deal.ofLine line).filter Deal.ofOperator = Deal.ofLine line := by
  unfold ofLine
  split <;> rfl

namespace Engine

variable {e : Engine}

/-- The turns that have been taken from the operator: those that handed over their lines, and
then at most one that did not, at which the session comes to its end. -/
structure Takes (e : Engine) (result : Engine × Option Ending)
    (given missed : List OperatorTurn) : Prop where
  turns : e.operator.turns = given ++ missed ++ result.1.operator.turns
  taken : result.1.operator.taken = e.operator.taken + (given ++ missed).length
  missed : missed = [] ∨ missed.length = 1 ∧ (result.1.Over ∨ result.2.isSome = true)
  deals : ∃ deals, Bench.Deals e.bench result.1.bench deals ∧
    deals.filter Deal.ofOperator = given.flatMap fun turn => Deal.ofLine turn.line

namespace Takes

theorem of_scripts {result : Engine × Option Ending} (writes : List Bytes)
    (operator : result.1.operator = e.operator)
    (deals : Bench.Deals e.bench result.1.bench (writes.map (.write .script))) :
    Takes e result [] [] :=
  ⟨by rw [operator]; rfl, by rw [operator]; rfl, .inl rfl,
    _, deals, Deal.ofOperator_script writes⟩

end Takes

theorem checkLink_operator (e : Engine) : (e.serve .checkLink).1.operator = e.operator := by
  rw [serve]
  split <;> rfl

theorem act_operator (e : Engine) (deed : Dialogue.Deed) :
    (e.act deed).1.operator = e.operator := by
  cases deed with
  | load path =>
      rw [act]
      split <;> rfl
  | send command =>
      rw [act]
      split <;> rfl
  | _ => rfl

theorem over_of_closed (linked : e.dialogue.linked = true) (bench : Bench)
    (operator : Operator) :
    Over { e with bench, operator, dialogue := (e.dialogue.hear none).1 } := by
  refine ⟨linked, .inr ?_⟩
  simp [Dialogue.hear, Dialogue.halt_eq]

theorem Interactive.takes (h : e.Interactive) : ∃ given missed, Takes e e.step given missed := by
  have cases := e.bench.ask_cases e.operator
  have deals := h.deals
  rw [h.step] at deals ⊢
  rw [serve] at deals ⊢
  generalize e.bench.ask e.operator = asked at cases deals ⊢
  obtain ⟨bench, operator, heard⟩ := asked
  rcases cases with ⟨-, rfl, -, rfl | rfl⟩ |
      ⟨turn, turns, comes, rfl, ⟨-, rfl | ⟨cause, rfl⟩⟩ | ⟨mid, -, rfl, rfl⟩⟩
  · exact ⟨[], [], rfl, rfl, .inl rfl, [], deals, rfl⟩
  · exact ⟨[], [], rfl, rfl, .inl rfl, [], deals, rfl⟩
  · exact ⟨[], [turn], comes, rfl, .inr ⟨rfl, .inl (over_of_closed h.linked _ _)⟩, [], deals, rfl⟩
  · exact ⟨[], [turn], comes, rfl, .inr ⟨rfl, .inr rfl⟩, [], deals, rfl⟩
  · have kept := act_operator { e with
      bench := (mid.happen (.typed turn.line)).notices (e.dialogue.hear (some turn.line)).2.1
      dialogue := (e.dialogue.hear (some turn.line)).1
      operator := { e.operator with turns, taken := e.operator.taken + 1 } }
      (e.dialogue.hear (some turn.line)).2.2
    refine ⟨[turn], [], comes.trans ?_, ?_, .inl rfl, _, deals, ?_⟩
    · exact congrArg (turn :: ·) (congrArg Operator.turns kept).symm
    · exact congrArg Operator.taken kept
    · rw [List.flatMap_singleton]
      exact Deal.ofOperator_line turn.line

theorem step_takes (e : Engine) : ∃ given missed, Takes e e.step given missed := by
  rcases e.turn with unlinked | ended | scripted | interactive
  · rw [step_of_unlinked unlinked]
    exact ⟨[], [], .of_scripts [wire e.linkCheck.command] e.checkLink_operator e.checkLink_deals⟩
  · obtain ⟨notices, stepped⟩ := ended.step
    exact ⟨[], [], .of_scripts [] (by rw [stepped]) ended.deals⟩
  · obtain ⟨mode, change, -, stepped, -⟩ := scripted.step
    exact ⟨[], [], .of_scripts _ (by rw [stepped]) scripted.deals⟩
  · exact interactive.takes

theorem Over.takes (h : e.Over) : Takes e e.step [] [] := by
  obtain ⟨notices, stepped⟩ := h.step
  exact .of_scripts [] (by rw [stepped]) h.deals

theorem Takes.trans {t : Engine} {given missed later missed' : List OperatorTurn}
    (h : Takes e (t, none) given missed) (k : Takes t t.step later missed') :
    ∃ given missed, Takes e t.step given missed := by
  obtain ⟨dealt, deals, own⟩ := h.deals
  obtain ⟨dealt', deals', own'⟩ := k.deals
  rcases h.missed with rfl | ⟨one, closed | ended⟩
  · refine ⟨given ++ later, missed', ?_, ?_, k.missed, _, deals.trans deals', ?_⟩
    · rw [h.turns, k.turns]
      simp
    · rw [k.taken, h.taken]
      simp
      omega
    · rw [List.filter_append, own, own', List.flatMap_append]
  · -- The turn that handed over no line was the last one.
    have last := closed.takes
    obtain ⟨dealt', deals', own'⟩ := last.deals
    obtain ⟨notices, stepped⟩ := closed.step
    refine ⟨given, missed, ?_, ?_, .inr ⟨one, .inr (by rw [stepped]; rfl)⟩, _,
      deals.trans deals', ?_⟩
    · rw [h.turns, last.turns]
      rfl
    · rw [last.taken, h.taken]
      rfl
    · rw [List.filter_append, own, own', List.flatMap_nil, List.append_nil]
  · cases ended

theorem advance_takes (e : Engine) (n : Nat) :
    ∃ given missed, Takes e (advance step n e) given missed := by
  induction n with
  | zero => exact ⟨[], [], rfl, rfl, .inl rfl, [], .refl _, rfl⟩
  | succ n ih =>
      obtain ⟨given, missed, takes⟩ := ih
      rw [advance_succ]
      cases reached : advance step n e with
      | mk t ending =>
          rw [reached] at takes
          cases ending with
          | some ending => exact ⟨given, missed, takes⟩
          | none =>
              obtain ⟨later, missed', next⟩ := t.step_takes
              exact takes.trans next

end Engine
end ModemDialog
