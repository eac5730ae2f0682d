import ModemDialog.Proofs.Script.Block
import ModemDialog.Script.Machine

/-! The stack under a step of the script machine. Only the active script is read, and only
its end or a `break` uncovers the one below, which is as it was left. -/
namespace ModemDialog.Script

structure Further (s later : Script) : Prop where
  name : later.name = s.name
  pending : later.pending <:+ s.pending

namespace Further

theorem refl (s : Script) : Further s s := ⟨rfl, List.suffix_refl _⟩

theorem trans {s mid later : Script} (h : Further s mid) (k : Further mid later) :
    Further s later :=
  ⟨k.name.trans h.name, k.pending.trans h.pending⟩

theorem next (name : Text) (line : ScriptLine) (rest : List ScriptLine) :
    Further ⟨name, line :: rest⟩ ⟨name, rest⟩ :=
  ⟨rfl, List.suffix_cons line rest⟩

end Further

/-- The script is over: it is at its end, or at a `break`. -/
def Over (s : Script) : Prop := ∀ line ∈ s.pending.head?, Directive.parse line.text = .leave

theorem behindBlock_suffix (lines : List ScriptLine) : behindBlock lines <:+ lines := by
  unfold behindBlock block?
  cases (List.range lines.length).find? (endsBlock 0 lines) with
  | none => exact List.nil_suffix
  | some i => exact List.drop_suffix _ _

theorem LoopPlan.build_further (s : Script) (rounds : Rounds) (start : Nat) :
    Further s (build s rounds start).2 := by
  rw [build_left]
  exact ⟨rfl, behindBlock_suffix s.pending⟩

namespace Machine

theorem stepLoop_stack (stack : List Script) (run : LoopRun) :
    (stepLoop stack run).1.stack = stack := by
  unfold stepLoop
  split <;> rfl

theorem beginLoop_stack (stack : List Script) (plan : LoopPlan) :
    (beginLoop stack plan).1.stack = stack := by
  unfold beginLoop
  split <;> rfl

theorem stepLine_of_leave {line : ScriptLine} (leaves : Directive.parse line.text = .leave)
    (s : Script) (below : List Script) :
    ∃ notices, stepLine s line below = (⟨below, none⟩, notices, .nothing) :=
  ⟨_, by rw [stepLine, leaves]; rfl⟩

theorem stepLine_stack {line : ScriptLine} (stays : Directive.parse line.text ≠ .leave)
    (s : Script) (below : List Script) :
    ∃ s', Further s s' ∧ (stepLine s line below).1.stack = s' :: below := by
  unfold stepLine
  cases parsed : Directive.parse line.text with
  | leave => exact absurd parsed stays
  | loopBegin rounds =>
      have further := LoopPlan.build_further s rounds line.number
      dsimp only
      split
      · rename_i plan s' built
        rw [built] at further
        exact ⟨s', further, beginLoop_stack _ _⟩
      · rename_i fault s' built
        rw [built] at further
        exact ⟨s', further, rfl⟩
  | run path => cases path <;> exact ⟨s, .refl s, rfl⟩
  | invalid keyword fault =>
      have further := LoopPlan.build_further s (.count 1) line.number
      dsimp only
      split
      · split
        · rename_i plan s' built
          rw [built] at further
          exact ⟨s', further, rfl⟩
        · rename_i unclosed s' built
          rw [built] at further
          exact ⟨s', further, rfl⟩
      · exact ⟨s, .refl s, rfl⟩
  | _ => exact ⟨s, .refl s, rfl⟩

theorem step_of_over {s : Script} (ended : s.Over) (below : List Script) :
    ∃ notices, step ⟨s :: below, none⟩ = (⟨below, none⟩, notices, .nothing) := by
  obtain ⟨name, pending⟩ := s
  cases pending with
  | nil => exact ⟨_, rfl⟩
  | cons line rest =>
      obtain ⟨notices, left⟩ := stepLine_of_leave (ended line rfl) ⟨name, rest⟩ below
      exact ⟨_, by simp only [step, next?, left]; rfl⟩

theorem step_stack (m : Machine) {s : Script} {below : List Script} (stack : m.stack = s :: below) :
    (∃ s', Further s s' ∧ m.step.1.stack = s' :: below) ∨ m = ⟨s :: below, none⟩ ∧ s.Over := by
  obtain ⟨_, loop⟩ := m
  obtain rfl : _ = s :: below := stack
  cases loop with
  | some run => exact .inl ⟨s, .refl s, stepLoop_stack _ _⟩
  | none =>
      obtain ⟨name, pending⟩ := s
      cases pending with
      | nil => exact .inr ⟨rfl, fun line none => by cases none⟩
      | cons line rest =>
          by_cases leaves : Directive.parse line.text = .leave
          · refine .inr ⟨rfl, fun first head => ?_⟩
            obtain rfl := Option.some.inj head
            exact leaves
          · obtain ⟨s', further, after⟩ := stepLine_stack leaves ⟨name, rest⟩ below
            exact .inl ⟨s', (Further.next name line rest).trans further, after⟩

/-- `child`, or something it has started, is at work on top of `mothers`. -/
def Within (child : Script) (mothers : List Script) (m : Machine) : Prop :=
  ∃ above current, m.stack = above ++ current :: mothers ∧ Further child current

def Spent (child : Script) (mothers : List Script) (m : Machine) : Prop :=
  ∃ current, m = ⟨current :: mothers, none⟩ ∧ Further child current ∧ current.Over

namespace Within

variable {child : Script} {mothers : List Script} {m : Machine}

theorem lt_depth (h : Within child mothers m) : mothers.length < m.depth := by
  obtain ⟨above, current, stack, -⟩ := h
  rw [depth, stack, List.length_append, List.length_cons]
  omega

theorem push (h : Within child mothers m) (s : Script) : Within child mothers (m.push s).1 := by
  obtain ⟨above, current, stack, further⟩ := h
  exact ⟨s :: above, current, congrArg (s :: ·) stack, further⟩

theorem dropLoop (h : Within child mothers m) : Within child mothers m.dropLoop := h

theorem step (h : Within child mothers m) :
    Within child mothers m.step.1 ∨ Spent child mothers m := by
  obtain ⟨above, current, stack, further⟩ := h
  cases above with
  | nil =>
      rcases m.step_stack stack with ⟨s', later, after⟩ | ⟨machine, ended⟩
      · exact .inl ⟨[], s', after, further.trans later⟩
      · exact .inr ⟨current, machine, further, ended⟩
  | cons s above =>
      rcases m.step_stack stack with ⟨s', later, after⟩ | ⟨rfl, ended⟩
      · exact .inl ⟨s' :: above, current, after, further⟩
      · obtain ⟨notices, stepped⟩ := step_of_over ended (above ++ current :: mothers)
        refine .inl ⟨above, current, ?_, further⟩
        rw [List.append_eq, stepped]

end Within
end Machine
end ModemDialog.Script
