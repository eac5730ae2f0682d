import ModemDialog.Proofs.Script.Diagnosis

/-! Reading a loop takes one block off the script, whatever the lines in it are and however
often they are to be run. The block ends at the first `loopend` ahead of which as many blocks
have been opened as closed. -/
namespace ModemDialog
namespace ScriptLine

open Script (Directive LoopAction LoopPlan)

def action? (line : ScriptLine) : Option LoopAction :=
  match Directive.parse line.text with
  | .command text => some (.send text)
  | .sleep d => some (.pause d)
  | _ => none

theorem action_eq (line : ScriptLine) :
    LoopPlan.action line.text =
      match line.action? with
      | some a => .ok a
      | none => .error line.refusal := by
  unfold LoopPlan.action action? refusal
  cases Directive.parse line.text <;> rfl

end ScriptLine

namespace Script

variable {lines body : List ScriptLine} {i : Nat}

/-- The line `i` is a `loopend`, and the first one ahead of which as many lines close a block
as open one. -/
structure MatchingEnd (lines : List ScriptLine) (i : Nat) : Prop where
  closes : lines[i]?.any ScriptLine.closes = true
  balanced : (lines.take i).countP ScriptLine.closes = (lines.take i).countP ScriptLine.opens
  first : ∀ j < i, lines[j]?.any ScriptLine.closes = true →
    (lines.take j).countP ScriptLine.closes ≠ (lines.take j).countP ScriptLine.opens

theorem endsBlock_zero_iff :
    endsBlock 0 lines i = true ↔ lines[i]?.any ScriptLine.closes = true ∧
      (lines.take i).countP ScriptLine.closes = (lines.take i).countP ScriptLine.opens := by
  simp only [endsBlock, Bool.and_eq_true, beq_iff_eq, Nat.zero_add]

theorem matchingEnd_iff :
    MatchingEnd lines i ↔ (List.range lines.length).find? (endsBlock 0 lines) = some i := by
  rw [List.find?_range_eq_some, endsBlock_zero_iff]
  simp only [Bool.not_eq_true', Bool.eq_false_iff, ne_eq, endsBlock_zero_iff, not_and,
    List.mem_range]
  constructor
  · intro h
    have inside : i < lines.length := by
      apply Nat.lt_of_not_le
      intro behind
      have closes := h.closes
      rw [List.getElem?_eq_none behind] at closes
      cases closes
    exact ⟨⟨h.closes, h.balanced⟩, inside, h.first⟩
  · rintro ⟨⟨closes, balanced⟩, -, first⟩
    exact ⟨closes, balanced, first⟩

theorem block?_of_matchingEnd (h : MatchingEnd lines i) :
    block? 0 lines = some (lines.take i, lines.drop (i + 1)) := by
  rw [block?, matchingEnd_iff.mp h]
  rfl

theorem block?_of_no_matchingEnd (unmatched : ∀ i, ¬ MatchingEnd lines i) :
    block? 0 lines = none := by
  simp only [matchingEnd_iff] at unmatched
  rw [block?, Option.eq_none_iff_forall_ne_some.mpr unmatched]
  rfl

namespace LoopPlan

theorem actionsOf_eq_ok_iff {script : Text} {actions : List LoopAction} :
    actionsOf script body = .ok actions ↔ body.map ScriptLine.action? = actions.map some := by
  induction body generalizing actions with
  | nil => cases actions <;> simp [actionsOf]
  | cons line rest ih =>
      rw [actionsOf, line.action_eq]
      cases here : line.action? with
      | none => cases actions <;> simp [here]
      | some a =>
          cases actions with
          | nil => cases actionsOf script rest <;> simp [Except.map]
          | cons a' actions =>
              rw [List.map_cons, List.map_cons, List.cons.injEq, ← ih, here]
              cases actionsOf script rest <;> simp [Except.map]

theorem actionsOf_error {script : Text} {fault : ScriptFault}
    (refused : actionsOf script body = .error fault) :
    ∃ line, body.find? (!·.loopable) = some line ∧
      fault = .badLine script line line.refusal := by
  have read := actionsOf_fault script body
  rw [refused] at read
  obtain ⟨line, found, rfl⟩ := Option.map_eq_some_iff.mp read
  exact ⟨line, found, rfl⟩

theorem build_of_matchingEnd {s : Script} (h : MatchingEnd s.pending i) (rounds : Rounds)
    (start : Nat) :
    build s rounds start =
      ((actionsOf s.name (s.pending.take i)).map (⟨·, rounds⟩),
        { s with pending := s.pending.drop (i + 1) }) := by
  rw [build, splitBlock_eq, block?_of_matchingEnd h]

theorem build_of_no_matchingEnd {s : Script} (unmatched : ∀ i, ¬ MatchingEnd s.pending i)
    (rounds : Rounds) (start : Nat) :
    build s rounds start = (.error (.unclosedLoop s.name start), { s with pending := [] }) := by
  rw [build, splitBlock_eq, block?_of_no_matchingEnd unmatched]

end LoopPlan

theorem Machine.stepLine_of_opens {line : ScriptLine} (opens : line.opens = true) (s : Script)
    (below : List Script) :
    (stepLine s line below).1.stack = { s with pending := behindBlock s.pending } :: below := by
  unfold ScriptLine.opens at opens
  unfold stepLine
  cases parsed : Directive.parse line.text with
  | loopBegin rounds =>
      have left := LoopPlan.build_left s rounds line.number
      dsimp only
      generalize LoopPlan.build s rounds line.number = built at left ⊢
      obtain ⟨result, s'⟩ := built
      obtain rfl : s' = _ := left
      cases result with
      | ok plan => exact beginLoop_stack _ plan
      | error fault => rfl
  | invalid keyword fault =>
      obtain rfl : keyword = .loopBegin := by
        rw [parsed] at opens
        cases keyword with
        | loopBegin => rfl
        | _ => cases opens
      have left := LoopPlan.build_left s (.count 1) line.number
      dsimp only
      rw [if_pos rfl]
      generalize LoopPlan.build s (.count 1) line.number = built at left ⊢
      obtain ⟨result, s'⟩ := built
      obtain rfl : s' = _ := left
      cases result <;> rfl
  | _ =>
      rw [parsed] at opens
      cases opens

/-- Reading a loop off a script. If there is a matching `loopend` the script is left behind it;
there is a plan exactly if all lines ahead of it may stand in a loop, of what they do, in order;
else the fault names the first that may not. If there is none the script is left at its end, and
the fault names the line on which the loop begins, whatever the other lines hold. How often the
loop is to be run has no part in this, and a `loopbegin` that is not valid leaves the script as
one that is. -/
theorem LoopPlan.build_takes_block (s : Script) (start : Nat) :
    (∀ i, MatchingEnd s.pending i → ∀ rounds,
      (build s rounds start).2 = { s with pending := s.pending.drop (i + 1) } ∧
      ((∃ plan, (build s rounds start).1 = .ok plan) ↔
        ∀ line ∈ s.pending.take i, line.loopable = true) ∧
      (∀ plan, (build s rounds start).1 = .ok plan →
        plan.rounds = rounds ∧
          (s.pending.take i).map ScriptLine.action? = plan.actions.map some) ∧
      ∀ fault, (build s rounds start).1 = .error fault →
        ∃ line, (s.pending.take i).find? (!·.loopable) = some line ∧
          fault = .badLine s.name line line.refusal) ∧
    ((∀ i, ¬ MatchingEnd s.pending i) → ∀ rounds,
      build s rounds start =
        (.error (.unclosedLoop s.name start), { s with pending := [] })) ∧
    (∀ rounds other, (build s rounds start).2 = (build s other start).2) ∧
    ∀ line below, line.opens = true → ∀ rounds,
      (Machine.stepLine s line below).1.stack = (build s rounds start).2 :: below := by
  refine ⟨?_, ?_, ?_, ?_⟩
  · intro i ends rounds
    rw [build_of_matchingEnd ends]
    have allowed := actionsOf_spec s.name (s.pending.take i)
    cases read : actionsOf s.name (s.pending.take i) with
    | ok actions =>
        rw [read] at allowed
        refine ⟨rfl, ?_, ?_, ?_⟩
        · exact ⟨fun _ => List.all_eq_true.mp allowed.1, fun _ => ⟨_, rfl⟩⟩
        · intro plan made
          obtain rfl := Except.ok.inj made
          exact ⟨rfl, actionsOf_eq_ok_iff.mp read⟩
        · intro fault refused
          cases refused
    | error fault =>
        rw [read] at allowed
        refine ⟨rfl, ?_, ?_, ?_⟩
        · constructor
          · rintro ⟨plan, made⟩
            cases made
          · intro loopable
            rw [List.all_eq_true.mpr loopable] at allowed
            cases allowed
        · intro plan made
          cases made
        · intro fault refused
          obtain rfl := Except.error.inj refused
          exact actionsOf_error read
  · intro unmatched rounds
    exact build_of_no_matchingEnd unmatched rounds start
  · intro rounds other
    rw [build_left, build_left]
  · intro line below opens rounds
    rw [Machine.stepLine_of_opens opens, build_left]

/-- A `loopbegin` that is not valid opens a block, and a `loopend` that is not closes none. -/
example :
    let s := ofText "a".toList "AT\nloopbegin iter x\nloopend\nloopend x\nloopend\nATI".toList
    (LoopPlan.build s .unbounded 1).2 = ⟨"a".toList, [⟨6, "ATI".toList⟩]⟩ := by
  decide +kernel

end Script
end ModemDialog
