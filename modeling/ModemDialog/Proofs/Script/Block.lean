import ModemDialog.Script.Loop

/-! Where a block ends and what it holds, said by counting: a `loopend` matches when the
lines ahead of it open as many inner blocks as they close. What the loop reader finds in
one pass is the same. -/
namespace ModemDialog

def Script.Directive.closes : Script.Directive → Bool
  | .loopEnd => true
  | _ => false

namespace ScriptLine

open Script (Directive)

def opens (line : ScriptLine) : Bool := (Directive.parse line.text).opens

def closes (line : ScriptLine) : Bool := (Directive.parse line.text).closes

def loopable (line : ScriptLine) : Bool :=
  match Directive.parse line.text with
  | .command _ | .sleep _ => true
  | _ => false

def command? (line : ScriptLine) : Option Text :=
  match Directive.parse line.text with
  | .command text => some text
  | _ => none

end ScriptLine

namespace Script

/-- The line `i` closes the block around `lines` in which `depth` inner blocks are open. -/
def endsBlock (depth : Nat) (lines : List ScriptLine) (i : Nat) : Bool :=
  lines[i]?.any ScriptLine.closes &&
    (lines.take i).countP ScriptLine.closes == depth + (lines.take i).countP ScriptLine.opens

def block? (depth : Nat) (lines : List ScriptLine) :
    Option (List ScriptLine × List ScriptLine) :=
  ((List.range lines.length).find? (endsBlock depth lines)).map fun i =>
    (lines.take i, lines.drop (i + 1))

def behindBlock (lines : List ScriptLine) : List ScriptLine :=
  match block? 0 lines with
  | some (_, back) => back
  | none => []

def loopBody? (lines : List ScriptLine) : Option (List Text) :=
  match block? 0 lines with
  | some (body, _) =>
      if body.all ScriptLine.loopable then some (body.filterMap ScriptLine.command?) else none
  | none => none

theorem block?_cons (depth : Nat) (line : ScriptLine) (rest : List ScriptLine) :
    block? depth (line :: rest) =
      if endsBlock depth (line :: rest) 0 then some ([], rest)
      else
        ((List.range rest.length).find? fun i => endsBlock depth (line :: rest) (i + 1)).map
          fun i => (line :: rest.take i, rest.drop (i + 1)) := by
  rw [block?, List.length_cons, List.range_succ_eq_map, List.find?_cons]
  cases endsBlock depth (line :: rest) 0 with
  | true => rfl
  | false =>
      rw [List.find?_map, Option.map_map]
      rfl

theorem block?_cons_of_inner {depth : Nat} (inner : Nat) {line : ScriptLine}
    {rest : List ScriptLine} (here : endsBlock depth (line :: rest) 0 = false)
    (count : inner + line.closes.toNat = depth + line.opens.toNat) :
    block? depth (line :: rest) =
      (block? inner rest).map fun (body, back) => (line :: body, back) := by
  have shift (i : Nat) : endsBlock depth (line :: rest) (i + 1) = endsBlock inner rest i := by
    simp only [endsBlock, List.getElem?_cons_succ, List.take_succ_cons, List.countP_cons]
    congr 1
    rw [Bool.eq_iff_iff, beq_iff_eq, beq_iff_eq]
    cases closes : line.closes <;> cases opens : line.opens <;>
      simp only [closes, opens, Bool.toNat_true, Bool.toNat_false] at count ⊢ <;> grind
  rw [block?_cons, here, block?, Option.map_map]
  simp only [shift]
  rfl

theorem splitBlock_eq (depth : Nat) (lines : List ScriptLine) :
    LoopPlan.splitBlock depth lines = block? depth lines := by
  induction lines generalizing depth with
  | nil => simp [LoopPlan.splitBlock, block?]
  | cons line rest ih =>
      have here : endsBlock depth (line :: rest) 0 = (line.closes && depth == 0) := by
        simp only [endsBlock, List.getElem?_cons_zero, Option.any_some, List.take_zero,
          List.countP_nil, Nat.add_zero]
        rw [Bool.beq_comm]
      unfold LoopPlan.splitBlock
      split
      · rename_i parsed
        rw [block?_cons, here]
        simp [ScriptLine.closes, parsed, Directive.closes]
      · rename_i inner parsed
        have closes : line.closes = true := by simp [ScriptLine.closes, parsed, Directive.closes]
        have opens : line.opens = false := by simp [ScriptLine.opens, parsed, Directive.opens]
        rw [ih, block?_cons_of_inner inner (by simp [here]) (by simp [closes, opens])]
      · rename_i depth _ _ zero succ
        have closes : line.closes = false := by
          cases parsed : Directive.parse line.text with
          | loopEnd =>
              cases depth with
              | zero => exact (zero parsed rfl).elim
              | succ inner => exact (succ inner parsed rfl).elim
          | _ => simp [ScriptLine.closes, parsed, Directive.closes]
        rw [ih, block?_cons_of_inner _ (by simp [here, closes])]
        simp only [closes, ScriptLine.opens]
        cases (Directive.parse line.text).opens <;> rfl

theorem behindBlock_length_le (lines : List ScriptLine) :
    (behindBlock lines).length ≤ lines.length := by
  unfold behindBlock block?
  cases (List.range lines.length).find? (endsBlock 0 lines) with
  | none => exact Nat.zero_le _
  | some i =>
      rw [Option.map_some, List.length_drop]
      exact Nat.sub_le _ _

namespace LoopPlan

def commands (actions : List LoopAction) : List Text :=
  actions.filterMap fun
    | .send command => some command
    | .pause _ => none

theorem action_spec (line : ScriptLine) :
    match action line.text with
    | .ok a => line.loopable = true ∧ commands [a] = [line].filterMap ScriptLine.command?
    | .error _ => line.loopable = false := by
  unfold action
  cases parsed : Directive.parse line.text <;>
    simp [ScriptLine.loopable, ScriptLine.command?, commands, parsed]

theorem actionsOf_spec (script : Text) (body : List ScriptLine) :
    match actionsOf script body with
    | .ok actions =>
        body.all ScriptLine.loopable = true ∧
          commands actions = body.filterMap ScriptLine.command?
    | .error _ => body.all ScriptLine.loopable = false := by
  induction body with
  | nil => exact ⟨rfl, rfl⟩
  | cons line rest ih =>
      have first := action_spec line
      rw [actionsOf, List.all_cons]
      cases here : action line.text with
      | error fault =>
          rw [here] at first
          simp [first]
      | ok a =>
          rw [here] at first
          obtain ⟨allowed, sends⟩ := first
          rw [allowed, Bool.true_and]
          cases read : actionsOf script rest with
          | error fault =>
              rw [read] at ih
              exact ih
          | ok actions =>
              rw [read] at ih
              refine ⟨ih.1, ?_⟩
              show commands ([a] ++ actions) = ([line] ++ rest).filterMap ScriptLine.command?
              rw [List.filterMap_append, ← sends, ← ih.2, commands, commands, commands,
                List.filterMap_append]

/-- Reading a loop consumes its block, and gives a plan for the commands of the body just
if there is a `loopend` that matches and all lines ahead of it may stand in a loop. -/
theorem build_spec (s : Script) (rounds : Rounds) (start : Nat) :
    ∃ result, build s rounds start = (result, { s with pending := behindBlock s.pending }) ∧
      match result with
      | .ok plan => plan.rounds = rounds ∧ loopBody? s.pending = some (commands plan.actions)
      | .error _ => loopBody? s.pending = none := by
  rw [build, splitBlock_eq, behindBlock, loopBody?]
  cases block? 0 s.pending with
  | none => exact ⟨_, rfl, rfl⟩
  | some pair =>
      obtain ⟨body, back⟩ := pair
      refine ⟨_, rfl, ?_⟩
      have read := actionsOf_spec s.name body
      cases result : actionsOf s.name body with
      | error fault =>
          rw [result] at read
          simp [Except.map, read]
      | ok actions =>
          rw [result] at read
          simp [Except.map, read.1, read.2]

theorem build_left (s : Script) (rounds : Rounds) (start : Nat) :
    (build s rounds start).2 = { s with pending := behindBlock s.pending } := by
  obtain ⟨result, built, -⟩ := build_spec s rounds start
  rw [built]

end LoopPlan
end Script
end ModemDialog
