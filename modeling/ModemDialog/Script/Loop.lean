import ModemDialog.Script.Basic

/-! Loop bodies, read once and then replayed. -/
namespace ModemDialog.Script

inductive LoopAction where
  | send (command : Text)
  | pause (d : Duration)
  deriving DecidableEq, Repr

structure LoopPlan where
  actions : List LoopAction
  rounds : Rounds
  deriving DecidableEq, Repr

namespace LoopPlan

/-- The lines in front of the `loopend` that matches, and those behind it; `depth`
counts the inner loops still open. -/
def splitBlock : (depth : Nat) → List ScriptLine → Option (List ScriptLine × List ScriptLine)
  | _, [] => none
  | depth, line :: rest =>
      match Directive.parse line.text, depth with
      | .loopEnd, 0 => some ([], rest)
      | .loopEnd, depth + 1 =>
          (splitBlock depth rest).map fun (body, back) => (line :: body, back)
      | d, depth =>
          (splitBlock (if d.opens then depth + 1 else depth) rest).map fun (body, back) =>
            (line :: body, back)

def action (text : Text) : Except LineFault LoopAction :=
  match Directive.parse text with
  | .command command => .ok (.send command)
  | .sleep d => .ok (.pause d)
  | .invalid _ fault => .error (.directive fault)
  | _ => .error .notInLoop

def actionsOf (script : Text) : List ScriptLine → Except ScriptFault (List LoopAction)
  | [] => .ok []
  | line :: rest =>
      match action line.text with
      | .error fault => .error (.badLine script line fault)
      | .ok a => (actionsOf script rest).map (a :: ·)

def build (s : Script) (rounds : Rounds) (start : Nat) :
    Except ScriptFault LoopPlan × Script :=
  match splitBlock 0 s.pending with
  | none => (.error (.unclosedLoop s.name start), { s with pending := [] })
  | some (body, back) =>
      ((actionsOf s.name body).map (⟨·, rounds⟩), { s with pending := back })

end LoopPlan
end ModemDialog.Script
