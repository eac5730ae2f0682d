import ModemDialog.Dialogue
import ModemDialog.Script.Run

/-! A whole session on a bench: a dialogue, an operator and the device. -/
namespace ModemDialog

structure OperatorTurn where
  wait : Option Nat
  fails : Option Text
  halts : Bool
  line : Text
  deriving DecidableEq, Repr

/-- The turns to come, how many were taken, and whether input stays open after the
last one. -/
structure Operator where
  turns : List OperatorTurn
  taken : Nat
  staysOpen : Bool
  deriving DecidableEq, Repr

inductive SessionFault where
  | link (fault : LinkFault)
  | send (fault : SendFault)
  | operator (cause : Text)
  deriving DecidableEq, Repr

namespace SessionFault

def headline : SessionFault → Text
  | .link _ => "Link check failed".toList
  | .send fault => fault.headline
  | .operator _ => "Failed to read operator input".toList

def message : SessionFault → Text
  | .link fault => "Link check failed: ".toList ++ fault.message
  | .send fault => fault.message
  | .operator cause => "Failed to read operator input: ".toList ++ cause

end SessionFault

structure CloseFault where
  cause : Text
  deriving DecidableEq, Repr

namespace CloseFault

def headline : Text := "Failed to close transport".toList

def message (f : CloseFault) : Text := headline ++ ": ".toList ++ f.cause

end CloseFault

inductive Heard where
  | line (text : Option Text)
  | failed (cause : Text)
  | silence
  deriving DecidableEq, Repr

namespace Bench

/-- Wait for the operator's next turn. A session stopped meanwhile ends the wait as
if input were closed. -/
def ask (b : Bench) (operator : Operator) : Bench × Operator × Heard :=
  match operator.turns with
  | [] =>
      if operator.staysOpen then
        let b := b.hold
        (b, operator, if b.alive then .silence else .line none)
      else (b, operator, .line none)
  | turn :: turns =>
      let operator := { operator with turns, taken := operator.taken + 1 }
      let b := match turn.wait with
        | some ms => b.pause (.ofMillis ms)
        | none => b
      if !b.alive then (b, operator, .line none)
      else match turn.fails with
        | some cause => (b, operator, .failed cause)
        | none =>
            let b := if turn.halts then b.stop else b
            (b.happen (.typed turn.line), operator, .line (some turn.line))

end Bench

structure Engine where
  bench : Bench
  dialogue : Dialogue
  operator : Operator
  files : FileTree
  timeout : Duration
  linkCheck : LinkCheck

namespace Engine

abbrev Ending := Except SessionFault Unit

def act (e : Engine) : Dialogue.Deed → Engine × Option Ending
  | .nothing => (e, none)
  | .load path =>
      match Script.load e.files path with
      | .ok s =>
          let (dialogue, notices) := e.dialogue.enter s
          ({ e with dialogue, bench := e.bench.notices notices }, none)
      | .error fault =>
          let bench := (e.bench.notice (.scriptRefused fault)).printText (fault.message ++ ['\n'])
          ({ e with bench }, none)
  | .print text => ({ e with bench := e.bench.printText text }, none)
  | .send command =>
      match e.bench.send .operator command e.timeout with
      | (bench, .ok _) => ({ e with bench }, none)
      | (bench, .error fault) => ({ e with bench }, some (.error (.send fault)))

def serve (e : Engine) : Dialogue.Request → Engine × Option Ending
  | .checkLink =>
      match e.bench.checkLink e.linkCheck e.timeout with
      | (bench, .ok ()) =>
          let (dialogue, notices) := e.dialogue.link
          ({ e with dialogue, bench := bench.notices notices }, none)
      | (bench, .error fault) => ({ e with bench }, some (.error (.link fault)))
  | .script request =>
      let setup : Script.Setup := ⟨e.files, e.timeout⟩
      let (stage, ending) := Script.Stage.serve setup e.bench e.dialogue.machine request
      let e := { e with bench := stage.bench, dialogue.machine := stage.machine }
      match ending with
      | some (.error fault) => (e, some (.error (.send fault)))
      | _ => (e, none)
  | .ask =>
      match e.bench.ask e.operator with
      | (bench, operator, .failed cause) =>
          ({ e with bench, operator }, some (.error (.operator cause)))
      | (bench, operator, .silence) => ({ e with bench, operator }, none)
      | (bench, operator, .line line) =>
          let (dialogue, notices, deed) := e.dialogue.hear line
          act { e with bench := bench.notices notices, operator, dialogue } deed
  | .finish => (e, some (.ok ()))

def step (e : Engine) : Engine × Option Ending :=
  let (dialogue, notices, request) := e.dialogue.next e.bench.alive
  serve { e with dialogue, bench := e.bench.notices notices } request

/-- At most `fuel` steps; `none` if they were not enough. -/
def run : (fuel : Nat) → Engine → Option (Engine × Ending)
  | 0, _ => none
  | fuel + 1, e =>
      match e.step with
      | (e, some ending) => some (e, ending)
      | (e, none) => run fuel e

end Engine
end ModemDialog
