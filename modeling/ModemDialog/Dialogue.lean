import ModemDialog.OperatorLine
import ModemDialog.Script.Machine

/-! Taking turns: the link check, then scripts or the operator, until the session
halts. Like the script machine it only says what it needs done. -/
namespace ModemDialog

structure Dialogue where
  linked : Bool
  mode : Mode
  /-- The operator goes first, and again when the scripts have ended. -/
  manual : Bool
  machine : Script.Machine
  deriving DecidableEq, Repr

/-- Only a move to another mode is reported. -/
def Mode.change (before after : Mode) : List Notice :=
  if after = before then [] else [.modeChanged before after]

namespace Dialogue

inductive Request where
  | checkLink
  | script (request : Script.Request)
  /-- Ask the operator for a line. -/
  | ask
  | finish
  deriving DecidableEq, Repr

inductive Deed where
  | nothing
  | load (path : Text)
  | print (text : Text)
  | send (command : Text)
  deriving DecidableEq, Repr

def start (machine : Script.Machine) (manual : Bool) : Dialogue :=
  ⟨false, .interactive, manual, machine⟩

def switch (d : Dialogue) (mode : Mode) : Dialogue × List Notice :=
  ({ d with mode }, d.mode.change mode)

def halt (d : Dialogue) : Dialogue × List Notice := d.switch (d.mode.switch .halted)

def link (d : Dialogue) : Dialogue × List Notice :=
  let mode := Mode.start (0 < d.machine.depth) d.manual
  ({ d with linked := true, mode }, [.linkPassed, .modeStarted mode])

def stepScript (d : Dialogue) : Dialogue × List Notice × Request :=
  let (machine, notices, request) := d.machine.step
  let d := { d with machine }
  match request with
  | .finish outcome =>
      let (d, change) := d.switch <| match outcome with
        | .exhausted => d.mode.scriptsExhausted d.manual
        | .interactive => d.mode.switch .interactive
        | .halted => d.mode.switch .halted
      (d, notices ++ change, .script .nothing)
  | request => (d, notices, .script request)

/-- What comes next; a stopped session halts. -/
def next (d : Dialogue) (alive : Bool) : Dialogue × List Notice × Request :=
  if !d.linked then (d, [], .checkLink)
  else
    let (d, notices) := if alive then (d, []) else d.halt
    match d.mode with
    | .halted => (d, notices ++ [.sessionHalted], .finish)
    | .scripted => d.stepScript
    | .interactive => (d, [], .ask)

def nothingToResume : Text := "no suspended script to resume\n".toList

/-- The operator's line; `none` once there are no more. -/
def hear (d : Dialogue) : Option Text → Dialogue × List Notice × Deed
  | none =>
      let (d, change) := d.halt
      (d, .inputClosed :: change, .nothing)
  | some line =>
      match OperatorLine.parse line with
      | .blank => (d, [], .nothing)
      | .halt =>
          let (d, change) := d.halt
          (d, change, .nothing)
      | .runScript path => (d, [], .load path)
      | .resume =>
          if 0 < d.machine.depth then
            let (d, change) := d.switch (d.mode.switch .scripted)
            (d, change, .nothing)
          else (d, [.nothingToResume], .print nothingToResume)
      | .send command => (d, [], .send command)

def enter (d : Dialogue) (s : Script) : Dialogue × List Notice :=
  let (machine, entered) := d.machine.push s
  let (d, change) := { d with machine }.switch (d.mode.switch .scripted)
  (d, entered :: change)

end Dialogue
end ModemDialog
