import ModemDialog.Shell.Grammar
import ModemDialog.Terminal.Discipline

/-! The state of a shell on a terminal, its input and its output. A run is followed until
it ends or waits for input that has not been typed; what it does to the terminal is a list
of actions with their times. It stands for the program that the command line starts when it is
given one to talk to, and serves only that: the results of this library hold for any device,
and none is about this one. -/
namespace ModemDialog.Shell

open Terminal (Feed Modes)

inductive Action where
  | print (data : Bytes)
  | setModes (m : Modes)
  /-- Nobody holds the terminal any more. -/
  | close
  deriving DecidableEq, Repr

inductive Channel where
  | terminal
  | nowhere
  | closed
  /-- Output that another command takes up. -/
  | kept
  /-- Input from another command. -/
  | given
  deriving DecidableEq, Repr

inductive Stop where
  /-- It waits for input. -/
  | waiting
  | exited
  | left (loops : Nat)
  | again (loops : Nat)
  | returned
  | spent
  deriving DecidableEq, Repr

/-- `feeds` are typed and not yet read; `unread` is what is left of the one being read;
`kept` holds output for another command, newest first; `input` holds input from one. -/
structure State where
  clock : Nat
  feeds : List (Nat × Feed)
  unread : Text
  modes : Modes
  bindings : List (Text × Text)
  name : Text
  parameters : List Text
  functions : List (Text × Command)
  status : Nat
  stdin : Channel
  stdout : Channel
  stderr : Channel
  kept : Text
  input : Text
  /-- What was done and when, newest first. -/
  actions : List (Nat × Action)

abbrev Run := ExceptT Stop (StateM State)

namespace Run

def toBytes (t : Text) : Bytes := t.map fun c => UInt8.ofNat c.toNat

def ofBytes (data : Bytes) : Text := data.map fun b => Char.ofNat b.toNat

def act (a : Action) : Run Unit :=
  modify fun s => { s with actions := (s.clock, a) :: s.actions }

def put (channel : Channel) (t : Text) : Run Nat := do
  match channel with
  | .terminal =>
      let s ← get
      unless t.isEmpty do act (.print (Terminal.Discipline.rendered s.modes (toBytes t)))
      return 0
  | .kept =>
      modify fun s => { s with kept := t.reverse ++ s.kept }
      return 0
  | .nowhere => return 0
  | _ => return 1

def print (t : Text) : Run Nat := do put (← get).stdout t

def complain (t : Text) : Run Unit := do discard (put (← get).stderr t)

def complainOf (command what : Text) : Run Unit := do
  complain ((← get).name ++ ": 1: ".toList ++ command ++ ": ".toList ++ what ++ ['\n'])

/-- The next text typed or given, as it comes; `none` at the end of input. -/
def take : Run (Option Text) := do
  let s ← get
  match s.stdin with
  | .terminal =>
      if !s.unread.isEmpty then
        set { s with unread := [] }
        return some s.unread
      else match s.feeds with
        | [] => throw .waiting
        | (t, .data data) :: feeds =>
            set { s with clock := max s.clock t, feeds }
            return some (ofBytes data)
        | (t, .finish) :: feeds =>
            set { s with clock := max s.clock t, feeds }
            return none
  | .given =>
      set { s with input := [] }
      return if s.input.isEmpty then none else some s.input
  | _ => return none

def giveBack (t : Text) : Run Unit :=
  modify fun s => match s.stdin with
    | .given => { s with input := t ++ s.input }
    | _ => { s with unread := t ++ s.unread }

def takeLine : (fuel : Nat) → Run (Text × Bool)
  | 0 => throw .spent
  | fuel + 1 => do
      match ← take with
      | none => return ([], false)
      | some t =>
          match Text.cut? '\n' t with
          | some (line, rest) =>
              giveBack rest
              return (line, true)
          | none =>
              let (more, ended) ← takeLine fuel
              return (t ++ more, ended)

def drainWith (use : Text → Run Unit) : (fuel : Nat) → Run Unit
  | 0 => throw .spent
  | fuel + 1 => do
      match ← take with
      | none => return ()
      | some t =>
          use t
          drainWith use fuel

def lookup? (name : Text) : Run (Option Text) := do
  return ((← get).bindings.find? (·.1 = name)).map (·.2)

def assign (name value : Text) : Run Unit :=
  modify fun s => { s with bindings := (name, value) :: s.bindings.filter (·.1 ≠ name) }

def separators : Run Text := do
  return ((← lookup? "IFS".toList)).getD [' ', '\t', '\n']

def processNumber : Text := "4242".toList

def parameter? (name : Text) : Run (Option Text) := do
  let s ← get
  match name with
  | ['?'] => return some (Text.ofNat s.status)
  | ['#'] => return some (Text.ofNat s.parameters.length)
  | ['$'] => return some processNumber
  | ['!'] => return none
  | ['-'] => return some []
  | ['@'] => return some (Text.join [' '] s.parameters)
  | ['*'] => return some (Text.join [' '] s.parameters)
  | ['0'] => return some s.name
  | name =>
      if name.all Char.isDigit then return s.parameters[Lexer.digits name - 1]?
      else lookup? name

end Run
end ModemDialog.Shell
