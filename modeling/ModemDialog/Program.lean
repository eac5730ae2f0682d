import ModemDialog.Bench
import ModemDialog.FileTree
import ModemDialog.Shell.Run

/-! Programs in a pseudo terminal, as something to talk to and as a device. They serve only the
command line, which can be given a program in a device's place; no result of this library is
about them. -/
namespace ModemDialog

open Terminal (Discipline Feed Modes)
open Shell (Action)

inductive SpawnFault where
  | notFound (program : Text)
  | unreachable (program : Text) (fault : FileFault)
  | notExecutable (program : Text)
  | isADirectory (program : Text)
  deriving DecidableEq, Repr

namespace SpawnFault

def program : SpawnFault → Text
  | notFound p | unreachable p _ | notExecutable p | isADirectory p => p

def named : FileFault → Text
  | .noSuchFile => "ENOENT: No such file or directory".toList
  | .notADirectory => "ENOTDIR: Not a directory".toList
  | .nameTooLong => "ENAMETOOLONG: File name too long".toList
  | fault => fault.message

def unable (program reason : Text) : Text :=
  "Unable to spawn ".toList ++ program ++
    " because it doesn't exist on the filesystem ".toList ++ reason

def reason : SpawnFault → Text
  | notFound p => unable p "and was not found in PATH".toList
  | unreachable p fault =>
      unable p ("or is not executable (".toList ++ named fault ++ [')'])
  | notExecutable p => unable p "or is not executable (EACCES: Permission denied)".toList
  | isADirectory _ => "Permission denied (os error 13)".toList

def message (f : SpawnFault) : Text :=
  "failed to spawn ".toList ++ f.program ++
    " in a pseudo terminal: failed to spawn command: ".toList ++ f.reason

end SpawnFault

structure Program where
  name : Text
  arguments : List Text
  deriving DecidableEq, Repr

namespace Program

def shells : List Text := ["sh", "dash", "bash"].map String.toList

def isShell (name : Text) : Bool := shells.any (· = name)

def isKnown (name : Text) : Bool := isShell name || (Shell.Run.program? name []).isSome

def places : List Text := ["/bin/", "/usr/bin/"].map String.toList

def textOfBytes (t : Text) : Text := Shell.Run.ofBytes (Utf8.encode t)

/-- Start a program. An absolute path is taken as it is; any other name is looked for. -/
def spawn (files : FileTree) (name : Text) (arguments : List Text) :
    Except SpawnFault (Program × List Notice) :=
  let start (known : Text) : Program × List Notice :=
    (⟨known, arguments.map textOfBytes⟩, [.programStarted name])
  if name.head? = some '/' then
    match places.findSome? fun place => (place.isPrefixOf? name).filter isKnown with
    | some known => .ok (start known)
    | none =>
        match files.find name with
        | .error fault => .error (.unreachable name fault)
        | .ok .directory => .error (.isADirectory name)
        | .ok _ => .error (.notExecutable name)
  else if isKnown name then .ok (start name)
  else if name = [] || name = ['.'] || name = ['.', '.'] then .error (.isADirectory name)
  else .error (.notFound name)

def startup : Nat := 1

def initial (p : Program) (feeds : List (Nat × Feed)) : Shell.State where
  clock := startup
  feeds
  unread := []
  modes := Modes.fresh
  bindings := []
  name := p.name
  parameters := []
  functions := []
  status := 0
  stdin := .terminal
  stdout := .terminal
  stderr := .terminal
  kept := []
  input := []
  actions := []

def work (p : Program) : Shell.Run Nat :=
  if isShell p.name then do
    return (← Shell.Run.exec Shell.Run.longest (.invoke (p.name :: p.arguments))).status
  else (Shell.Run.program? p.name p.arguments).getD (return 0)

def actions (p : Program) (feeds : List (Nat × Feed)) : List (Nat × Action) :=
  let (ending, s) := Id.run ((work p).run (initial p feeds))
  let done := s.actions.reverse
  match ending with
  | .error .waiting => done
  | .error .spent => done
  | _ => if done.any (·.2 = .close) then done else done ++ [(s.clock, .close)]

end Program

structure Console where
  program : Program
  feeds : List (Nat × Feed)
  discipline : Discipline
  actions : List (Nat × Action)
  deriving DecidableEq, Repr

namespace Console

def start (p : Program) : Console := ⟨p, [], .start, p.actions []⟩

def modesAt (c : Console) (time : Nat) : Modes :=
  c.actions.foldl (fun m (t, a) =>
    match a with
    | .setModes new => if t ≤ time then new else m
    | _ => m) Modes.fresh

def closedAt (c : Console) (time : Nat) : Bool :=
  c.actions.any fun (t, a) => a = .close && t ≤ time

/-- Type bytes: the echo, and what the program does because of them. Once the terminal
is closed nothing happens any more. -/
def type (c : Console) (time : Nat) (data : Bytes) : Console × Bytes × List (Nat × Action) :=
  if c.closedAt time then (c, [], [])
  else
    let (discipline, typed) := Discipline.type (c.modesAt time) c.discipline data
    if typed.killed then
      let actions := c.actions.filter (·.1 ≤ time) ++ [(time, .close)]
      ({ c with discipline, actions }, typed.echo, [(time, .close)])
    else
      let feeds := c.feeds ++ typed.feeds.map fun f => (time, f)
      let actions := c.program.actions feeds
      ({ c with feeds, discipline, actions }, typed.echo, actions.drop c.actions.length)

def arrival? : Action → Option Arrival
  | .print data => some (.data data)
  | .setModes _ => none
  | .close => some (.lost "transport closed its output".toList)

/-- A program answers a write by its echo at once and by its output in time. -/
def device (p : Program) : Device := fun earlier w =>
  let c := earlier.reverse.foldl (fun c (e : Write) => (c.type e.time e.data).1) (start p)
  let (_, echo, news) := c.type w.time w.data
  { Reply.ofData echo with
    later := news.filterMap fun (t, a) => (arrival? a).map fun x => (t - w.time, x) }

def opening (p : Program) : List (Nat × Arrival) :=
  (p.actions []).filterMap fun (t, a) => (arrival? a).map fun x => (t, x)

end Console

structure Viewer where
  console : Console
  clock : Nat
  coming : List (Nat × Arrival)

namespace Viewer

def start (p : Program) : Viewer :=
  ⟨.start p, 0, (Console.opening p).foldl (fun l (t, a) => Bench.schedule t a l) []⟩

def write (v : Viewer) (data : Bytes) : Viewer :=
  let (console, echo, news) := v.console.type v.clock data
  let arrivals := news.filterMap fun (t, a) => (Console.arrival? a).map fun x => (t, x)
  { v with
    console
    coming := ((v.clock, .data echo) :: arrivals).foldl
      (fun l (t, a) => Bench.schedule t a l) v.coming }

def cutBehind (target seen : Bytes) : Bytes → Bytes × Option Bytes
  | [] => (seen, if (target.isSuffixOf? seen).isSome then some [] else none)
  | b :: rest =>
      if (target.isSuffixOf? seen).isSome then (seen, some (b :: rest))
      else cutBehind target (seen ++ [b]) rest

def readFrom (target : Option Bytes) (seen : Bytes) :
    List (Nat × Arrival) → Viewer → Viewer × Bytes × Bool
  | [], v => ({ v with coming := [] }, seen, false)
  | (t, .data data) :: rest, v =>
      let v := { v with clock := max v.clock t }
      match target with
      | none => readFrom none (seen ++ data) rest v
      | some target =>
          match cutBehind target seen data with
          | (seen, some []) => ({ v with coming := rest }, seen, false)
          | (seen, some left) => ({ v with coming := (t, .data left) :: rest }, seen, false)
          | (seen, none) => readFrom (some target) seen rest v
  | (t, a) :: rest, v => ({ v with clock := max v.clock t, coming := (t, a) :: rest }, seen, true)

def read (v : Viewer) (target : Option Bytes) : Viewer × Bytes × Bool :=
  if target = some [] then (v, [], false) else readFrom target [] v.coming v

def close (v : Viewer) : Viewer :=
  if v.console.closedAt v.clock then v
  else
    let console :=
      { v.console with
        actions := v.console.actions.filter (·.1 ≤ v.clock) ++ [(v.clock, .close)] }
    let seen := v.coming.filter fun (t, a) => t ≤ v.clock && a matches .data _
    { v with console, coming := seen ++ (Console.arrival? .close).toList.map fun a => (v.clock, a) }

end Viewer
end ModemDialog
