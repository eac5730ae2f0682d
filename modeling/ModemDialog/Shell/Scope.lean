import ModemDialog.Shell.State

/-! Where the channels of a command lead, and changes that do not outlast it. The shell serves
only the command line. -/
namespace ModemDialog.Shell
namespace Run

def channelFor (arrow target : Text) : Run Channel := do
  let s ← get
  if arrow = ">&".toList || arrow = "<&".toList then
    return match target with
      | ['0'] => s.stdin
      | ['1'] => s.stdout
      | ['2'] => s.stderr
      | _ => .closed
  else if target = "/dev/tty".toList then return .terminal
  else return .nowhere

def redirect (channel : Option Nat) (arrow target : Text) : Run Unit := do
  let goal ← channelFor arrow target
  let n := channel.getD (if arrow.head? = some '<' then 0 else 1)
  modify fun s =>
    if n = 0 then { s with stdin := goal }
    else if n = 1 then { s with stdout := goal }
    else if n = 2 then { s with stderr := goal }
    else s

def closeIfUnused : Run Unit := do
  let s ← get
  if s.stdin ≠ .terminal && s.stdout ≠ .terminal && s.stderr ≠ .terminal then act .close

def inSubshell (body : Run Nat) : Run Nat := do
  let before ← get
  let status : Nat ← tryCatch body fun stop =>
    match stop with
    | .waiting => throw .waiting
    | .spent => throw .spent
    | _ => return (← get).status
  modify fun s =>
    { s with
      bindings := before.bindings, parameters := before.parameters,
      functions := before.functions, stdin := before.stdin, stdout := before.stdout,
      stderr := before.stderr, input := before.input }
  return status

def withChannels (change : State → State) (body : Run Nat) : Run Nat := do
  let before ← get
  modify change
  let restore : Run Unit := modify fun s =>
    { s with
      stdin := before.stdin, stdout := before.stdout, stderr := before.stderr,
      input := if s.stdin = .given && before.stdin ≠ .given then before.input else s.input }
  let status : Nat ← tryCatch body fun stop => do
    restore
    throw stop
  restore
  return status

def record (status : Nat) : Run Nat := do
  modify fun s => { s with status }
  return status

end Run
end ModemDialog.Shell
