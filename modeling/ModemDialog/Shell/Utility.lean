import ModemDialog.Shell.Expansion
import ModemDialog.Shell.Output

/-! Commands of the shell itself, and the programs that are at hand. The shell serves only the
command line. -/
namespace ModemDialog.Shell

open Terminal (Modes)

namespace Run

def truthOf (b : Bool) : Nat := if b then 0 else 1

def isTerminal (n : Text) : Run Bool := do
  let s ← get
  return match n with
    | ['0'] => s.stdin = .terminal
    | ['1'] => s.stdout = .terminal
    | ['2'] => s.stderr = .terminal
    | _ => false

def test : List Text → Run Nat
  | [] => return 1
  | [a] => return truthOf !a.isEmpty
  | [['!'], a] => return truthOf a.isEmpty
  | [op, a] => do
      if op = "-n".toList then return truthOf !a.isEmpty
      else if op = "-z".toList then return truthOf a.isEmpty
      else if op = "-t".toList then return truthOf (← isTerminal a)
      else return 1
  | ['!'] :: more => do return truthOf ((← test more) ≠ 0)
  | [a, op, b] => do
      let compare (f : Int → Int → Bool) : Run Nat :=
        match Arithmetic.integer? (Text.trim a), Arithmetic.integer? (Text.trim b) with
        | some x, some y => return truthOf (f x y)
        | _, _ => return 2
      match String.ofList op with
      | "=" => return truthOf (a = b)
      | "==" => return truthOf (a = b)
      | "!=" => return truthOf (a ≠ b)
      | "-eq" => compare (· == ·)
      | "-ne" => compare (· != ·)
      | "-lt" => compare (· < ·)
      | "-le" => compare (· ≤ ·)
      | "-gt" => compare fun x y => y < x
      | "-ge" => compare fun x y => y ≤ x
      | "-a" => return truthOf (!a.isEmpty && !b.isEmpty)
      | "-o" => return truthOf (!a.isEmpty || !b.isEmpty)
      | _ => return 2
  | _ => return 2

def spanMillis (t : Text) : Nat :=
  let (number, unit) := match t.getLast? with
    | some 's' => (t.dropLast, 1)
    | some 'm' => (t.dropLast, 60)
    | some 'h' => (t.dropLast, 3600)
    | some 'd' => (t.dropLast, 86400)
    | _ => (t, 1)
  match Decimal.parse number with
  | .error _ => 0
  | .ok x =>
      match Duration.ofSeconds x with
      | .error _ => 0
      | .ok d => unit * d.ceilMillis

def sleep (millis : Nat) : Run Unit := modify fun s => { s with clock := s.clock + millis }

def setMode (m : Modes) (word : Text) : Modes :=
  let (on, name) := match word with
    | '-' :: name => (false, name)
    | name => (true, name)
  let without := fun m : Modes =>
    match String.ofList name with
    | "echo" => { m with locals := m.locals.filter (· ≠ .echo) }
    | "icanon" => { m with locals := m.locals.filter (· ≠ .icanon) }
    | "isig" => { m with locals := m.locals.filter (· ≠ .isig) }
    | "echoctl" => { m with locals := m.locals.filter (· ≠ .echoctl) }
    | "icrnl" => { m with input := m.input.filter (· ≠ .icrnl) }
    | "ixon" => { m with input := m.input.filter (· ≠ .ixon) }
    | "opost" => { m with output := m.output.filter (· ≠ .opost) }
    | "onlcr" => { m with output := m.output.filter (· ≠ .onlcr) }
    | "raw" => if on then m.raw else Modes.fresh
    | "cooked" => if on then Modes.fresh else m.raw
    | "sane" => Modes.fresh
    | _ => m
  let m := without m
  if !on then m
  else match String.ofList name with
    | "echo" => { m with locals := .echo :: m.locals }
    | "icanon" => { m with locals := .icanon :: m.locals }
    | "isig" => { m with locals := .isig :: m.locals }
    | "echoctl" => { m with locals := .echoctl :: m.locals }
    | "icrnl" => { m with input := .icrnl :: m.input }
    | "ixon" => { m with input := .ixon :: m.input }
    | "opost" => { m with output := .opost :: m.output }
    | "onlcr" => { m with output := .onlcr :: m.output }
    | _ => m

def stty : List Text → Run Nat
  | [['s', 'i', 'z', 'e']] => do
      if (← get).stdin = .terminal then print "24 80\n".toList else return 1
  | words => do
      let m := words.foldl setMode (← get).modes
      modify fun s => { s with modes := m }
      act (.setModes m)
      return 0

def letters (words : List Text) : Text × List Text :=
  let isFlags (w : Text) : Bool := w.head? = some '-' && 1 < w.length
  (((words.takeWhile isFlags).map List.tail).flatten, words.dropWhile isFlags)

def longest : Nat := 10000

def cat (words : List Text) : Run Nat := do
  let (flags, names) := letters words
  let marking := Output.Marking.ofLetters flags
  let rec follow : (fuel : Nat) → Nat → Bool → Run Unit
    | 0, _, _ => throw .spent
    | fuel + 1, line, atStart => do
        match ← take with
        | none => return ()
        | some t =>
            let (out, line, atStart) := marking.chunk line atStart t
            discard (print out)
            follow fuel line atStart
  let mut status := 0
  for name in (if names.isEmpty then [['-']] else names) do
    if name = ['-'] then follow longest 0 true
    else if name = "/dev/null".toList then pure ()
    else
      complain ("cat: ".toList ++ name ++ ": No such file or directory\n".toList)
      status := 1
  return status

def headChars : (fuel : Nat) → (count : Nat) → Run Unit
  | 0, _ => throw .spent
  | _ + 1, 0 => return ()
  | fuel + 1, count => do
      match ← take with
      | none => return ()
      | some t =>
          giveBack (t.drop count)
          discard (print (t.take count))
          headChars fuel (count - t.length)

def headLines (words : List Text) : Run Nat := do
  let count := match words with
    | ['-', 'n'] :: n :: _ => Lexer.digits n
    | ('-' :: 'n' :: n) :: _ => Lexer.digits n
    | ('-' :: n) :: _ => Lexer.digits n
    | _ => 10
  for _ in List.range count do
    let (line, ended) ← takeLine longest
    if ended then discard (print (line ++ ['\n']))
    else
      discard (print line)
      return 0
  return 0

def head (words : List Text) : Run Nat :=
  match words with
  | ['-', 'c'] :: n :: _ => do
      headChars longest (Lexer.digits n)
      return 0
  | ('-' :: 'c' :: n) :: _ => do
      headChars longest (Lexer.digits n)
      return 0
  | _ => headLines words

def tr (words : List Text) : Run Nat := do
  let (flags, sets) := letters words
  let setOf (t : Text) : Text := Output.setChars (t.length + 1) t
  let change := Output.exchange ('d' ∈ flags) (setOf (sets.headD [])) (setOf (sets.tail.headD []))
  drainWith (fun t => discard (print (change t))) longest
  return 0

def seq (words : List Text) : Run Nat :=
  match words.map fun w => (Arithmetic.integer? w).getD 0 with
  | [last] => print (Output.sequence 1 1 last)
  | [first, last] => print (Output.sequence first 1 last)
  | [first, step, last] => print (Output.sequence first step last)
  | _ => return 1

def program? (name : Text) (words : List Text) : Option (Run Nat) :=
  match String.ofList name with
  | "true" => some (return 0)
  | "false" => some (return 1)
  | "echo" => some (print (Output.echoProgram words))
  | "printf" =>
      some (print (Output.printf (words.length + 1) (words.headD []) words.tail))
  | "cat" => some (cat words)
  | "head" => some (head words)
  | "tr" => some (tr words)
  | "seq" => some (seq words)
  | "stty" => some (stty words)
  | "sleep" => some do
      sleep (words.foldl (fun n w => n + spanMillis w) 0)
      return 0
  | "test" => some (test words)
  | "[" => some (test words.dropLast)
  | _ => none

def number (words : List Text) (fallback : Nat) : Nat :=
  match words with
  | n :: _ => Lexer.digits n
  | [] => fallback

def read (words : List Text) : Run Nat := do
  let (flags, names) := letters words
  let (line, ended) ← takeLine longest
  let line := if 'r' ∈ flags then line else withoutBackslashes line
  let names := if names.isEmpty then ["REPLY".toList] else names
  for (name, value) in share (← separators) line names do assign name value
  return truthOf ended

def kill (words : List Text) : Run Nat := do
  let targets := words.filter (·.head? ≠ some '-')
  if words.head? = some "-0".toList then return 0
  else if targets.any (· = processNumber) then throw .exited
  else return 1

/-- A command that is part of the shell, apart from those that run other commands. -/
def builtin? (name : Text) (words : List Text) : Option (Run Nat) :=
  match String.ofList name with
  | ":" => some (return 0)
  | "true" => some (return 0)
  | "echo" => some (print (Output.echo words))
  | "read" => some (read words)
  | "exit" => some do
      let code := number words (← get).status
      modify fun s => { s with status := code }
      throw .exited
  | "return" => some do
      let code := number words (← get).status
      modify fun s => { s with status := code }
      throw .returned
  | "break" => some (throw (.left (number words 1 - 1)))
  | "continue" => some (throw (.again (number words 1 - 1)))
  | "shift" => some do
      modify fun s => { s with parameters := s.parameters.drop (number words 1) }
      return 0
  | "set" => some do
      let words := if words.head? = some "--".toList then words.tail else words
      unless words.any (·.head? = some '-') do modify fun s => { s with parameters := words }
      return 0
  | "unset" => some do
      modify fun s => { s with bindings := s.bindings.filter (·.1 ∉ words) }
      return 0
  | "export" => some do
      for w in words do
        if let some (name, value) := Text.cut? '=' w then assign name value
      return 0
  | "local" => some do
      for w in words do
        match Text.cut? '=' w with
        | some (name, value) => assign name value
        | none => assign w []
      return 0
  | "kill" => some (kill words)
  | "trap" => some (return 0)
  | "wait" => some (return 0)
  | "cd" => some (return 0)
  | "umask" => some (return 0)
  | _ => none

end Run
end ModemDialog.Shell
