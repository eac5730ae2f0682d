import ModemDialog.Terminal.Modes

/-! What a terminal does with typed bytes before a program sees them: it edits the line
being typed, echoes it and turns a few keys into signals. And what it does with the
bytes a program prints. It serves only the command line, where a program stands in for a
device; no result of this library is about it. -/
namespace ModemDialog.Terminal

inductive Feed where
  | data (bytes : Bytes)
  /-- The end of input, typed on an empty line. -/
  | finish
  deriving DecidableEq, Repr

/-- Feeds made available by typing, the echo of what was typed, and whether a signal
ended the program. -/
structure Typed where
  feeds : List Feed
  echo : Bytes
  killed : Bool
  deriving DecidableEq, Repr

/-- The line being typed, and whether the next byte is taken as it is. -/
structure Discipline where
  line : Bytes
  literal : Bool
  deriving DecidableEq, Repr

namespace Discipline

def start : Discipline := ⟨[], false⟩

def lf : UInt8 := 0x0A

def cr : UInt8 := 0x0D

/-- Line feeds go out as carriage return and line feed. -/
def rendered (m : Modes) (data : Bytes) : Bytes :=
  if .opost ∈ m.output && .onlcr ∈ m.output then
    data.flatMap fun b => if b = lf then [cr, lf] else [b]
  else data

def isControl (b : UInt8) : Bool := (b < 0x20 && b ≠ 0x09 && b ≠ lf) || b = 0x7F

/-- Control bytes are shown as a caret and a letter. -/
def shown (m : Modes) (b : UInt8) : Bytes :=
  if isControl b && .echoctl ∈ m.locals then [0x5E, b ^^^ 0x40] else rendered m [b]

def echoed (m : Modes) (b : UInt8) : Bytes := if .echo ∈ m.locals then shown m b else []

def rubbedOut (m : Modes) (b : UInt8) : Bytes :=
  if .echo ∈ m.locals then
    (List.replicate (if isControl b then 2 else 1) [0x08, 0x20, 0x08]).flatten
  else []

def isWordByte (b : UInt8) : Bool :=
  (0x30 ≤ b && b ≤ 0x39) || (0x41 ≤ b && b ≤ 0x5A) || (0x61 ≤ b && b ≤ 0x7A) || b = 0x5F

/-- How many bytes at the end of a line, given backwards, a word key takes away. -/
def wordLength (line : Bytes) : Nat :=
  let gap := line.takeWhile (!isWordByte ·)
  gap.length + ((line.drop gap.length).takeWhile isWordByte).length

def rub (m : Modes) (d : Discipline) (n : Nat) : Discipline × Typed :=
  let gone := d.line.reverse.take n
  ({ d with line := d.line.take (d.line.length - n) }, ⟨[], gone.flatMap (rubbedOut m), false⟩)

/-- A byte that is kept. A line feed completes the line. -/
def keep (m : Modes) (d : Discipline) (b : UInt8) : Discipline × Typed :=
  if b = lf then (start, ⟨[.data (d.line ++ [lf])], echoed m b, false⟩)
  else ({ d with line := d.line ++ [b], literal := false }, ⟨[], echoed m b, false⟩)

def edit (m : Modes) (d : Discipline) (b : UInt8) : Discipline × Typed :=
  if d.literal then
    ({ d with line := d.line ++ [b], literal := false }, ⟨[], echoed m b, false⟩)
  else if b = 0x04 then
    (start, ⟨[if d.line.isEmpty then .finish else .data d.line], [], false⟩)
  else if b = 0x7F then rub m d 1
  else if b = 0x15 then rub m d d.line.length
  else if b = 0x17 && .iexten ∈ m.locals then rub m d (wordLength d.line.reverse)
  else if b = 0x12 && .iexten ∈ m.locals then
    (d, ⟨[], echoed m b ++ echoed m lf ++ d.line.flatMap (echoed m), false⟩)
  else if b = 0x16 && .iexten ∈ m.locals then
    ({ d with literal := true },
      ⟨[], if .echo ∈ m.locals then [0x5E, 0x08] else [], false⟩)
  else keep m d b

/-- One typed byte. Interrupt and quit end the program and drop the line; a stop is
ignored, as nobody could resume; the two flow control bytes are not passed on. -/
def key (m : Modes) (d : Discipline) (typed : UInt8) : Discipline × Typed :=
  let b := if typed = cr && .icrnl ∈ m.input then lf else typed
  if d.literal then edit m d typed
  else if .isig ∈ m.locals && (b = 0x03 || b = 0x1C) then (start, ⟨[], echoed m b, true⟩)
  else if .isig ∈ m.locals && b = 0x1A then (start, ⟨[], echoed m b, false⟩)
  else if .ixon ∈ m.input && (b = 0x11 || b = 0x13) then (d, ⟨[], [], false⟩)
  else if .icanon ∈ m.locals then edit m d b
  else (d, ⟨[.data [b]], echoed m b, false⟩)

def type (m : Modes) : Discipline → Bytes → Discipline × Typed
  | d, [] => (d, ⟨[], [], false⟩)
  | d, b :: rest =>
      let (d, one) := key m d b
      if one.killed then (d, one)
      else
        let (d, more) := type m d rest
        (d, ⟨one.feeds ++ more.feeds, one.echo ++ more.echo, more.killed⟩)

end Discipline
end ModemDialog.Terminal
