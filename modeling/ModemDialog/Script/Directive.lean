import ModemDialog.Number.Duration
import ModemDialog.Number.Integer

/-! Script lines by their first word: six directives, and commands for the device. -/
namespace ModemDialog.Script

inductive Rounds where
  | count (n : Nat)
  | unbounded
  deriving DecidableEq, Repr

inductive Keyword where
  | loopBegin
  | loopEnd
  | sleep
  | leave
  | manual
  | run
  deriving DecidableEq, Repr

namespace Keyword

def word : Keyword → Text
  | .loopBegin => "loopbegin".toList
  | .loopEnd => "loopend".toList
  | .sleep => "sleep".toList
  | .leave => "break".toList
  | .manual => "enman".toList
  | .run => "enscom".toList

def all : List Keyword := [.loopBegin, .loopEnd, .sleep, .leave, .manual, .run]

def ofWord? (w : Text) : Option Keyword := all.find? (·.word = w)

end Keyword

inductive DirectiveFault where
  | takesNothing (arguments : Text)
  | expectedIter (arguments : Text)
  | badCount (count : Text) (fault : NumeralFault)
  | zeroCount
  | missingDuration
  | badMillis (fault : DecimalFault)
  | badSeconds (fault : DecimalFault)
  | badDuration (text : Text) (fault : SecondsFault)
  deriving DecidableEq, Repr

namespace DirectiveFault

def message : DirectiveFault → Text
  | .takesNothing arguments =>
      "takes no arguments, got '".toList ++ arguments ++ "'".toList
  | .expectedIter arguments =>
      "expected 'iter <count>', got '".toList ++ arguments ++ "'".toList
  | .badCount count fault =>
      "invalid iteration count '".toList ++ count ++ "': ".toList ++ fault.message
  | .zeroCount => "iteration count must be at least 1".toList
  | .missingDuration => "missing duration".toList
  | .badMillis fault => "Invalid milliseconds value: ".toList ++ fault.message
  | .badSeconds fault => "Invalid seconds value: ".toList ++ fault.message
  | .badDuration text fault =>
      "invalid duration '".toList ++ text ++ "': ".toList ++ fault.message

end DirectiveFault

inductive Directive where
  | command (text : Text)
  | loopBegin (rounds : Rounds)
  | loopEnd
  | sleep (d : Duration)
  | leave
  | manual
  | run (path : Option Text)
  | invalid (keyword : Keyword) (fault : DirectiveFault)
  deriving DecidableEq, Repr

namespace Directive

def bare (d : Directive) (arguments : Text) : Except DirectiveFault Directive :=
  if arguments.isEmpty then .ok d else .error (.takesNothing arguments)

/-- `iter`, white space, and a count of at least one; or nothing at all. -/
def loopHeader (arguments : Text) : Except DirectiveFault Rounds :=
  if arguments.isEmpty then .ok .unbounded
  else match "iter".toList.isPrefixOf? arguments with
    | some (c :: rest) =>
        if Text.isBlank c then
          let count := Text.trim (c :: rest)
          match Numeral.parseCount count with
          | .error fault => .error (.badCount count fault)
          | .ok 0 => .error .zeroCount
          | .ok n => .ok (.count n)
        else .error (.expectedIter arguments)
    | _ => .error (.expectedIter arguments)

/-- Seconds with or without `s`, or thousandths with `ms`. -/
def secondsOf (t : Text) : Except DirectiveFault Binary64 :=
  match "ms".toList.isSuffixOf? t with
  | some front =>
      match Decimal.parse (Text.trim front) with
      | .ok x => .ok (x.divNat 1000)
      | .error fault => .error (.badMillis fault)
  | none =>
      match Decimal.parse (Text.trim (("s".toList.isSuffixOf? t).getD t)) with
      | .ok x => .ok x
      | .error fault => .error (.badSeconds fault)

def duration (arguments : Text) : Except DirectiveFault Duration :=
  let t := Text.trim arguments
  if t.isEmpty then .error .missingDuration
  else do
    let x ← secondsOf t
    match Duration.ofSeconds x with
    | .ok d => .ok d
    | .error fault => .error (.badDuration t fault)

def ofKeyword (k : Keyword) (arguments : Text) : Except DirectiveFault Directive :=
  match k with
  | .loopBegin => (loopHeader arguments).map .loopBegin
  | .loopEnd => bare .loopEnd arguments
  | .sleep => (duration arguments).map .sleep
  | .leave => bare .leave arguments
  | .manual => bare .manual arguments
  | .run => .ok (.run (if arguments.isEmpty then none else some arguments))

/-- Whole words select a directive; any other line is a command as it stands. -/
def parse (raw : Text) : Directive :=
  let line := Text.trim raw
  let (word, arguments) := Text.headWord line
  match Keyword.ofWord? word with
  | none => .command line
  | some k =>
      match ofKeyword k arguments with
      | .ok d => d
      | .error fault => .invalid k fault

/-- Lines that open a block, well formed or not. -/
def opens : Directive → Bool
  | .loopBegin _ => true
  | .invalid .loopBegin _ => true
  | _ => false

end Directive
end ModemDialog.Script
