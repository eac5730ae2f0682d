import ModemDialog.Shell.Arithmetic
import ModemDialog.Number.Duration

/-! Texts that the everyday commands print. The shell serves only the command line. -/
namespace ModemDialog.Shell.Output

def octal? (c : Char) : Option Nat :=
  if '0' ≤ c && c ≤ '7' then some (c.toNat - 48) else none

def octalRun (limit : Nat) (t : Text) : Nat × Text :=
  let digits := (t.take limit).takeWhile fun c => (octal? c).isSome
  (digits.foldl (fun n c => 8 * n + (c.toNat - 48)) 0, t.drop digits.length)

def escapeOf? : Char → Option Char
  | 'a' => some '\x07'
  | 'b' => some '\x08'
  | 'f' => some '\x0c'
  | 'n' => some '\n'
  | 'r' => some '\r'
  | 't' => some '\t'
  | 'v' => some '\x0b'
  | '\\' => some '\\'
  | _ => none

def byte (n : Nat) : Char := Char.ofNat (n % 256)

/-- Escapes of an argument, octal numbers behind a zero; the flag tells that output
ends here. -/
def unescaped : (fuel : Nat) → Text → Text × Bool
  | 0, _ => ([], false)
  | _ + 1, [] => ([], false)
  | fuel + 1, '\\' :: c :: rest =>
      if c = 'c' then ([], true)
      else if c = '0' then
        let (n, rest) := octalRun 3 rest
        let (t, stop) := unescaped fuel rest
        (byte n :: t, stop)
      else match escapeOf? c with
        | some e =>
            let (t, stop) := unescaped fuel rest
            (e :: t, stop)
        | none =>
            let (t, stop) := unescaped fuel rest
            ('\\' :: c :: t, stop)
  | fuel + 1, c :: rest =>
      let (t, stop) := unescaped fuel rest
      (c :: t, stop)

def echoText (escapes newline : Bool) (words : List Text) : Text :=
  let line := Text.join [' '] words
  let (line, stop) := if escapes then unescaped (line.length + 1) line else (line, false)
  if stop || !newline then line else line ++ ['\n']

def echo : List Text → Text
  | ['-', 'n'] :: words => echoText true false words
  | words => echoText true true words

def echoProgram (words : List Text) : Text :=
  let isFlag (w : Text) : Bool :=
    w.head? = some '-' && 1 < w.length && w.tail.all (· ∈ ['n', 'e', 'E'])
  let flags := ((words.takeWhile isFlag).map List.tail).flatten
  let escapes := (flags.filter (· ≠ 'n')).getLast? = some 'e'
  echoText escapes ('n' ∉ flags) (words.dropWhile isFlag)

structure Format where
  left : Bool
  zero : Bool
  plus : Bool
  space : Bool
  width : Nat
  precision : Option Nat

namespace Format

def pad (f : Format) (t : Text) : Text :=
  let fill := f.width - t.length
  if f.left then t ++ List.replicate fill ' ' else List.replicate fill ' ' ++ t

def padNumber (f : Format) (sign digits : Text) : Text :=
  let digits := match f.precision with
    | some p => List.replicate (p - digits.length) '0' ++ digits
    | none => digits
  if f.zero && !f.left && f.precision.isNone then
    sign ++ List.replicate (f.width - sign.length - digits.length) '0' ++ digits
  else f.pad (sign ++ digits)

def signOf (f : Format) (n : Int) : Text :=
  if n < 0 then ['-'] else if f.plus then ['+'] else if f.space then [' '] else []

end Format

def digitsIn (base : Nat) (n : Nat) : Text := Nat.toDigits base n

/-- The number an argument is; a quote makes it the code of the character behind it. -/
def numberOf (t : Text) : Int :=
  match t with
  | '\x27' :: c :: _ => c.toNat
  | '\x22' :: c :: _ => c.toNat
  | t => (Arithmetic.integer? t).getD 0

/-- One conversion of an argument; the flag tells that output ends here. -/
def convert (f : Format) (kind : Char) (argument : Text) : Text × Bool :=
  let n := numberOf argument
  match kind with
  | 's' => (f.pad (match f.precision with | some p => argument.take p | none => argument), false)
  | 'b' =>
      let (t, stop) := unescaped (argument.length + 1) argument
      (f.pad t, stop)
  | 'c' => (f.pad (argument.take 1), false)
  | 'd' => (f.padNumber (f.signOf n) (digitsIn 10 n.natAbs), false)
  | 'i' => (f.padNumber (f.signOf n) (digitsIn 10 n.natAbs), false)
  | 'u' => (f.padNumber [] (digitsIn 10 n.natAbs), false)
  | 'o' => (f.padNumber [] (digitsIn 8 n.natAbs), false)
  | 'x' => (f.padNumber [] (digitsIn 16 n.natAbs), false)
  | 'X' => (f.padNumber [] ((digitsIn 16 n.natAbs).map Char.toUpper), false)
  | _ => ([], true)

def flagOf (f : Format) : Char → Option Format
  | '-' => some { f with left := true }
  | '0' => some { f with zero := true }
  | '+' => some { f with plus := true }
  | ' ' => some { f with space := true }
  | '#' => some f
  | _ => none

def flags : Format → Text → Format × Text
  | f, [] => (f, [])
  | f, c :: rest =>
      match flagOf f c with
      | some f => flags f rest
      | none => (f, c :: rest)

def measure (t : Text) (arguments : List Text) : Option Nat × Text × List Text :=
  match t with
  | '*' :: rest => (some (numberOf (arguments.headD [])).toNat, rest, arguments.tail)
  | t =>
      let digits := t.takeWhile Char.isDigit
      (if digits.isEmpty then none else Arithmetic.ofDigits? 10 digits, t.drop digits.length,
        arguments)

def formatOnce : (fuel : Nat) → Text → List Text → Text × List Text × Bool
  | 0, _, arguments => ([], arguments, true)
  | _ + 1, [], arguments => ([], arguments, false)
  | fuel + 1, '%' :: '%' :: rest, arguments =>
      let (t, arguments, stop) := formatOnce fuel rest arguments
      ('%' :: t, arguments, stop)
  | fuel + 1, '%' :: rest, arguments =>
      let (f, rest) := flags ⟨false, false, false, false, 0, none⟩ rest
      let (width, rest, arguments) := measure rest arguments
      let (precision, rest, arguments) := match rest with
        | '.' :: rest =>
            let (p, rest, arguments) := measure rest arguments
            (some (p.getD 0), rest, arguments)
        | rest => (none, rest, arguments)
      match rest with
      | [] => ([], arguments, true)
      | kind :: rest =>
          let f := { f with width := width.getD 0, precision }
          let (t, stop) := convert f kind (arguments.headD [])
          if stop then (t, arguments.tail, true)
          else
            let (more, arguments, stop) := formatOnce fuel rest arguments.tail
            (t ++ more, arguments, stop)
  | fuel + 1, '\\' :: c :: rest, arguments =>
      let (first, rest) : Text × Text :=
        if (octal? c).isSome then
          let (n, rest) := octalRun 3 (c :: rest)
          ([byte n], rest)
        else match escapeOf? c with
          | some e => ([e], rest)
          | none => (['\\', c], rest)
      let (t, arguments, stop) := formatOnce fuel rest arguments
      (first ++ t, arguments, stop)
  | fuel + 1, c :: rest, arguments =>
      let (t, arguments, stop) := formatOnce fuel rest arguments
      (c :: t, arguments, stop)

/-- A format is used again while it takes arguments and some are left. -/
def printf : (rounds : Nat) → Text → List Text → Text
  | 0, _, _ => []
  | rounds + 1, format, arguments =>
      let (t, left, stop) := formatOnce (format.length + 1) format arguments
      if stop || left.isEmpty || left.length = arguments.length then t
      else t ++ printf rounds format left

structure Marking where
  controls : Bool
  ends : Bool
  tabs : Bool
  numbers : Bool

namespace Marking

def low (c : Char) : Text :=
  if c.toNat < 0x20 then ['^', byte (c.toNat + 64)]
  else if c = '\x7f' then ['^', '?']
  else [c]

def mark (m : Marking) (c : Char) : Text :=
  if c = '\n' then if m.ends then ['$', '\n'] else ['\n']
  else if c = '\t' then if m.tabs then ['^', 'I'] else ['\t']
  else if !m.controls then [c]
  else if c.toNat < 0x80 then low c
  else 'M' :: '-' :: low (byte (c.toNat - 0x80))

def chunk (m : Marking) (line : Nat) (atStart : Bool) : Text → Text × Nat × Bool
  | [] => ([], line, atStart)
  | c :: rest =>
      let (front, line) : Text × Nat :=
        if m.numbers && atStart then
          let n := Text.ofNat (line + 1)
          (List.replicate (6 - n.length) ' ' ++ n ++ ['\t'], line + 1)
        else ([], line)
      let (t, line, atStart) := chunk m line (c = '\n') rest
      (front ++ m.mark c ++ t, line, atStart)

def ofLetters (letters : Text) : Marking where
  controls := letters.any (· ∈ "Avet".toList)
  ends := letters.any (· ∈ "AeE".toList)
  tabs := letters.any (· ∈ "AtT".toList)
  numbers := letters.any (· ∈ "nb".toList)

end Marking

def setChars : (fuel : Nat) → Text → Text
  | 0, _ => []
  | _ + 1, [] => []
  | fuel + 1, t =>
      match "[:upper:]".toList.isPrefixOf? t, "[:lower:]".toList.isPrefixOf? t,
          "[:digit:]".toList.isPrefixOf? t with
      | some rest, _, _ => (List.range 26).map (fun i => byte (65 + i)) ++ setChars fuel rest
      | _, some rest, _ => (List.range 26).map (fun i => byte (97 + i)) ++ setChars fuel rest
      | _, _, some rest => (List.range 10).map (fun i => byte (48 + i)) ++ setChars fuel rest
      | _, _, _ =>
          match t with
          | '\\' :: c :: rest =>
              if (octal? c).isSome then
                let (n, rest) := octalRun 3 (c :: rest)
                byte n :: setChars fuel rest
              else (escapeOf? c).getD c :: setChars fuel rest
          | a :: '-' :: b :: rest =>
              (List.range (b.toNat + 1 - a.toNat)).map (fun i => byte (a.toNat + i)) ++
                setChars fuel rest
          | c :: rest => c :: setChars fuel rest
          | [] => []

def exchange (delete : Bool) (source target : Text) (t : Text) : Text :=
  t.filterMap fun c =>
    match source.findIdx? (· = c) with
    | none => some c
    | some i => if delete then none else some ((target[i]?).getD (target.getLast?.getD c))

def sequence (first step last : Int) : Text :=
  let count :=
    if step = 0 then 0
    else if 0 < step then (if last < first then 0 else ((last - first) / step).toNat + 1)
    else if first < last then 0 else ((first - last) / (-step)).toNat + 1
  (List.range count).flatMap fun (i : Nat) => Arithmetic.display (first + step * i) ++ ['\n']

end ModemDialog.Shell.Output
