import ModemDialog.Text.Basic

/-! Words and signs of a shell command. The shell works on bytes: a character of its
texts stands for one byte. It serves only the command line. -/
namespace ModemDialog.Shell

/-- A part of a word. What stands in quotes is neither split nor a pattern. -/
inductive Piece where
  | bare (t : Text)
  | quoted (t : Text)
  /-- What follows a dollar sign: a name, or the inside of braces. -/
  | parameter (inner : Text) (quoted : Bool)
  | arithmetic (inner : Text) (quoted : Bool)
  | command (inner : Text) (quoted : Bool)
  deriving DecidableEq, Repr

abbrev Word := List Piece

inductive Token where
  | word (w : Word)
  /-- A sign that separates or joins commands. -/
  | sign (t : Text)
  /-- A redirection, with the number in front of it. -/
  | arrow (channel : Option Nat) (t : Text)
  | newline
  deriving DecidableEq, Repr

namespace Lexer

def apostrophe : Char := '\x27'

def doubleQuote : Char := '\x22'

def backquote : Char := '\x60'

def isNameStart (c : Char) : Bool := c.isAlpha || c = '_'

def isName (c : Char) : Bool := c.isAlphanum || c = '_'

def isBlank (c : Char) : Bool := c = ' ' || c = '\t'

def isSign (c : Char) : Bool := c ∈ ";&|<>()\n".toList

/-- Split at the closing sign that belongs to an opening sign already passed, skipping
over quotes. -/
def closing (opener closer : Char) :
    (depth : Nat) → (quote : Option Char) → Text → Option (Text × Text)
  | _, _, [] => none
  | depth, quote, '\\' :: c :: rest =>
      (closing opener closer depth quote rest).map fun (a, b) => ('\\' :: c :: a, b)
  | depth, some q, c :: rest =>
      (closing opener closer depth (if c = q then none else some q) rest).map
        fun (a, b) => (c :: a, b)
  | depth, none, c :: rest =>
      if c = closer then
        match depth with
        | 0 => some ([], rest)
        | d + 1 => (closing opener closer d none rest).map fun (a, b) => (c :: a, b)
      else
        let depth := if c = opener then depth + 1 else depth
        let quote := if c = apostrophe || c = doubleQuote then some c else none
        (closing opener closer depth quote rest).map fun (a, b) => (c :: a, b)

def dollar (quoted : Bool) (t : Text) : Piece × Text :=
  let literal : Piece := if quoted then .quoted ['$'] else .bare ['$']
  match t with
  | '(' :: '(' :: rest =>
      match closing '(' ')' 0 none rest with
      | some (inner, ')' :: rest) => (.arithmetic inner quoted, rest)
      | _ =>
          match closing '(' ')' 0 none ('(' :: rest) with
          | some (inner, rest) => (.command inner quoted, rest)
          | none => (literal, t)
  | '(' :: rest =>
      match closing '(' ')' 0 none rest with
      | some (inner, rest) => (.command inner quoted, rest)
      | none => (literal, t)
  | '\x7b' :: rest =>
      match closing '\x7b' '\x7d' 0 none rest with
      | some (inner, rest) => (.parameter inner quoted, rest)
      | none => (literal, t)
  | c :: rest =>
      if isNameStart c then
        (.parameter (c :: rest.takeWhile isName) quoted, rest.dropWhile isName)
      else if c.isDigit || c ∈ "?#@*$!-".toList then (.parameter [c] quoted, rest)
      else (literal, t)
  | [] => (literal, t)

def backquoted : Text → Option (Text × Text)
  | [] => none
  | '\\' :: c :: rest =>
      (backquoted rest).map fun (a, b) =>
        (if c = backquote || c = '\\' || c = '$' then c :: a else '\\' :: c :: a, b)
  | c :: rest =>
      if c = backquote then some ([], rest) else (backquoted rest).map fun (a, b) => (c :: a, b)

def consBare (c : Char) : Word → Word
  | .bare t :: more => .bare (c :: t) :: more
  | more => .bare [c] :: more

def consQuoted (c : Char) : Word → Word
  | .quoted t :: more => .quoted (c :: t) :: more
  | more => .quoted [c] :: more

/-- A word and what follows it; `double` inside double quotes, whose end is passed. -/
def word : (fuel : Nat) → (double : Bool) → Text → Option (Word × Text)
  | 0, _, _ => none
  | _ + 1, true, [] => none
  | _ + 1, false, [] => some ([], [])
  | fuel + 1, true, c :: rest =>
      if c = doubleQuote then (word fuel false rest).map fun (w, r) => (.quoted [] :: w, r)
      else if c = '\\' then
        match rest with
        | '\n' :: rest => word fuel true rest
        | d :: rest =>
            if d = '$' || d = backquote || d = doubleQuote || d = '\\' then
              (word fuel true rest).map fun (w, r) => (consQuoted d w, r)
            else (word fuel true (d :: rest)).map fun (w, r) => (consQuoted c w, r)
        | [] => none
      else if c = '$' then
        let (p, rest) := dollar true rest
        (word fuel true rest).map fun (w, r) => (p :: w, r)
      else if c = backquote then
        match backquoted rest with
        | some (inner, rest) => (word fuel true rest).map fun (w, r) => (.command inner true :: w, r)
        | none => none
      else (word fuel true rest).map fun (w, r) => (consQuoted c w, r)
  | fuel + 1, false, c :: rest =>
      if isBlank c || isSign c then some ([], c :: rest)
      else if c = doubleQuote then (word fuel true rest).map fun (w, r) => (.quoted [] :: w, r)
      else if c = apostrophe then
        let inner := rest.takeWhile (· ≠ apostrophe)
        match rest.dropWhile (· ≠ apostrophe) with
        | _ :: rest => (word fuel false rest).map fun (w, r) => (.quoted inner :: w, r)
        | [] => none
      else if c = '\\' then
        match rest with
        | '\n' :: rest => word fuel false rest
        | d :: rest => (word fuel false rest).map fun (w, r) => (.quoted [d] :: w, r)
        | [] => some ([.bare ['\\']], [])
      else if c = '$' then
        let (p, rest) := dollar false rest
        (word fuel false rest).map fun (w, r) => (p :: w, r)
      else if c = backquote then
        match backquoted rest with
        | some (inner, rest) =>
            (word fuel false rest).map fun (w, r) => (.command inner false :: w, r)
        | none => none
      else (word fuel false rest).map fun (w, r) => (consBare c w, r)

def signs : List Text :=
  [";;", "&&", "||", ";", "&", "|", "(", ")"].map String.toList

def arrows : List Text :=
  [">>", "<<", ">&", "<&", ">|", "<>", ">", "<"].map String.toList

def starting (ts : List Text) (t : Text) : Option (Text × Text) :=
  ts.findSome? fun s => (s.isPrefixOf? t).map fun rest => (s, rest)

def digits (t : Text) : Nat := t.foldl (fun n c => 10 * n + (c.toNat - 48)) 0

def tokens : (fuel : Nat) → Text → Option (List Token)
  | 0, _ => none
  | _ + 1, [] => some []
  | fuel + 1, c :: rest =>
      if isBlank c then tokens fuel rest
      else if c = '\n' then (tokens fuel rest).map (.newline :: ·)
      else if c = '#' then tokens fuel (rest.dropWhile (· ≠ '\n'))
      else if c = '\\' && rest.head? = some '\n' then tokens fuel (rest.drop 1)
      else
        let t := c :: rest
        let number := t.takeWhile Char.isDigit
        match starting arrows (t.drop number.length) with
        | some (arrow, rest) =>
            let channel := if number.isEmpty then none else some (digits number)
            (tokens fuel rest).map (.arrow channel arrow :: ·)
        | none =>
            match starting signs t with
            | some (sign, rest) => (tokens fuel rest).map (.sign sign :: ·)
            | none => do
                let (w, rest) ← word (t.length + 1) false t
                (← tokens fuel rest) |> (.word w :: ·) |> some

end Lexer

def Token.ofText (t : Text) : Option (List Token) := Lexer.tokens (t.length + 1) t

def Word.ofText (t : Text) : Word :=
  match Lexer.word (2 * t.length + 2) true (t ++ [Lexer.doubleQuote]) with
  | some (w, _) => w
  | none => [.quoted t]

end ModemDialog.Shell
