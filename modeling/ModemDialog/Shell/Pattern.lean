import ModemDialog.Text.Basic

/-! Patterns for whole texts: a star for any text, a question mark for any character,
brackets for one of several. The shell serves only the command line. -/
namespace ModemDialog.Shell

inductive Mark where
  | one (c : Char)
  | any
  | many
  | among (negated : Bool) (ranges : List (Char × Char))
  deriving DecidableEq, Repr

abbrev Pattern := List Mark

namespace Pattern

def ranges : Text → List (Char × Char)
  | a :: '-' :: b :: rest => (a, b) :: ranges rest
  | a :: rest => (a, a) :: ranges rest
  | [] => []

def ofChars : (fuel : Nat) → List (Char × Bool) → Pattern
  | 0, _ => []
  | _ + 1, [] => []
  | fuel + 1, (c, quoted) :: rest =>
      if quoted then .one c :: ofChars fuel rest
      else if c = '*' then .many :: ofChars fuel rest
      else if c = '?' then .any :: ofChars fuel rest
      else if c = '[' then
        let inner := (rest.takeWhile (·.1 ≠ ']')).map (·.1)
        match rest.dropWhile (·.1 ≠ ']') with
        | [] => .one c :: ofChars fuel rest
        | _ :: rest =>
            match inner with
            | '!' :: inner => .among true (ranges inner) :: ofChars fuel rest
            | inner => .among false (ranges inner) :: ofChars fuel rest
      else .one c :: ofChars fuel rest

def fits (c : Char) : Mark → Bool
  | .one d => c = d
  | .any => true
  | .many => false
  | .among negated rs => (rs.any fun (a, b) => a ≤ c && c ≤ b) != negated

def matches? : Pattern → Text → Bool
  | [], t => t.isEmpty
  | .many :: p, [] => matches? p []
  | .many :: p, c :: t => matches? p (c :: t) || matches? (.many :: p) t
  | _ :: _, [] => false
  | m :: p, c :: t => fits c m && matches? p t
termination_by p t => (p.length, t.length)

def withoutHead (longest : Bool) (p : Pattern) (t : Text) : Text :=
  let lengths := List.range (t.length + 1)
  match (if longest then lengths.reverse else lengths).find? fun n => matches? p (t.take n) with
  | some n => t.drop n
  | none => t

def withoutTail (longest : Bool) (p : Pattern) (t : Text) : Text :=
  let lengths := List.range (t.length + 1)
  match (if longest then lengths else lengths.reverse).find? fun n => matches? p (t.drop n) with
  | some n => t.take n
  | none => t

end Pattern
end ModemDialog.Shell
