import ModemDialog.Text.Basic
import ModemDialog.Number.Integer

/-! Binary floating point with 53-bit significands as exact values, read from
decimal text. Every rounding goes to the nearest value, a tie to the even one. -/
namespace ModemDialog

def roundHalfEven (num den : Nat) : Nat :=
  let q := num / den
  let twice := 2 * (num % den)
  if twice < den then q
  else if twice > den then q + 1
  else if q % 2 = 0 then q else q + 1

/-- A finite value is `± significand * 2 ^ exponent`. -/
inductive Binary64 where
  | finite (negative : Bool) (significand : Nat) (exponent : Int)
  | infinite (negative : Bool)
  | nan
  deriving DecidableEq, Repr

namespace Binary64

def scaled (num den : Nat) (shift : Int) : Nat × Nat :=
  match shift with
  | .ofNat k => (num, den <<< k)
  | .negSucc k => (num <<< (k + 1), den)

def lastPlace (num den : Nat) : Int :=
  let guess : Int := Int.ofNat num.log2 - Int.ofNat den.log2 - 53
  let (a, b) := scaled num den guess
  let exact := if a / b < 1 <<< 53 then guess else guess + 1
  max exact (-1074)

/-- The representable value nearest to `± num / den`. -/
def ofRatio (negative : Bool) (num den : Nat) : Binary64 :=
  if num = 0 then .finite negative 0 0
  else
    let e := lastPlace num den
    let (a, b) := scaled num den e
    let m := roundHalfEven a b
    if 971 < e || (e = 971 && 1 <<< 53 ≤ m) then .infinite negative
    else .finite negative m e

def divNat (x : Binary64) (divisor : Nat) : Binary64 :=
  match x with
  | .finite negative m (.ofNat k) => ofRatio negative (m <<< k) divisor
  | .finite negative m (.negSucc k) => ofRatio negative m (divisor <<< (k + 1))
  | other => other

/-- The value of `digits * 10 ^ power`, read without ever building a power that
lies far outside the range. -/
def ofDecimal (negative : Bool) (digits : Nat) (power : Int) : Binary64 :=
  if digits = 0 then .finite negative 0 0
  else
    let top : Int := Int.ofNat (Nat.toDigits 10 digits).length + power
    if 310 < top then .infinite negative
    else if top < -330 then .finite negative 0 0
    else match power with
      | .ofNat k => ofRatio negative (digits * Nat.pow 10 k) 1
      | .negSucc k => ofRatio negative digits (Nat.pow 10 (k + 1))

end Binary64

inductive DecimalFault where
  | empty
  | invalid
  deriving DecidableEq, Repr

namespace DecimalFault

def message : DecimalFault → Text
  | .empty => "cannot parse float from empty string".toList
  | .invalid => "invalid float literal".toList

end DecimalFault

namespace Decimal

def lowerAscii (c : Char) : Char :=
  if 'A' ≤ c && c ≤ 'Z' then Char.ofNat (c.toNat + 32) else c

def isDigit (c : Char) : Bool := (Numeral.digit? c).isSome

def value (digits : Text) : Nat :=
  digits.foldl (fun v c => v * 10 + (Numeral.digit? c).getD 0) 0

def sign : Text → Bool × Text
  | '-' :: rest => (true, rest)
  | '+' :: rest => (false, rest)
  | t => (false, t)

/-- An exponent: nothing, or `e`, a sign and at least one digit. -/
def exponent? : Text → Option Int
  | [] => some 0
  | c :: rest =>
      if lowerAscii c != 'e' then none
      else
        let (negative, digits) := sign rest
        if digits.isEmpty || !digits.all isDigit then none
        else some (if negative then -(Int.ofNat (value digits)) else Int.ofNat (value digits))

/-- An unsigned numeral: digits with at most one point among or around them,
then an exponent. -/
def number? (negative : Bool) (t : Text) : Option Binary64 :=
  let whole := t.takeWhile isDigit
  let rest := t.dropWhile isDigit
  let (fraction, rest) := match rest with
    | '.' :: more => (more.takeWhile isDigit, more.dropWhile isDigit)
    | _ => ([], rest)
  if whole.isEmpty && fraction.isEmpty then none
  else (exponent? rest).map fun e =>
    .ofDecimal negative (value (whole ++ fraction)) (e - Int.ofNat fraction.length)

def parse (t : Text) : Except DecimalFault Binary64 :=
  if t.isEmpty then .error .empty
  else
    let (negative, body) := sign t
    let word := body.map lowerAscii
    if word = "inf".toList || word = "infinity".toList then .ok (.infinite negative)
    else if word = "nan".toList then .ok .nan
    else match number? negative body with
      | some x => .ok x
      | none => .error .invalid

end Decimal
end ModemDialog
