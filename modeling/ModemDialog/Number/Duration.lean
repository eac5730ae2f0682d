import ModemDialog.Text.Basic
import ModemDialog.Number.Binary64

/-! Spans of time in whole nanoseconds, and their conversion from seconds. -/
namespace ModemDialog

structure Duration where
  nanos : Nat
  deriving DecidableEq, Repr

inductive SecondsFault where
  | negative
  | tooBigOrNan
  deriving DecidableEq, Repr

namespace SecondsFault

def message : SecondsFault → Text
  | .negative =>
      "cannot convert float seconds to Duration: value is negative".toList
  | .tooBigOrNan =>
      "cannot convert float seconds to Duration: value is either too big or NaN".toList

end SecondsFault

namespace Duration

def zero : Duration := ⟨0⟩

def ofMillis (n : Nat) : Duration := ⟨n * 1000000⟩

def ofSecs (n : Nat) : Duration := ⟨n * 1000000000⟩

/-- Seconds are kept in 64 bits. -/
def secondsLimit : Nat := 1 <<< 64

/-- The nearest nanosecond to the exact value, a tie going to the even one. -/
def ofSeconds : Binary64 → Except SecondsFault Duration
  | .nan => .error .tooBigOrNan
  | .infinite negative => .error (if negative then .negative else .tooBigOrNan)
  | .finite negative m e =>
      if negative && m != 0 then .error .negative
      else
        let (num, den) := Binary64.scaled m 1 (-e)
        if secondsLimit * den ≤ num then .error .tooBigOrNan
        else .ok ⟨roundHalfEven (num * 1000000000) den⟩

def ceilMillis (d : Duration) : Nat := (999999 + d.nanos) / 1000000

def padded (width n : Nat) : Text :=
  let t := Text.ofNat n
  List.replicate (width - t.length) '0' ++ t

def decimalText (whole part places : Nat) : Text :=
  let fraction := ((padded places part).reverse.dropWhile (· == '0')).reverse
  Text.ofNat whole ++ (if fraction.isEmpty then [] else '.' :: fraction)

/-- The shortest exact text, in the largest unit that leaves a whole part. -/
def display (d : Duration) : Text :=
  let n := d.nanos
  if 1000000000 ≤ n then decimalText (n / 1000000000) (n % 1000000000) 9 ++ "s".toList
  else if 1000000 ≤ n then decimalText (n / 1000000) (n % 1000000) 6 ++ "ms".toList
  else if 1000 ≤ n then decimalText (n / 1000) (n % 1000) 3 ++ "µs".toList
  else Text.ofNat n ++ "ns".toList

end Duration
end ModemDialog
