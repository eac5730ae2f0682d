import ModemDialog.Text.Basic

/-! Sums in a shell: integers, names and the operators on them. The shell serves only the
command line. -/
namespace ModemDialog.Shell.Arithmetic

inductive Item where
  | number (n : Int)
  | name (t : Text)
  | sign (t : Text)
  deriving DecidableEq, Repr

def signs : List Text :=
  ["<<", ">>", "<=", ">=", "==", "!=", "&&", "||", "+=", "-=", "*=", "/=", "%=", "+", "-", "*",
    "/", "%", "<", ">", "&", "|", "^", "!", "~", "(", ")", "=", "?", ":"].map String.toList

def digit? (c : Char) : Option Nat :=
  if c.isDigit then some (c.toNat - 48)
  else if 'a' ≤ c && c ≤ 'f' then some (c.toNat - 87)
  else if 'A' ≤ c && c ≤ 'F' then some (c.toNat - 55)
  else none

def ofDigits? (base : Nat) (t : Text) : Option Nat :=
  if t.isEmpty then none
  else t.foldl (fun n c => do
    let n ← n
    let d ← digit? c
    if d < base then some (base * n + d) else none) (some 0)

/-- A number without a sign: decimal, octal behind a zero, or hexadecimal. -/
def unsigned? : Text → Option Nat
  | '0' :: 'x' :: rest => ofDigits? 16 rest
  | '0' :: 'X' :: rest => ofDigits? 16 rest
  | '0' :: c :: rest => ofDigits? 8 (c :: rest)
  | t => ofDigits? 10 t

def integer? : Text → Option Int
  | '-' :: rest => (unsigned? rest).map fun n => -(n : Int)
  | '+' :: rest => (unsigned? rest).map fun n => (n : Int)
  | t => (unsigned? t).map fun n => (n : Int)

def isName (c : Char) : Bool := c.isAlphanum || c = '_'

def items : (fuel : Nat) → Text → Option (List Item)
  | 0, _ => none
  | _ + 1, [] => some []
  | fuel + 1, c :: rest =>
      if c = ' ' || c = '\t' || c = '\n' then items fuel rest
      else
        let t := c :: rest
        let word := t.takeWhile isName
        if !word.isEmpty then do
          let item ← if c.isDigit then (unsigned? word).map fun n => Item.number n
            else some (.name word)
          (← items fuel (t.drop word.length)) |> (item :: ·) |> some
        else do
          let (s, rest) ← signs.findSome? fun s => (s.isPrefixOf? t).map fun rest => (s, rest)
          (← items fuel rest) |> (.sign s :: ·) |> some

def levels : List (List Text) :=
  [["||"], ["&&"], ["|"], ["^"], ["&"], ["==", "!="], ["<", "<=", ">", ">="], ["<<", ">>"],
    ["+", "-"], ["*", "/", "%"]].map (·.map String.toList)

def level? (s : Text) : Option Nat := levels.findIdx? fun level => level.any (· = s)

def truth (b : Bool) : Int := if b then 1 else 0

/-- Operators work on words of 64 bits. -/
def apply (s : Text) (a b : Int) : Option Int :=
  let x := Int64.ofInt a
  let y := Int64.ofInt b
  match s with
  | ['|', '|'] => some (truth (a != 0 || b != 0))
  | ['&', '&'] => some (truth (a != 0 && b != 0))
  | ['|'] => some (x ||| y).toInt
  | ['^'] => some (x ^^^ y).toInt
  | ['&'] => some (x &&& y).toInt
  | ['=', '='] => some (truth (a == b))
  | ['!', '='] => some (truth (a != b))
  | ['<'] => some (truth (a < b))
  | ['<', '='] => some (truth (a ≤ b))
  | ['>'] => some (truth (b < a))
  | ['>', '='] => some (truth (b ≤ a))
  | ['<', '<'] => some (x <<< y).toInt
  | ['>', '>'] => some (x >>> y).toInt
  | ['+'] => some (x + y).toInt
  | ['-'] => some (x - y).toInt
  | ['*'] => some (x * y).toInt
  | ['/'] => if b = 0 then none else some (x / y).toInt
  | ['%'] => if b = 0 then none else some (x % y).toInt
  | _ => none

abbrev Store := List (Text × Int)

def lookup (store : Store) (name : Text) : Int := ((store.find? (·.1 = name)).map (·.2)).getD 0

abbrev Result := Option (Int × Store × List Item)

def eval : (fuel : Nat) → (level : Option Nat) → Store → List Item → Result
  | 0, _, _, _ => none
  | fuel + 1, none, store, items =>
      match items with
      | .number n :: rest => some (n, store, rest)
      | .name x :: .sign ['='] :: rest => do
          let (v, store, rest) ← eval fuel (some 0) store rest
          some (v, (x, v) :: store, rest)
      | .name x :: .sign [s, '='] :: rest =>
          if s ∈ "+-*/%".toList then do
            let (v, store, rest) ← eval fuel (some 0) store rest
            let v ← apply [s] (lookup store x) v
            some (v, (x, v) :: store, rest)
          else some (lookup store x, store, .sign [s, '='] :: rest)
      | .name x :: rest => some (lookup store x, store, rest)
      | .sign ['('] :: rest => do
          let (v, store, rest) ← eval fuel (some 0) store rest
          match rest with
          | .sign [')'] :: rest => some (v, store, rest)
          | _ => none
      | .sign [s] :: rest => do
          let (v, store, rest) ← eval fuel none store rest
          match s with
          | '-' => some (-v, store, rest)
          | '+' => some (v, store, rest)
          | '!' => some (truth (v == 0), store, rest)
          | '~' => some (-v - 1, store, rest)
          | _ => none
      | _ => none
  | fuel + 1, some level, store, items => do
      let (v, store, rest) ← eval fuel none store items
      joined fuel level v store rest
where
  /-- Operators of the level and above behind a value. -/
  joined : (fuel : Nat) → Nat → Int → Store → List Item → Result
    | 0, _, _, _, _ => none
    | fuel + 1, level, v, store, items =>
        match items with
        | .sign s :: rest =>
            match level? s with
            | some l =>
                if l < level then some (v, store, items)
                else do
                  let (w, store, rest) ← eval fuel (some (l + 1)) store rest
                  joined fuel level (← apply s v w) store rest
            | none => some (v, store, items)
        | _ => some (v, store, items)

def value? (store : Store) (t : Text) : Option (Int × Store) := do
  let items ← items (t.length + 1) t
  if items.isEmpty then some (0, store)
  else
    let (v, store, rest) ← eval (4 * items.length + 4) (some 0) store items
    if rest.isEmpty then some (v, store) else none

def display (n : Int) : Text :=
  if n < 0 then '-' :: Text.ofNat n.natAbs else Text.ofNat n.natAbs

end ModemDialog.Shell.Arithmetic
