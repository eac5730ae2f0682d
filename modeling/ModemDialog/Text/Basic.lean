/-! Text and bytes as lists, white space, words and lines. -/
namespace ModemDialog

abbrev Text := List Char
abbrev Bytes := List UInt8

def firstAt? [BEq α] (needle : List α) : List α → Option Nat
  | [] => if needle.isEmpty then some 0 else none
  | a :: rest =>
      if needle.isPrefixOf (a :: rest) then some 0
      else (firstAt? needle rest).map (· + 1)

namespace Text

/-- The characters with the Unicode property White_Space. -/
def isBlank (c : Char) : Bool :=
  let n := c.toNat
  (9 ≤ n && n ≤ 13) || n == 0x20 || n == 0x85 || n == 0xA0 || n == 0x1680 ||
    (0x2000 ≤ n && n ≤ 0x200A) || n == 0x2028 || n == 0x2029 || n == 0x202F ||
    n == 0x205F || n == 0x3000

def trimLeft (t : Text) : Text := t.dropWhile isBlank

def trimRight (t : Text) : Text := (t.reverse.dropWhile isBlank).reverse

def trim (t : Text) : Text := trimRight (trimLeft t)

def headWord (line : Text) : Text × Text :=
  (line.takeWhile (!isBlank ·), trim (line.dropWhile (!isBlank ·)))

def cut? (mark : Char) : Text → Option (Text × Text)
  | [] => none
  | c :: rest =>
      if c = mark then some ([], rest)
      else (cut? mark rest).map fun (front, back) => (c :: front, back)

/-- Lines end at a line feed, which takes one carriage return before it along;
a text that ends in a line feed has no empty line after it. -/
def lines : Text → List Text
  | [] => []
  | '\n' :: rest => [] :: lines rest
  | '\r' :: '\n' :: rest => [] :: lines rest
  | c :: rest =>
      match lines rest with
      | [] => [[c]]
      | line :: more => (c :: line) :: more

def join (glue : Text) : List Text → Text
  | [] => []
  | [t] => t
  | t :: more => t ++ glue ++ join glue more

def ofNat (n : Nat) : Text := (Nat.repr n).toList

end Text
end ModemDialog
