import ModemDialog.Shell.Arithmetic
import ModemDialog.Shell.Pattern
import ModemDialog.Shell.State

/-! Expanded words: fields, patterns and operators on parameters. The shell serves only the
command line. -/
namespace ModemDialog.Shell
namespace Run

/-- Part of an expanded word. `fixed` is neither split nor a pattern. -/
structure Segment where
  text : Text
  fixed : Bool

def splitField (separators : Text) : Text → (field : Text) → (isOpen : Bool) →
    List Text × Text × Bool
  | [], field, isOpen => ([], field, isOpen)
  | c :: rest, field, isOpen =>
      if c ∈ separators then
        let blank := Text.isBlank c
        let (fields, field', isOpen') := splitField separators rest [] false
        if isOpen || !blank then (field :: fields, field', isOpen')
        else (fields, field', isOpen')
      else splitField separators rest (field ++ [c]) true

def fieldsOf (separators : Text) : List Segment → (field : Text) → (isOpen : Bool) → List Text
  | [], field, isOpen => if isOpen then [field] else []
  | s :: rest, field, isOpen =>
      if s.fixed then fieldsOf separators rest (field ++ s.text) true
      else
        let (fields, field, isOpen) := splitField separators s.text field isOpen
        fields ++ fieldsOf separators rest field isOpen

/-- Give the fields of a line to names; the last name takes all that is left. -/
def share (separators : Text) (line : Text) : List Text → List (Text × Text)
  | [] => []
  | [name] =>
      let isBlank (c : Char) : Bool := c ∈ separators && Text.isBlank c
      [(name, ((line.dropWhile isBlank).reverse.dropWhile isBlank).reverse)]
  | name :: names =>
      let line := line.dropWhile fun c => c ∈ separators && Text.isBlank c
      let field := line.takeWhile (· ∉ separators)
      let rest := line.drop field.length
      let gap := rest.takeWhile fun c => c ∈ separators && Text.isBlank c
      let rest := rest.drop gap.length
      let rest := match rest with
        | c :: more => if gap.isEmpty && c ∈ separators then more else c :: more
        | [] => []
      (name, field) :: share separators rest names

def withoutBackslashes : Text → Text
  | '\\' :: c :: rest => c :: withoutBackslashes rest
  | c :: rest => c :: withoutBackslashes rest
  | [] => []

def operated (value : Option Text) (op : Text) (other : Text) (pattern : Pattern) :
    Option Text :=
  match String.ofList op with
  | ":-" => if (value.getD []).isEmpty then some other else value
  | "-" => some (value.getD other)
  | ":=" => if (value.getD []).isEmpty then some other else value
  | "=" => some (value.getD other)
  | ":+" => if (value.getD []).isEmpty then none else some other
  | "+" => value.map fun _ => other
  | "#" => value.map (Pattern.withoutHead false pattern)
  | "##" => value.map (Pattern.withoutHead true pattern)
  | "%" => value.map (Pattern.withoutTail false pattern)
  | "%%" => value.map (Pattern.withoutTail true pattern)
  | _ => value

def operators : List Text :=
  [":-", ":=", ":+", "##", "%%", "-", "=", "+", "#", "%"].map String.toList

def nameOf (inner : Text) : Text :=
  match inner with
  | c :: rest =>
      if Lexer.isNameStart c then c :: rest.takeWhile Lexer.isName
      else if c.isDigit then c :: rest.takeWhile Char.isDigit
      else [c]
  | [] => []

def textOf (segments : List Segment) : Text := (segments.map (·.text)).flatten

def patternOf (segments : List Segment) : Pattern :=
  let chars := segments.flatMap fun s => s.text.map fun c => (c, s.fixed)
  Pattern.ofChars (chars.length + 1) chars

def numbers (s : State) : Arithmetic.Store :=
  s.bindings.map fun (name, value) => (name, (Arithmetic.integer? (Text.trim value)).getD 0)

end Run
end ModemDialog.Shell
