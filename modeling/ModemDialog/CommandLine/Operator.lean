import ModemDialog.Engine

/-! The operator's turns, read from standard input. -/
namespace ModemDialog.CommandLine

/-- Lines of bytes. A line feed takes one carriage return before it along; what stands
behind the last line feed is a line if there is anything. -/
def byteLines : Bytes → List Bytes
  | [] => []
  | 0x0A :: rest => [] :: byteLines rest
  | 0x0D :: 0x0A :: rest => [] :: byteLines rest
  | b :: rest =>
      match byteLines rest with
      | [] => [[b]]
      | line :: more => (b :: line) :: more

def turnOf (line : Bytes) : OperatorTurn :=
  match Utf8.decode? line with
  | some line => ⟨none, none, false, line⟩
  | none => ⟨none, some FileFault.notUtf8.message, false, []⟩

def operatorOf (input : Bytes) (staysOpen : Bool) : Operator :=
  ⟨(byteLines input).map turnOf, 0, staysOpen⟩

end ModemDialog.CommandLine
