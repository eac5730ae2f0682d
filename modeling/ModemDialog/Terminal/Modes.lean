import ModemDialog.Notice

/-! The modes of a terminal line and how settings become modes. -/
namespace ModemDialog.Terminal

inductive InputFlag where
  | icrnl
  | inpck
  | ixoff
  | ixon
  deriving DecidableEq, Repr

inductive OutputFlag where
  | onlcr
  | opost
  deriving DecidableEq, Repr

inductive LocalFlag where
  | echo
  | echoctl
  | echoe
  | echok
  | echoke
  | icanon
  | iexten
  | isig
  deriving DecidableEq, Repr

inductive ControlFlag where
  | cread
  | clocal
  | parenb
  | parodd
  | cmspar
  | cstopb
  | crtscts
  deriving DecidableEq, Repr

def InputFlag.name : InputFlag → Text
  | .icrnl => "ICRNL".toList
  | .inpck => "INPCK".toList
  | .ixoff => "IXOFF".toList
  | .ixon => "IXON".toList

def OutputFlag.name : OutputFlag → Text
  | .onlcr => "ONLCR".toList
  | .opost => "OPOST".toList

def LocalFlag.name : LocalFlag → Text
  | .echo => "ECHO".toList
  | .echoctl => "ECHOCTL".toList
  | .echoe => "ECHOE".toList
  | .echok => "ECHOK".toList
  | .echoke => "ECHOKE".toList
  | .icanon => "ICANON".toList
  | .iexten => "IEXTEN".toList
  | .isig => "ISIG".toList

def ControlFlag.name : ControlFlag → Text
  | .cread => "CREAD".toList
  | .clocal => "CLOCAL".toList
  | .parenb => "PARENB".toList
  | .parodd => "PARODD".toList
  | .cmspar => "CMSPAR".toList
  | .cstopb => "CSTOPB".toList
  | .crtscts => "CRTSCTS".toList

structure Modes where
  input : List InputFlag
  output : List OutputFlag
  locals : List LocalFlag
  control : List ControlFlag
  charSize : CharSize
  speed : Nat
  minimum : Nat
  interval : Nat
  deriving DecidableEq, Repr

namespace Modes

def fresh : Modes where
  input := [.icrnl, .ixon]
  output := [.onlcr, .opost]
  locals := [.echo, .echoctl, .echoe, .echok, .echoke, .icanon, .iexten, .isig]
  control := [.cread]
  charSize := .eight
  speed := 38400
  minimum := 1
  interval := 0

def raw (m : Modes) : Modes :=
  { m with
    input := m.input.filter (· ∉ [.icrnl, .ixon])
    output := m.output.filter (· ≠ .opost)
    locals := m.locals.filter (· ∉ [.echo, .icanon, .isig, .iexten])
    control := m.control.filter (· ≠ .parenb)
    charSize := .eight
    minimum := 1
    interval := 0 }

def parityFlags : Parity → List ControlFlag
  | .none => []
  | .even => [.parenb]
  | .odd => [.parenb, .parodd]
  | .mark => [.parenb, .parodd, .cmspar]
  | .space => [.parenb, .cmspar]

/-- One and a half stop bits count as two. -/
def stopFlags : StopBits → List ControlFlag
  | .one => []
  | .oneAndHalf | .two => [.cstopb]

def flowFlags : FlowControl → List ControlFlag
  | .rtsCts => [.crtscts]
  | _ => []

def flowInput : FlowControl → List InputFlag
  | .xonXoff => [.ixoff, .ixon]
  | _ => []

def parityInput (p : Parity) : List InputFlag := if p = .none then [] else [.inpck]

/-- Raw modes with the settings; a read waits for nothing. -/
def ofSettings (s : LineSettings) : Modes :=
  { fresh.raw with
    input := parityInput s.parity ++ flowInput s.flow
    control := [.cread, .clocal] ++ parityFlags s.parity ++ stopFlags s.stopBits ++
      flowFlags s.flow
    charSize := s.charSize
    speed := s.baud
    minimum := 0
    interval := 0 }

/-- What a pseudo terminal keeps of modes: eight bits always, and no parity bit. -/
def kept (m : Modes) : Modes :=
  { m with control := m.control.filter (· ≠ .parenb), charSize := .eight }

def notices (s : LineSettings) : List Notice :=
  (if s.stopBits = .oneAndHalf then [.stopBitsRounded] else []) ++
    if s.flow = .dsrDtr then [.flowUnavailable] else []

def hasRate (baud : Nat) : Bool := baud ∈ offeredRates && baud ≠ 14400

end Modes
end ModemDialog.Terminal
