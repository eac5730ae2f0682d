import ModemDialog.Text.Basic

/-! UTF-8. Writing is total; reading is strict (`decode?`) or lossy, where each
longest ill-formed run becomes one replacement character. -/
namespace ModemDialog.Utf8

def encode (t : Text) : Bytes := t.flatMap String.utf8EncodeChar

/-- The values a second byte may have after the lead byte `lead`: surrogates,
overlong forms and values past U+10FFFF are cut off here. -/
def secondRange (lead : Nat) : Nat × Nat :=
  if lead = 0xE0 then (0xA0, 0xBF)
  else if lead = 0xED then (0x80, 0x9F)
  else if lead = 0xF0 then (0x90, 0xBF)
  else if lead = 0xF4 then (0x80, 0x8F)
  else (0x80, 0xBF)

/-- How many bytes follow a lead byte, and its share of the scalar value. -/
def leadOf (b : Nat) : Option (Nat × Nat) :=
  if b < 0x80 then some (0, b)
  else if 0xC2 ≤ b && b ≤ 0xDF then some (1, b - 0xC0)
  else if 0xE0 ≤ b && b ≤ 0xEF then some (2, b - 0xE0)
  else if 0xF0 ≤ b && b ≤ 0xF4 then some (3, b - 0xF0)
  else none

/-- Gather `want` continuation bytes onto `value`; `used` counts those taken. -/
def gather (range : Nat × Nat) : (want value used : Nat) → Bytes → Option Nat × Nat
  | 0, value, used, _ => (some value, used)
  | _ + 1, _, used, [] => (none, used)
  | want + 1, value, used, b :: rest =>
      if range.1 ≤ b.toNat && b.toNat ≤ range.2 then
        gather (0x80, 0xBF) want (value * 64 + (b.toNat - 0x80)) (used + 1) rest
      else (none, used)

/-- The character at the front of `b :: rest` and how many bytes of `rest`
belong to it; without one, how many belong to the ill-formed run. -/
def head (b : UInt8) (rest : Bytes) : Option Char × Nat :=
  match leadOf b.toNat with
  | none => (none, 0)
  | some (want, share) =>
      let (value?, used) := gather (secondRange b.toNat) want share 0 rest
      (value?.map Char.ofNat, used)

def replacement : Char := '\uFFFD'

def decodeLossy : Bytes → Text
  | [] => []
  | b :: rest =>
      let (c?, used) := head b rest
      c?.getD replacement :: decodeLossy (rest.drop used)
termination_by data => data.length
decreasing_by simp only [List.length_drop, List.length_cons]; omega

def decode? : Bytes → Option Text
  | [] => some []
  | b :: rest =>
      match head b rest with
      | (none, _) => none
      | (some c, used) => (decode? (rest.drop used)).map (c :: ·)
termination_by data => data.length
decreasing_by simp only [List.length_drop, List.length_cons]; omega

end ModemDialog.Utf8
