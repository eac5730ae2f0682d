import ModemDialog.Exchange
import ModemDialog.Proofs.Text.Decoding

/-! The echo taken off a response. It is taken off the text, after decoding; the same is left if
its bytes are taken off first, whatever ill-formed bytes stand in the echo or behind it. Only a
replacement character in the command tells the two apart: that is read where its own bytes are
not. -/
namespace ModemDialog

namespace Bytes

variable {front data : Bytes}

def dropFront (front data : Bytes) : Bytes :=
  if front <+: data then data.drop front.length else data

theorem dropFront_append (front rest : Bytes) : dropFront front (front ++ rest) = rest := by
  rw [dropFront, if_pos (List.prefix_append front rest), List.drop_left]

theorem dropFront_of_not_prefix (absent : ¬ front <+: data) : dropFront front data = data :=
  if_neg absent

end Bytes

namespace Utf8

variable {t : Text}

/-- A text taken off the front after decoding leaves what its bytes leave, taken off before. -/
theorem decodeLossy_dropFront (faithful : replacement ∉ t) (data : Bytes) :
    (t.isPrefixOf? (decodeLossy data)).getD (decodeLossy data) =
      decodeLossy (Bytes.dropFront (encode t) data) := by
  by_cases front : encode t <+: data
  · obtain ⟨rest, rfl⟩ := front
    have behind : t.isPrefixOf? (decodeLossy (encode t ++ rest)) = some (decodeLossy rest) :=
      List.isPrefixOf?_eq_some_iff_append_eq.mpr (decodeLossy_encode_append t rest).symm
    rw [behind, Bytes.dropFront_append]
    rfl
  · have missing : t.isPrefixOf? (decodeLossy data) = none :=
      isPrefixOf?_eq_none_iff.mpr (mt (encode_prefix_of_decodeLossy faithful) front)
    rw [missing, Bytes.dropFront_of_not_prefix front]
    rfl

end Utf8

namespace Response

open Utf8 (encode decodeLossy replacement)

variable {command : Text} {raw : Bytes}

/-- The bytes behind the echo: those of the command are taken off the front, then one carriage
return and one line feed, if they are there. -/
def behindEcho (command : Text) (raw : Bytes) : Bytes :=
  if command ≠ [] ∧ encode command <+: raw then
    Bytes.dropFront [0x0A] (Bytes.dropFront [0x0D] (raw.drop (encode command).length))
  else raw

theorem dropLineEnd_decodeLossy (data : Bytes) :
    dropLineEnd (decodeLossy data) =
      decodeLossy (Bytes.dropFront [0x0A] (Bytes.dropFront [0x0D] data)) := by
  have carriage := Utf8.decodeLossy_dropFront (t := ['\r']) (by decide) data
  have feed := Utf8.decodeLossy_dropFront (t := ['\n']) (by decide)
    (Bytes.dropFront (encode ['\r']) data)
  dsimp only [dropLineEnd]
  rw [carriage, feed]
  rfl

theorem withoutEcho_of_read {rest : Text} (nonempty : command ≠ [])
    (read : decodeLossy raw = command ++ rest) : withoutEcho raw command = dropLineEnd rest := by
  have behind : command.isPrefixOf? (decodeLossy raw) = some rest :=
    List.isPrefixOf?_eq_some_iff_append_eq.mpr read.symm
  simp only [withoutEcho, List.isEmpty_iff, nonempty, if_false, behind]

theorem withoutEcho_of_not_prefix (absent : ¬ command <+: decodeLossy raw) :
    withoutEcho raw command = decodeLossy raw := by
  have missing : command.isPrefixOf? (decodeLossy raw) = none :=
    isPrefixOf?_eq_none_iff.mpr absent
  simp only [withoutEcho, missing, ite_self]

theorem withoutEcho_encode_append (nonempty : command ≠ []) (rest : Bytes) :
    withoutEcho (encode command ++ rest) command =
      decodeLossy (Bytes.dropFront [0x0A] (Bytes.dropFront [0x0D] rest)) := by
  rw [withoutEcho_of_read nonempty (Utf8.decodeLossy_encode_append command rest),
    dropLineEnd_decodeLossy]

theorem withoutEcho_eq_decodeLossy (faithful : replacement ∉ command) (raw : Bytes) :
    withoutEcho raw command = decodeLossy (behindEcho command raw) := by
  by_cases echoed : command ≠ [] ∧ encode command <+: raw
  · rw [behindEcho, if_pos echoed]
    obtain ⟨nonempty, rest, rfl⟩ := echoed
    rw [withoutEcho_encode_append nonempty, List.drop_left]
  · rw [behindEcho, if_neg echoed]
    by_cases empty : command = []
    · simp only [withoutEcho, empty, List.isEmpty_nil, if_true]
    · -- Where the bytes of the command are missing, nothing else is read as it.
      apply withoutEcho_of_not_prefix
      intro front
      exact echoed ⟨empty, Utf8.encode_prefix_of_decodeLossy faithful front⟩

/-- The command with one ill-formed byte in place of a replacement character: it is read as the
command, but is not its bytes. -/
theorem exists_misread (replaced : replacement ∈ command) :
    ∃ raw, decodeLossy raw = command ∧ ¬ encode command <+: raw := by
  obtain ⟨front, back, rfl⟩ := List.mem_iff_append.mp replaced
  refine ⟨encode front ++ 0xFF :: encode back, ?_, ?_⟩
  · have lost : Utf8.head 0xFF (encode back) = (none, 0) := rfl
    rw [Utf8.decodeLossy_encode_append, Utf8.decodeLossy_cons, lost, List.drop_zero,
      Utf8.decodeLossy_encode]
    rfl
  · have own : String.utf8EncodeChar replacement = [0xEF, 0xBF, 0xBD] := by decide
    rw [Utf8.encode_append, List.prefix_append_right_inj, Utf8.encode_cons, own, List.cons_append,
      List.cons_prefix_cons]
    exact fun same => absurd same.1 (by decide)

/-- Taking the echo off the text agrees with taking it off the bytes, for every response, exactly
if the command holds no replacement character. -/
theorem withoutEcho_eq_decodeLossy_iff (command : Text) :
    (∀ raw, withoutEcho raw command = decodeLossy (behindEcho command raw)) ↔
      replacement ∉ command := by
  constructor
  · intro agree replaced
    have nonempty : command ≠ [] := List.ne_nil_of_mem replaced
    obtain ⟨raw, read, unlike⟩ := exists_misread replaced
    have taken : withoutEcho raw command = [] :=
      withoutEcho_of_read nonempty (by rw [read, List.append_nil])
    have left : decodeLossy (behindEcho command raw) = command := by
      rw [behindEcho, if_neg (fun echoed => unlike echoed.2), read]
    exact nonempty (left.symm.trans ((agree raw).symm.trans taken))
  · exact withoutEcho_eq_decodeLossy

example : behindEcho "AT".toList (encode "AT\r\r\nOK".toList) = encode "\r\nOK".toList := by
  decide

end Response
end ModemDialog
