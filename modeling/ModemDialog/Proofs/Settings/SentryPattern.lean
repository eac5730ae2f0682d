import Mathlib.Data.List.Infix
import ModemDialog.Transcript
import ModemDialog.Proofs.Settings.SentryValue
import ModemDialog.Proofs.Text.Decoding
import ModemDialog.Proofs.Text.Escaping

/-! Sentries written with the escapes of a transcript and read with those of a settings file.
The two tables differ: a settings file knows no escape for a quote or for a control character
other than the carriage return, the line feed and the tab. A text comes back unless it holds one
of those, and with it the sentry whose pattern it is. -/
namespace ModemDialog
namespace Escaped

variable {c : Char} {t : Text}

/-- What escaping makes of the character is undone by decoding. -/
def Restored (c : Char) : Prop :=
  c ≠ '\x27' ∧ (0x20 ≤ c.toNat ∧ c.toNat ≠ 0x7F ∨ c = '\r' ∨ c = '\n' ∨ c = '\t')

instance : DecidablePred Restored := fun _ => inferInstanceAs (Decidable (_ ∧ _))

theorem decode_restored (restored : Restored c) (rest : Text) :
    decode (encodeChar c ++ rest) = c :: decode rest := by
  unfold encodeChar
  split
  · next cr =>
    subst cr
    exact decode_named rfl
  split
  · next lf =>
    subst lf
    exact decode_named rfl
  split
  · next tab =>
    subst tab
    exact decode_named rfl
  split
  · next slash =>
    subst slash
    exact decode_named rfl
  split
  · next quote => exact absurd quote restored.1
  split
  · next cr lf tab _ _ control =>
    simp only [Bool.or_eq_true, decide_eq_true_eq] at control
    rcases restored.2 with ⟨low, high⟩ | named | named | named
    · omega
    · exact absurd named cr
    · exact absurd named lf
    · exact absurd named tab
  · next slash _ _ => exact decode_cons slash

theorem decode_not_restored (lost : ¬ Restored c) (rest : Text) :
    c ≠ '\\' ∧ ∃ behind, decode (encodeChar c ++ rest) = '\\' :: behind := by
  unfold encodeChar
  split
  · next cr => exact absurd (by subst cr; decide) lost
  split
  · next lf => exact absurd (by subst lf; decide) lost
  split
  · next tab => exact absurd (by subst tab; decide) lost
  split
  · next slash => exact absurd (by subst slash; decide) lost
  · next slash =>
    refine ⟨slash, ?_⟩
    split
    · exact ⟨_, decode_unnamed rfl⟩
    split
    · exact ⟨_, decode_unnamed rfl⟩
    · next unquoted visible =>
      simp only [Bool.or_eq_true, decide_eq_true_eq, not_or] at visible
      exact absurd ⟨unquoted, .inl (by omega)⟩ lost

theorem decode_encode_iff : decode (encode t) = t ↔ ∀ c ∈ t, Restored c := by
  induction t with
  | nil => simp [encode, decode]
  | cons c t ih =>
      rw [encode_cons, List.forall_mem_cons, ← ih]
      by_cases restored : Restored c
      · rw [decode_restored restored, List.cons_inj_right]
        exact (and_iff_right restored).symm
      · obtain ⟨other, behind, kept⟩ := decode_not_restored restored (encode t)
        rw [kept]
        constructor
        · intro same
          exact absurd (List.head_eq_of_cons_eq same).symm other
        · intro both
          exact absurd both.1 restored

end Escaped

namespace Sentry

/-- The pattern of the sentry is not that of another one: a literal that looks like a wildcard
at its end has a wildcard behind it. -/
def Proper (s : Sentry) : Prop := s.wildcard = none → ∀ d, ¬ marker d <:+ s.literal

theorem three_le_length_marker (d : Delimiter) : 3 ≤ (marker d).length := by
  cases d <;> decide

/-- One delimiter ends like another, but with the star in front of it each is told by its end. -/
theorem marker_end_injective {d e : Delimiter}
    (same : (marker e).reverse.take 3 = (marker d).reverse.take 3) : e = d := by
  revert same
  cases d <;> cases e <;> decide

theorem marker_suffix_iff {d e : Delimiter} (literal : Text) :
    marker e <:+ literal ++ marker d ↔ e = d := by
  constructor
  · intro ends
    have front : (marker e).reverse.take 3 <+: (literal ++ marker d).reverse.take 3 :=
      (List.reverse_prefix.mpr ends).take 3
    rw [List.reverse_append, List.take_append_of_le_length] at front
    · apply marker_end_injective
      apply front.eq_of_length
      have long := three_le_length_marker d
      have long' := three_le_length_marker e
      simp only [List.length_take, List.length_reverse]
      omega
    · rw [List.length_reverse]
      exact three_le_length_marker d
  · rintro rfl
    exact List.suffix_append _ _

theorem ofPattern_wildcard (literal : Text) (d : Delimiter) :
    ofPattern (literal ++ marker d) = ⟨literal, some d⟩ := by
  have other {e : Delimiter} (ne : e ≠ d) :
      (marker e).isSuffixOf? (literal ++ marker d) = none := by
    rw [isSuffixOf?_eq_none_iff, marker_suffix_iff]
    exact ne
  have own : (marker d).isSuffixOf? (literal ++ marker d) = some literal :=
    List.isSuffixOf?_eq_some_iff_append_eq.mpr rfl
  unfold ofPattern
  cases d with
  | crLf => rw [own]
  | cr => rw [other (by decide), own]
  | lf => rw [other (by decide), other (by decide), own]

theorem ofPattern_plain {literal : Text} (bare : ∀ d, ¬ marker d <:+ literal) :
    ofPattern literal = plain literal := by
  unfold ofPattern
  rw [isSuffixOf?_eq_none_iff.mpr (bare .crLf), isSuffixOf?_eq_none_iff.mpr (bare .cr),
    isSuffixOf?_eq_none_iff.mpr (bare .lf)]

theorem ofPattern_pattern_iff {s : Sentry} : ofPattern s.pattern = s ↔ s.Proper := by
  obtain ⟨literal, wildcard⟩ := s
  cases wildcard with
  | some d =>
      rw [show pattern ⟨literal, some d⟩ = literal ++ marker d from rfl, ofPattern_wildcard]
      simp [Proper]
  | none =>
      rw [show pattern ⟨literal, none⟩ = literal from List.append_nil literal]
      constructor
      · rintro same - d ⟨front, ends⟩
        dsimp only at ends
        rw [← ends, ofPattern_wildcard] at same
        exact Option.some_ne_none d (congrArg Sentry.wildcard same)
      · intro proper
        exact ofPattern_plain (proper rfl)

end Sentry

open Escaped (Restored)

/-- A text is escaped and decoded to itself just if it holds no quote and no control character
but carriage returns, line feeds and tabs. So a sentry is read back from its escaped pattern just
if that holds of the pattern and, where it has no wildcard, its literal does not end like one. -/
theorem escaped_pattern_reads_back_iff :
    (∀ t : Text, Escaped.decode (Transcript.escape (Utf8.encode t)) = t ↔ ∀ c ∈ t, Restored c) ∧
    (∀ s : Sentry,
      Sentry.ofPattern (Escaped.decode (Transcript.escape (Utf8.encode s.pattern))) = s ↔
        s.Proper ∧ ∀ c ∈ s.pattern, Restored c) := by
  have text (t : Text) :
      Escaped.decode (Transcript.escape (Utf8.encode t)) = t ↔ ∀ c ∈ t, Restored c := by
    rw [Transcript.escape, Utf8.decodeLossy_encode]
    exact Escaped.decode_encode_iff
  refine ⟨text, ?_⟩
  intro s
  constructor
  · intro back
    have whole := congrArg Sentry.pattern back
    rw [Sentry.pattern_ofPattern] at whole
    rw [whole] at back
    exact ⟨Sentry.ofPattern_pattern_iff.mp back, (text s.pattern).mp whole⟩
  · rintro ⟨proper, restored⟩
    rw [(text s.pattern).mpr restored]
    exact Sentry.ofPattern_pattern_iff.mpr proper

-- Backslashes ahead of a letter, and one at the end.
example : Escaped.decode (Transcript.escape (Utf8.encode "\\\\r\\n\t\\".toList)) =
    "\\\\r\\n\t\\".toList := by
  decide +kernel

end ModemDialog
