import ModemDialog.Proofs.Framing.Closing
import ModemDialog.Proofs.Settings.SentryValue

/-! Which of the sentries in the settings can ever end a response. Only an empty value is
reported; a wildcard marker with nothing in front of it is not empty, but the sentry it makes
has no literal, and no frame is closed by that. -/
namespace ModemDialog
namespace Sentry

open Framing (frame? frame?_eq_some_iff_leads)

variable {s : Sentry}

def Fires (s : Sentry) : Prop := ∃ data frame, frame? [s] data = some frame

theorem literal_ne_nil_of_closes {sentries : List Sentry} {data : Bytes} {frame : Frame}
    (found : frame? sentries data = some frame) (listed : sentries[frame.sentry]? = some s) :
    s.literal ≠ [] := by
  obtain ⟨start, t, leads, -⟩ := frame?_eq_some_iff_leads.mp found
  rw [leads.listed] at listed
  rw [← Option.some.inj listed]
  exact leads.nonempty

def shortest (s : Sentry) : Bytes :=
  s.bytes ++ (s.wildcard.map (Utf8.encode ·.text)).getD []

theorem stop?_shortest (s : Sentry) : s.stop? s.shortest 0 = some s.shortest.length := by
  unfold stop? shortest
  cases s.wildcard with
  | none => simp
  | some d =>
      have mark := firstAt?_eq_zero (List.prefix_refl (Utf8.encode d.text))
      simp [mark]

theorem frame?_shortest (nonempty : s.literal ≠ []) :
    frame? [s] s.shortest = some ⟨s.shortest.length, 0⟩ := by
  have place : s.position? s.shortest = some 0 := by
    rw [position?_eq_some_iff]
    exact ⟨nonempty, firstAt?_eq_zero (List.prefix_append _ _)⟩
  simp [frame?, Framing.earliest?, place, stop?_shortest]

theorem fires_iff : s.Fires ↔ s.literal ≠ [] := by
  constructor
  · rintro ⟨data, frame, found⟩
    have listed : [s][frame.sentry]? = some s := by
      obtain ⟨start, t, leads, -⟩ := frame?_eq_some_iff_leads.mp found
      have listed := leads.listed
      rw [List.getElem?_singleton] at listed ⊢
      split at listed
      · next first => rw [if_pos first]
      · cases listed
    exact literal_ne_nil_of_closes found listed
  · intro nonempty
    exact ⟨s.shortest, _, frame?_shortest nonempty⟩

theorem marker_ne_nil (d : Delimiter) : marker d ≠ [] := by
  cases d <;> decide

theorem ofPattern_marker (d : Delimiter) : ofPattern (marker d) = ⟨[], some d⟩ := by
  cases d <;> rfl

theorem literal_ofPattern_eq_nil_iff {p : Text} (full : p ≠ []) :
    (ofPattern p).literal = [] ↔ ∃ d, p = marker d := by
  constructor
  · intro empty
    have whole := pattern_ofPattern p
    rw [pattern, empty, List.nil_append] at whole
    cases tail : (ofPattern p).wildcard with
    | none =>
        rw [tail] at whole
        exact absurd whole.symm full
    | some d =>
        rw [tail] at whole
        exact ⟨d, whole.symm⟩
  · rintro ⟨d, rfl⟩
    rw [ofPattern_marker]

theorem defaults_fire (listed : s ∈ defaults) : s.Fires := by
  rw [fires_iff]
  revert s
  decide

end Sentry

def SettingsProblem.line : SettingsProblem → Nat
  | .notAPair line _ => line
  | .unknownKey line _ => line
  | .badValue line _ _ _ => line

namespace Settings

open Assignment (sentryKey)

variable {content text v : Text} {number : Nat} {p : SettingsProblem}

theorem line_of_problem? (reported : problem? number text = some p) : p.line = number := by
  unfold problem? at reported
  repeat' split at reported
  all_goals cases reported <;> rfl

theorem mem_statements_iff :
    (text, number) ∈ statements content ↔
      ∃ raw, 1 ≤ number ∧ (Text.lines content)[number - 1]? = some raw ∧
        statement? raw = some text := by
  unfold statements
  simp only [List.mem_filterMap, Option.map_eq_some_iff, Prod.mk.injEq, Prod.exists,
    List.mk_mem_zipIdx_iff_le_and_getElem?_sub]
  constructor
  · rintro ⟨raw, line, ⟨first, listed⟩, text', stated, rfl, rfl⟩
    exact ⟨raw, first, listed, stated⟩
  · rintro ⟨raw, first, listed, stated⟩
    exact ⟨raw, number, ⟨first, listed⟩, text, stated, rfl, rfl⟩

theorem statement_unique {text' : Text} (stated : (text, number) ∈ statements content)
    (stated' : (text', number) ∈ statements content) : text' = text := by
  obtain ⟨raw, -, listed, reads⟩ := mem_statements_iff.mp stated
  obtain ⟨raw', -, listed', reads'⟩ := mem_statements_iff.mp stated'
  rw [listed] at listed'
  cases listed'
  rw [reads] at reads'
  exact (Option.some.inj reads').symm

theorem reported_iff (stated : (text, number) ∈ statements content) :
    (p ∈ (parse content).2 ∧ p.line = number) ↔ problem? number text = some p := by
  rw [(parse_means content).problems, List.mem_filterMap]
  constructor
  · rintro ⟨⟨⟨text', number'⟩, stated', reported⟩, line⟩
    rw [line_of_problem? reported] at line
    subst line
    rw [statement_unique stated stated'] at reported
    exact reported
  · intro reported
    exact ⟨⟨(text, number), stated, reported⟩, line_of_problem? reported⟩

theorem parseSentry_eq (v : Text) :
    Value.parseSentry v =
      if v = [] then .error .emptySentry else .ok (.ofPattern (Escaped.decode v)) := by
  unfold Value.parseSentry
  dsimp only
  simp only [List.isEmpty_iff, Escaped.decode_eq_nil_iff]

def sentryValues (content : Text) : List (Text × Nat) :=
  (statements content).filterMap fun (text, number) =>
    match pair? text with
    | some (key, v) => if key = sentryKey then some (v, number) else none
    | none => none

theorem mem_sentryValues :
    (v, number) ∈ sentryValues content ↔
      ∃ text, (text, number) ∈ statements content ∧ pair? text = some (sentryKey, v) := by
  unfold sentryValues
  rw [List.mem_filterMap]
  constructor
  · rintro ⟨⟨text, number'⟩, stated, found⟩
    dsimp only at found
    split at found
    · next key v' paired =>
      split at found
      · next key =>
        cases found
        exact ⟨text, stated, by rw [paired, key]⟩
      · cases found
    · cases found
  · rintro ⟨text, stated, paired⟩
    exact ⟨(text, number), stated, by simp [paired]⟩

theorem sentry_reported_iff (valued : (v, number) ∈ sentryValues content) :
    (p ∈ (parse content).2 ∧ p.line = number) ↔
      v = [] ∧ p = .badValue number sentryKey v .emptySentry := by
  obtain ⟨text, stated, paired⟩ := mem_sentryValues.mp valued
  rw [reported_iff stated]
  have known : Key.ofWord? sentryKey = some .sentry := rfl
  have read : Key.read .sentry v = Value.parseSentry v := rfl
  unfold problem?
  rw [paired]
  dsimp only
  rw [known]
  dsimp only
  rw [read, parseSentry_eq]
  by_cases empty : v = []
  · rw [if_pos empty]
    simp [empty, eq_comm]
  · rw [if_neg empty]
    simp [empty]

theorem value?_sentry_eq_some_iff {raw : Text} {s : Sentry} :
    Key.sentry.value? raw = some s ↔
      ∃ text v, statement? raw = some text ∧ pair? text = some (sentryKey, v) ∧ v ≠ [] ∧
        .ofPattern (Escaped.decode v) = s := by
  have word : Key.sentry.word = sentryKey := rfl
  have read (v : Text) : Key.sentry.read v = Value.parseSentry v := rfl
  unfold Key.value? keyed?
  cases statement? raw with
  | none => simp
  | some text =>
      simp only [Option.bind_some, Option.some.injEq, exists_and_left, exists_eq_left', word, read,
        parseSentry_eq]
      rcases pair? text with _ | ⟨key, v⟩
      · simp
      · by_cases same : key = sentryKey
        · subst same
          by_cases empty : v = [] <;> simp [empty, Except.toOption]
        · simp [same, Ne.symm same]

theorem mem_values_sentry {s : Sentry} :
    s ∈ Key.sentry.values content ↔
      ∃ v number, (v, number) ∈ sentryValues content ∧ v ≠ [] ∧
        .ofPattern (Escaped.decode v) = s := by
  unfold Key.values
  rw [List.mem_filterMap]
  simp only [mem_sentryValues, mem_statements_iff]
  constructor
  · rintro ⟨raw, listed, found⟩
    obtain ⟨text, v, stated, paired, full, same⟩ := value?_sentry_eq_some_iff.mp found
    obtain ⟨i, place⟩ := List.mem_iff_getElem?.mp listed
    exact ⟨v, i + 1, ⟨text, ⟨raw, by omega, place, stated⟩, paired⟩, full, same⟩
  · rintro ⟨v, number, ⟨text, ⟨raw, -, place, stated⟩, paired⟩, full, same⟩
    exact ⟨raw, List.mem_of_getElem? place,
      value?_sentry_eq_some_iff.mpr ⟨text, v, stated, paired, full, same⟩⟩

theorem decode_ne_nil (full : v ≠ []) : Escaped.decode v ≠ [] :=
  mt Escaped.decode_eq_nil_iff.mp full

theorem fires_of_value_iff (full : v ≠ []) :
    (Sentry.ofPattern (Escaped.decode v)).Fires ↔ ∀ d, Escaped.decode v ≠ Sentry.marker d := by
  rw [Sentry.fires_iff, ne_eq, Sentry.literal_ofPattern_eq_nil_iff (decode_ne_nil full),
    not_exists]

theorem sentry_taken (valued : (v, number) ∈ sentryValues content) (full : v ≠ []) :
    .ofPattern (Escaped.decode v) ∈ (parse content).1.sentries := by
  have own : .ofPattern (Escaped.decode v) ∈ Key.sentry.values content :=
    mem_values_sentry.mpr ⟨v, number, valued, full, rfl⟩
  rw [(parse_means content).sentries, if_neg]
  · exact own
  · rw [List.isEmpty_iff]
    exact List.ne_nil_of_mem own

theorem mem_sentries {s : Sentry} (listed : s ∈ (parse content).1.sentries) :
    s ∈ Sentry.defaults ∨
      ∃ v number, (v, number) ∈ sentryValues content ∧ v ≠ [] ∧
        .ofPattern (Escaped.decode v) = s := by
  rw [(parse_means content).sentries] at listed
  split at listed
  · left
    exact listed
  · right
    exact mem_values_sentry.mp listed

/-- Of the sentry lines of a text exactly those without a value are reported; every other value
gives a sentry, which can end a response unless the value stands for a wildcard marker with
nothing in front of it. So all sentries of the settings can end a response just if no line has
such a value. One that cannot has an empty literal, and closes no frame among others either. -/
theorem configured_sentries_fire_iff (content : Text) :
    (∀ v number, (v, number) ∈ sentryValues content →
      (∀ p, p ∈ (parse content).2 ∧ p.line = number ↔
        v = [] ∧ p = .badValue number sentryKey v .emptySentry) ∧
      (v ≠ [] →
        .ofPattern (Escaped.decode v) ∈ (parse content).1.sentries ∧
        ((Sentry.ofPattern (Escaped.decode v)).Fires ↔
          ∀ d, Escaped.decode v ≠ Sentry.marker d))) ∧
    ((∀ s ∈ (parse content).1.sentries, s.Fires) ↔
      ∀ v number, (v, number) ∈ sentryValues content →
        ∀ d, Escaped.decode v ≠ Sentry.marker d) ∧
    (∀ s ∈ (parse content).1.sentries, ¬ s.Fires →
      (∃ d, s = ⟨[], some d⟩) ∧
      ∀ sentries data frame, Framing.frame? sentries data = some frame →
        sentries[frame.sentry]? ≠ some s) := by
  refine ⟨?_, ?_, ?_⟩
  · intro v number valued
    refine ⟨fun p => sentry_reported_iff valued, ?_⟩
    intro full
    exact ⟨sentry_taken valued full, fires_of_value_iff full⟩
  · constructor
    · intro fire v number valued d bare
      have full : v ≠ [] := by
        rintro rfl
        exact Sentry.marker_ne_nil d bare.symm
      exact (fires_of_value_iff full).mp (fire _ (sentry_taken valued full)) d bare
    · intro none_bare s listed
      rcases mem_sentries listed with default | ⟨v, number, valued, full, rfl⟩
      · exact Sentry.defaults_fire default
      · exact (fires_of_value_iff full).mpr (none_bare v number valued)
  · intro s listed silent
    constructor
    · rcases mem_sentries listed with default | ⟨v, number, valued, full, rfl⟩
      · exact absurd (Sentry.defaults_fire default) silent
      · rw [fires_of_value_iff full, not_forall_not] at silent
        obtain ⟨d, bare⟩ := silent
        exact ⟨d, by rw [bare, Sentry.ofPattern_marker]⟩
    · intro sentries data frame found same
      exact silent (Sentry.fires_iff.mpr (Sentry.literal_ne_nil_of_closes found same))

def bareWildcardLine : Text := "sentry=.*\\r\\n".toList

theorem bare_wildcard_never_fires :
    parse bareWildcardLine = ({ Settings.default with sentries := [⟨[], some .crLf⟩] }, []) ∧
      ¬ (⟨[], some .crLf⟩ : Sentry).Fires := by
  refine ⟨by decide +kernel, ?_⟩
  rw [Sentry.fires_iff]
  exact fun full => full rfl

end Settings
end ModemDialog
