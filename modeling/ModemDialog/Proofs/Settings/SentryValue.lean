import ModemDialog.Proofs.Settings.Meaning
import ModemDialog.Proofs.Text.Lines
import ModemDialog.Proofs.Text.Occurrence

/-! The value of a sentry line, from the line to the sentry. Blanks ahead of it are part of
the literal; those behind it go with the end of the line. -/
namespace ModemDialog
namespace Escaped

variable {c : Char} {t blanks : Text}

theorem named?_of_blank (blank : Text.isBlank c = true) : named? c = none := by
  unfold named?
  split
  · cases blank
  · cases blank
  · cases blank
  · cases blank
  · rfl

theorem decode_cons (plain : c ≠ '\\') : decode (c :: t) = c :: decode t := by
  rw [decode.eq_4]
  · exact fun slash => absurd slash plain
  · exact fun _ _ slash => absurd slash plain

theorem decode_named {d : Char} (named : named? c = some d) :
    decode ('\\' :: c :: t) = d :: decode t := by
  simp only [decode, named]

theorem decode_unnamed (unnamed : named? c = none) :
    decode ('\\' :: c :: t) = '\\' :: c :: decode t := by
  simp only [decode, unnamed]

theorem decode_eq_nil_iff : decode t = [] ↔ t = [] := by
  fun_cases decode t <;> simp

theorem decode_blanks (blank : ∀ c ∈ blanks, Text.isBlank c = true) : decode blanks = blanks := by
  induction blanks with
  | nil => rfl
  | cons c blanks ih =>
      rw [List.forall_mem_cons] at blank
      have plain : c ≠ '\\' := by
        rintro rfl
        cases blank.1
      rw [decode_cons plain, ih blank.2]

theorem decode_append_blanks (blank : ∀ c ∈ blanks, Text.isBlank c = true) :
    decode (t ++ blanks) = decode t ++ blanks := by
  fun_induction decode t with
  | case1 => exact decode_blanks blank
  | case2 =>
      cases blanks with
      | nil => rfl
      | cons c blanks =>
          rw [List.forall_mem_cons] at blank
          rw [List.cons_append, List.nil_append, decode_unnamed (named?_of_blank blank.1),
            decode_blanks blank.2]
  | case3 c rest d named ih =>
      rw [List.cons_append, List.cons_append, decode_named named, ih]
      rfl
  | case4 c rest unnamed ih =>
      rw [List.cons_append, List.cons_append, decode_unnamed unnamed, ih]
      rfl
  | case5 c rest single pair ih =>
      have plain : c ≠ '\\' := by
        intro slash
        cases rest with
        | nil => exact single slash rfl
        | cons d rest => exact pair d rest slash rfl
      rw [List.cons_append, decode_cons plain, ih]
      rfl

end Escaped

namespace Sentry

theorem pattern_ofPattern (p : Text) : (ofPattern p).pattern = p := by
  unfold ofPattern
  split
  · next literal found => exact List.isSuffixOf?_eq_some_iff_append_eq.mp found
  split
  · next literal found => exact List.isSuffixOf?_eq_some_iff_append_eq.mp found
  split
  · next literal found => exact List.isSuffixOf?_eq_some_iff_append_eq.mp found
  · exact List.append_nil p

theorem ofPattern_injective : Function.Injective ofPattern := by
  intro p q same
  rw [← pattern_ofPattern p, same, pattern_ofPattern]

end Sentry

namespace Settings

open Assignment (sentryKey)

variable {v : Text}

def sentryLine (v : Text) : Text := sentryKey ++ '=' :: v

theorem lines_sentryLine (unbroken : '\n' ∉ v) : Text.lines (sentryLine v) = [sentryLine v] := by
  apply Text.lines_eq_singleton
  · simp [sentryLine]
  · unfold sentryLine
    rw [List.mem_append, List.mem_cons]
    rintro (key | mark | value)
    · revert key
      decide
    · cases mark
    · exact unbroken value

/-- The line is trimmed before it is cut, so the value has lost the blanks at its end. -/
theorem statement?_sentryLine (v : Text) :
    statement? (sentryLine v) = some (sentryLine (Text.trimRight v)) := by
  have left : Text.trimLeft (sentryLine v) = sentryLine v := rfl
  have right : Text.trimRight (sentryLine v) = sentryLine (Text.trimRight v) := by
    have split (v : Text) : sentryLine v = (sentryKey ++ ['=']) ++ v := by
      simp [sentryLine]
    rw [split, split]
    exact Text.trimRight_append (by decide)
  unfold statement?
  dsimp only
  rw [Text.trim, left, right]
  rfl

theorem pair?_sentryLine (v : Text) : pair? (sentryLine v) = some (sentryKey, v) := rfl

theorem judge_sentryLine (number : Nat) (v : Text) :
    judge number (sentryLine v) = some
      (match Value.parseSentry (Text.trimRight v) with
      | .error fault => .error (.badValue number sentryKey (Text.trimRight v) fault)
      | .ok s => .ok (.sentry s)) := by
  rw [judge_eq, statement?_sentryLine, Option.map_some, pair?_sentryLine]
  have known : Assignment.parse? sentryKey (Text.trimRight v) =
      some ((Value.parseSentry (Text.trimRight v)).map .sentry) := rfl
  dsimp only
  rw [known]
  cases Value.parseSentry (Text.trimRight v) <;> rfl

theorem parse_sentryLine (unbroken : '\n' ∉ v) :
    parse (sentryLine v) =
      match Value.parseSentry (Text.trimRight v) with
      | .error fault => (Settings.default, [.badValue 1 sentryKey (Text.trimRight v) fault])
      | .ok s => ({ Settings.default with sentries := [s] }, []) := by
  rw [parse, lines_sentryLine unbroken]
  dsimp only [judgements]
  rw [judge_sentryLine]
  cases Value.parseSentry (Text.trimRight v) <;> rfl

theorem parse_sentryLine_of_blank (unbroken : '\n' ∉ v) (blank : Text.trimRight v = []) :
    parse (sentryLine v) = (Settings.default, [.badValue 1 sentryKey [] .emptySentry]) := by
  rw [parse_sentryLine unbroken, blank]
  rfl

theorem parse_sentryLine_of_solid (unbroken : '\n' ∉ v) (solid : Text.trimRight v ≠ []) :
    parse (sentryLine v) =
      ({ Settings.default with
        sentries := [.ofPattern (Escaped.decode (Text.trimRight v))] }, []) := by
  have full : (Escaped.decode (Text.trimRight v)).isEmpty = false := by
    rw [Bool.eq_false_iff, ne_eq, List.isEmpty_iff, Escaped.decode_eq_nil_iff]
    exact solid
  have read : Value.parseSentry (Text.trimRight v) =
      .ok (.ofPattern (Escaped.decode (Text.trimRight v))) := by
    simp [Value.parseSentry, full]
  rw [parse_sentryLine unbroken, read]

theorem trimRight_eq_of_decode
    (same : Escaped.decode (Text.trimRight v) = Escaped.decode v) : Text.trimRight v = v := by
  obtain ⟨blanks, split, blank⟩ := Text.exists_blanks v
  generalize Text.trimRight v = rest at same split ⊢
  rw [split, Escaped.decode_append_blanks blank, List.self_eq_append_right] at same
  rw [split, same, List.append_nil]

/-- A settings file of one line, which gives a sentry. The value is taken without the blanks at
its end: if none is left the line is reported, else the sentry is that of the rest, decoded. So
a value that is not empty is taken as it stands exactly if it does not end in a blank; blanks
ahead of it are kept. -/
theorem sentry_line_drops_trailing_blanks (unbroken : '\n' ∉ v) :
    (Text.trimRight v = [] →
      parse (sentryLine v) = (Settings.default, [.badValue 1 sentryKey [] .emptySentry])) ∧
    (Text.trimRight v ≠ [] →
      parse (sentryLine v) =
        ({ Settings.default with
          sentries := [.ofPattern (Escaped.decode (Text.trimRight v))] }, [])) ∧
    (Escaped.decode v ≠ [] →
      ((parse (sentryLine v)).2 = [] ∧
          (parse (sentryLine v)).1.sentries = [.ofPattern (Escaped.decode v)] ↔
        Text.trimRight v = v)) := by
  refine ⟨parse_sentryLine_of_blank unbroken, parse_sentryLine_of_solid unbroken, ?_⟩
  intro full
  constructor
  · rintro ⟨silent, taken⟩
    by_cases blank : Text.trimRight v = []
    · rw [parse_sentryLine_of_blank unbroken blank] at silent
      cases silent
    · rw [parse_sentryLine_of_solid unbroken blank] at taken
      apply trimRight_eq_of_decode
      apply Sentry.ofPattern_injective
      exact List.head_eq_of_cons_eq taken
  · intro same
    have solid : Text.trimRight v ≠ [] := by
      rw [same]
      exact mt Escaped.decode_eq_nil_iff.mpr full
    rw [parse_sentryLine_of_solid unbroken solid, same]
    exact ⟨rfl, rfl⟩

theorem sentry_line_keeps_leading_blank :
    '\n' ∉ " >".toList ∧
      parse (sentryLine " >".toList) =
        ({ Settings.default with sentries := [.plain " >".toList] }, []) := by
  have unbroken : '\n' ∉ " >".toList := by decide
  obtain ⟨-, taken, -⟩ := sentry_line_drops_trailing_blanks unbroken
  exact ⟨unbroken, taken (by decide)⟩

/-- The prompt `> ` is read as `>`. -/
theorem sentry_line_loses_trailing_blank :
    '\n' ∉ "> ".toList ∧ Escaped.decode "> ".toList = "> ".toList ∧
      (parse (sentryLine "> ".toList)).1.sentries = [.plain ">".toList] ∧
      (parse (sentryLine "> ".toList)).1.sentries ≠
        [.ofPattern (Escaped.decode "> ".toList)] := by
  decide +kernel

end Settings
end ModemDialog
