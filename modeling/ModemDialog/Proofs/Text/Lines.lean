import ModemDialog.Text.Basic
import Mathlib.Data.List.DropRight

/-! Lines of a text that is put together from pieces, and the blanks at its end. -/
namespace ModemDialog.Text

variable {line rest front t : Text}

theorem lines_append_of_unbroken (unbroken : '\n' ∉ line) (nonempty : line ≠ [])
    (apart : rest.head? ≠ some '\n') :
    lines (line ++ rest) =
      match lines rest with
      | [] => [line]
      | first :: more => (line ++ first) :: more := by
  induction line with
  | nil => exact absurd rfl nonempty
  | cons c line ih =>
      rw [List.mem_cons, not_or] at unbroken
      have next : (line ++ rest).head? ≠ some '\n' := by
        cases line with
        | nil => exact apart
        | cons d line =>
            rintro feed
            simp only [List.cons_append, List.head?_cons, Option.some.injEq] at feed
            simp [feed] at unbroken
      rw [List.cons_append, lines.eq_4]
      · cases line with
        | nil =>
            rw [List.nil_append]
            cases lines rest <;> rfl
        | cons d line =>
            rw [ih unbroken.2 (by simp)]
            cases lines rest <;> rfl
      · exact fun feed => unbroken.1 feed.symm
      · intro more _ feed
        rw [feed] at next
        exact next rfl

theorem lines_append (unbroken : '\n' ∉ line) (rest : Text) :
    lines (line ++ '\r' :: '\n' :: rest) = line :: lines rest := by
  have broken : lines ('\r' :: '\n' :: rest) = [] :: lines rest := by rw [lines]
  cases line with
  | nil => exact broken
  | cons c line =>
      rw [lines_append_of_unbroken unbroken (by simp) (by simp), broken]
      simp only [List.append_nil]

theorem lines_append_feed (unbroken : '\n' ∉ line) (unreturned : line.getLast? ≠ some '\r')
    (rest : Text) : lines (line ++ '\n' :: rest) = line :: lines rest := by
  induction line with
  | nil => rfl
  | cons c line ih =>
      rw [List.mem_cons, not_or] at unbroken
      rw [List.cons_append, lines.eq_4]
      · rw [ih unbroken.2]
        cases line with
        | nil => simp
        | cons d line => simpa [List.getLast?_cons_cons] using unreturned
      · exact fun feed => unbroken.1 feed.symm
      · intro more carriage feed
        cases line with
        | nil =>
            subst carriage
            exact unreturned rfl
        | cons d line =>
            simp only [List.cons_append, List.cons.injEq] at feed
            simp [feed.1] at unbroken

theorem lines_eq_singleton (nonempty : t ≠ []) (unbroken : '\n' ∉ t) : lines t = [t] := by
  have whole : lines (t ++ []) = [t] := lines_append_of_unbroken unbroken nonempty (by simp)
  rwa [List.append_nil] at whole

theorem unbroken_of_mem_lines (t : Text) : ∀ line ∈ lines t, '\n' ∉ line := by
  fun_induction lines t with
  | case1 => simp
  | case2 rest ih => simpa using ih
  | case3 rest ih => simpa using ih
  | case4 c rest notFeed _ _ ih => simpa using fun feed => notFeed feed.symm
  | case5 c rest notFeed _ line more same ih =>
      rw [same] at ih
      simp only [List.mem_cons, forall_eq_or_imp] at ih ⊢
      refine ⟨?_, ih.2⟩
      rintro (feed | mem)
      · exact notFeed feed.symm
      · exact ih.1 mem

theorem trimRight_eq (t : Text) : trimRight t = t.rdropWhile isBlank := rfl

theorem exists_blanks (t : Text) :
    ∃ blanks : Text, t = trimRight t ++ blanks ∧ ∀ c ∈ blanks, isBlank c = true := by
  refine ⟨t.rtakeWhile isBlank, ?_, fun c member => List.mem_rtakeWhile_imp member⟩
  rw [trimRight_eq, List.rdropWhile_append_rtakeWhile]

theorem trimRight_append (solid : trimRight front = front) :
    trimRight (front ++ t) = front ++ trimRight t := by
  unfold trimRight at solid ⊢
  rw [List.reverse_append, List.dropWhile_append]
  split
  · next blank =>
    rw [solid, List.isEmpty_iff.mp blank, List.reverse_nil, List.append_nil]
  · rw [List.reverse_append, List.reverse_reverse]

end ModemDialog.Text
