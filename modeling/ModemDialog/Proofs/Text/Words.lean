import ModemDialog.Proofs.Text.Lines

/-! The first word of a line and the rest behind it. White space around a line does not matter;
a trimmed line is its first word alone, or that word, white space, and a rest that is trimmed
too. -/
namespace ModemDialog.Text

variable {t line word rest gap front behind : Text}

structure Trimmed (t : Text) : Prop where
  first : ∀ c ∈ t.head?, isBlank c = false
  last : ∀ c ∈ t.getLast?, isBlank c = false

theorem trimLeft_append_of_blank (blank : ∀ c ∈ front, isBlank c = true) :
    trimLeft (front ++ t) = trimLeft t := List.dropWhile_append_of_pos blank

theorem trimRight_append_of_blank (blank : ∀ c ∈ behind, isBlank c = true) :
    trimRight (t ++ behind) = trimRight t := by
  unfold trimRight
  rw [List.reverse_append, List.dropWhile_append_of_pos]
  exact fun c inside => blank c (List.mem_reverse.mp inside)

theorem trim_surrounded (ahead : ∀ c ∈ front, isBlank c = true)
    (after : ∀ c ∈ behind, isBlank c = true) : trim (front ++ t ++ behind) = trim t := by
  unfold trim
  rw [List.append_assoc, trimLeft_append_of_blank ahead, trimLeft, List.dropWhile_append]
  split
  · next blank =>
    have empty : trimLeft t = [] := List.isEmpty_iff.mp blank
    rw [empty, List.dropWhile_eq_nil_iff.mpr after]
  · exact trimRight_append_of_blank after

theorem head_trimLeft (t : Text) : ∀ c ∈ (trimLeft t).head?, isBlank c = false := by
  intro c first
  have solid := List.head?_dropWhile_not isBlank t
  rw [trimLeft] at first
  rw [Option.mem_def.mp first] at solid
  exact solid

theorem trimLeft_of_head (solid : ∀ c ∈ t.head?, isBlank c = false) : trimLeft t = t := by
  cases t with
  | nil => rfl
  | cons c t => exact List.dropWhile_cons_of_neg (by simp [solid c rfl])

theorem trimRight_eq_reverse (t : Text) : trimRight t = (trimLeft t.reverse).reverse := rfl

theorem Trimmed.reverse (h : Trimmed t) : Trimmed t.reverse :=
  ⟨by simpa using h.last, by simpa using h.first⟩

theorem Trimmed.trim_eq (h : Trimmed t) : trim t = t := by
  rw [trim, trimLeft_of_head h.first, trimRight_eq_reverse, trimLeft_of_head h.reverse.first,
    List.reverse_reverse]

theorem trimmed_trim (t : Text) : Trimmed (trim t) := by
  constructor
  · intro c first
    have front : trim t <+: trimLeft t := List.rdropWhile_prefix isBlank _
    apply head_trimLeft t
    obtain ⟨more, whole⟩ := front
    rw [← whole, List.head?_append, Option.mem_def.mp first]
    rfl
  · have solid := head_trimLeft (trimLeft t).reverse
    rw [← List.getLast?_reverse] at solid
    exact solid

/-- A line is a word alone, or the word and a rest with white space between them. -/
inductive Splits : (line word rest : Text) → Prop where
  | alone {word : Text} : Splits word word []
  | apart {word gap rest : Text} (apart : gap ≠ []) (blank : ∀ c ∈ gap, isBlank c = true)
      (more : rest ≠ []) (trimmed : Trimmed rest) : Splits (word ++ gap ++ rest) word rest

theorem trim_of_gap (blank : ∀ c ∈ gap, isBlank c = true) (trimmed : Trimmed rest) :
    trim (gap ++ rest) = rest := by
  have unpadded : trim (gap ++ rest ++ []) = trim rest := trim_surrounded blank (by simp)
  rwa [List.append_nil, trimmed.trim_eq] at unpadded

theorem exists_gap {c : Char} (blank : isBlank c = true)
    (last : ∀ d ∈ (c :: t).getLast?, isBlank d = false) :
    ∃ gap rest, gap ++ rest = c :: t ∧ gap ≠ [] ∧ (∀ d ∈ gap, isBlank d = true) ∧ rest ≠ [] ∧
      Trimmed rest := by
  have parted : (c :: t).takeWhile isBlank ++ trimLeft (c :: t) = c :: t :=
    List.takeWhile_append_dropWhile
  have gap : ∀ d ∈ (c :: t).takeWhile isBlank, isBlank d = true := fun d inside =>
    List.mem_takeWhile_imp inside
  have more : trimLeft (c :: t) ≠ [] := by
    intro empty
    rw [empty, List.append_nil] at parted
    rw [parted] at gap
    have solid := last _ (List.getLast?_eq_some_getLast (by simp))
    rw [gap _ (List.getLast_mem (by simp))] at solid
    cases solid
  refine ⟨_, _, parted, by simp [blank], gap, more, head_trimLeft _, ?_⟩
  rw [← parted, List.getLast?_append_of_ne_nil _ more] at last
  exact last

theorem splits_of_blank {c : Char} (trimmed : Trimmed (word ++ c :: t)) (blank : isBlank c = true) :
    Splits (word ++ c :: t) word (trim (c :: t)) := by
  have last := trimmed.last
  rw [List.getLast?_append_of_ne_nil _ (by simp)] at last
  obtain ⟨gap, rest, parted, apart, blanks, more, solid⟩ := exists_gap blank last
  rw [← parted, trim_of_gap blanks solid, ← List.append_assoc]
  exact .apart apart blanks more solid

theorem Splits.exists_blank (splits : Splits line word rest) (more : rest ≠ []) :
    ∃ c t, line = word ++ c :: t ∧ isBlank c = true ∧ trim (c :: t) = rest := by
  cases splits with
  | alone => exact absurd rfl more
  | @apart _ gap _ apart blanks _ trimmed =>
      cases gap with
      | nil => exact absurd rfl apart
      | cons c gap =>
          refine ⟨c, gap ++ rest, by simp, blanks c List.mem_cons_self, ?_⟩
          exact trim_of_gap blanks trimmed

theorem headWord_append {c : Char} (solid : ∀ d ∈ word, isBlank d = false)
    (blank : isBlank c = true) : headWord (word ++ c :: t) = (word, trim (c :: t)) := by
  have plain : ∀ d ∈ word, (!isBlank d) = true := by simpa using solid
  unfold headWord
  rw [List.takeWhile_append_of_pos plain, List.dropWhile_append_of_pos plain]
  simp [blank]

theorem headWord_of_solid (solid : ∀ d ∈ word, isBlank d = false) : headWord word = (word, []) := by
  have plain : ∀ d ∈ word, (!isBlank d) = true := by simpa using solid
  unfold headWord
  rw [List.takeWhile_eq_self_iff.mpr plain, List.dropWhile_eq_nil_iff.mpr plain]
  rfl

theorem headWord_of_splits (solid : ∀ c ∈ word, isBlank c = false) (splits : Splits line word rest) :
    headWord line = (word, rest) := by
  by_cases more : rest = []
  · cases splits with
    | alone => exact headWord_of_solid solid
    | apart _ _ filled _ => exact absurd more filled
  · obtain ⟨c, t, rfl, blank, rfl⟩ := splits.exists_blank more
    exact headWord_append solid blank

theorem headWord_splits (trimmed : Trimmed line) :
    Splits line (headWord line).1 (headWord line).2 := by
  have whole : line.takeWhile (!isBlank ·) ++ line.dropWhile (!isBlank ·) = line :=
    List.takeWhile_append_dropWhile
  have start := List.head?_dropWhile_not (!isBlank ·) line
  have plain : ∀ c ∈ line.takeWhile (!isBlank ·), isBlank c = false := by
    intro c inside
    simpa using List.mem_takeWhile_imp inside
  generalize line.takeWhile (!isBlank ·) = word at whole plain
  cases split : line.dropWhile (!isBlank ·) with
  | nil =>
      rw [split, List.append_nil] at whole
      rw [← whole, headWord_of_solid plain]
      exact .alone
  | cons c behind =>
      rw [split] at whole start
      have blank : isBlank c = true := by simpa using start
      rw [← whole] at trimmed ⊢
      rw [headWord_append plain blank]
      exact splits_of_blank trimmed blank

def firstWord (raw : Text) : Text := (headWord (trim raw)).1

variable {raw : Text}

theorem splits_trim_iff (solid : ∀ c ∈ word, isBlank c = false) :
    Splits (trim raw) word rest ↔ firstWord raw = word ∧ (headWord (trim raw)).2 = rest := by
  constructor
  · intro splits
    rw [firstWord, headWord_of_splits solid splits]
    exact ⟨rfl, rfl⟩
  · rintro ⟨opens, rfl⟩
    rw [← opens]
    exact headWord_splits (trimmed_trim raw)

theorem splits_nil_iff : Splits line word [] ↔ line = word := by
  constructor
  · intro splits
    cases splits with
    | alone => rfl
    | apart _ _ more _ => exact absurd rfl more
  · rintro rfl
    exact .alone

theorem trim_eq_word_iff (solid : ∀ c ∈ word, isBlank c = false) :
    trim raw = word ↔ firstWord raw = word ∧ (headWord (trim raw)).2 = [] := by
  rw [← splits_nil_iff, splits_trim_iff solid]

end ModemDialog.Text
